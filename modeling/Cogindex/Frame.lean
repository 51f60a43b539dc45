import Cogindex.Convergence

/-!
# Only what changed is touched

What a run leaves alone. A document whose record is confirmed and whose
declaration stays the same is listed in no call, and its row stays the same; if
only its label changes, it is listed in adds only, and its derivatives stay
the same (`ConvergenceMachine.Watched`). Rows that are foreign to the connector
are listed in no call, and at most cognified with everything else that is not
complete. `only_what_changed_is_touched` says so for all runs.
-/

namespace Cogindex

open Coroutine FakeCogneeRuntime

section

variable [Platform]

/-! ## Changes of labels -/

/-- Two specifications say the same of a document but for its label. -/
structure SameButLabel (s s' : CogneeDocumentSpec) : Prop where
  content : s.content = s'.content
  metadata : JsonEq s.externalMetadata.toPyValue s'.externalMetadata.toPyValue
  nodes : SameNodes s.nodeSet s'.nodeSet
  weight : s.importanceWeight = s'.importanceWeight

theorem SpecEq.sameButLabel {s s' : CogneeDocumentSpec} (h : SpecEq s s') : SameButLabel s s' :=
  ⟨h.content, h.metadata, h.nodes, h.weight⟩

section Records

variable (hblake : Blake2bCollisionFree) (hfloat : FloatReprLaws) {s s' : CogneeDocumentSpec}

include hblake hfloat

theorem SameButLabel.agrees (h : SameButLabel s s') (i : UUID) (fp : String) :
    (documentRecordFor s i fp).Agrees (documentRecordFor s' i fp) := by
  refine ⟨(importanceWeightFingerprint_eq_iff hblake hfloat s.weight_eq s'.weight_eq).2 h.weight,
    rfl, ?_, ?_, rfl, rfl⟩
  · exact s.content_eq.symm.trans ((congrArg fingerprintContent h.content).trans s'.content_eq)
  · exact (annotationsFingerprint_eq_iff hblake hfloat s.metadata_wf s'.metadata_wf s.nodes_nodup
      s'.nodes_nodup s.annotations_eq s'.annotations_eq).2 ⟨h.metadata, h.nodes⟩

theorem SpecEq.record_eq (h : SpecEq s s') (i : UUID) (fp : String) :
    documentRecordFor s i fp = documentRecordFor s' i fp := by
  obtain ⟨hweight, -, hcontent, hannotations, -⟩ := h.sameButLabel.agrees hblake hfloat i fp
  have hlabel := (metadataFingerprint_eq_iff hblake hfloat s.metadata_eq s'.metadata_eq).2 h.label
  exact DocumentRecord.mk.injEq .. |>.mpr ⟨rfl, hcontent, hannotations, hlabel, rfl, hweight, rfl⟩

end Records

/-! ## What a batch lists -/

/-- The documents that a call lists. -/
def RuntimeCall.listed : RuntimeCall → List UUID
  | .addDocuments _ payloads => payloads.map DocumentPayload.dataId
  | .purgeDocumentMemory _ dataIds => dataIds
  | .deleteDocuments _ dataIds => dataIds
  | _ => []

/-- A call that adds documents, or only takes the lock. -/
def RuntimeCall.OnlyAdds : RuntimeCall → Prop
  | .addDocuments _ _ => True
  | .lockEnter _ => True
  | .lockExit _ => True
  | _ => False

namespace Batch

variable {b : Batch} {h : DocumentHandler} {c : RuntimeCall} {i : UUID}

/-- A batch lists an id to delete it, to purge it or to write it. -/
theorem Makes.of_mem_listed (hb : b.Sound) (hc : b.Makes h c) (hi : i ∈ c.listed) :
    i ∈ b.deleteIds ∨ i ∈ b.purgeIds ∨ (∃ p, b.payloads[i]? = some p) ∧ c.OnlyAdds := by
  cases hc with
  | deleteDocuments => exact .inl (mem_ordered.1 hi)
  | purgeDocumentMemory => exact .inr (.inl (mem_ordered.1 hi))
  | addDocuments =>
    obtain ⟨p, hp, rfl⟩ := List.mem_map.1 hi
    obtain ⟨j, hj⟩ := mem_orderedPayloads.1 hp
    exact .inr (.inr ⟨⟨p, by rwa [hb.own j p hj]⟩, trivial⟩)
  | lockEnter => cases hi
  | lockExit => cases hi
  | cognifyDataset => cases hi

/-- A batch for which a key has no action does not list its ids. -/
theorem Makes.notMem_listed (hb : b.Sound) (hc : b.Makes h c) {I : Set UUID}
    (hserves : b.Serves I none) (hi : i ∈ I) : i ∉ c.listed := by
  intro hlisted
  rcases hc.of_mem_listed hb hlisted with hmem | hmem | ⟨⟨p, hp⟩, -⟩
  · exact hserves.notMem_deleteIds hi hmem
  · exact hserves.notMem_purgeIds hi hmem
  · rw [hserves.getElem?_payloads hi] at hp
    cases hp

/-- A batch of updates of metadata does nothing but an add. -/
theorem Makes.onlyAdds {actions : List DocumentAction} (hb : collect actions = .ok b)
    (hc : b.Makes h c) (hops : ∀ a ∈ actions, a.op = .updateMetadata)
    (hstale : ∀ a ∈ actions, a.staleDataIds = []) : c.OnlyAdds := by
  obtain ⟨b', hb', rfl⟩ := collect_eq_ok hb
  have hrecreate : b'.recreateIds = ∅ := Finset.eq_empty_of_forall_notMem fun i hi => by
    obtain ⟨a, ha, hop, -⟩ := (hb'.recreateIds i).1 hi
    rw [hops a ha] at hop
    cases hop
  cases hc with
  | lockEnter => trivial
  | lockExit => trivial
  | addDocuments => trivial
  -- Nothing is deleted, purged or cognified: each of them has an action with another op.
  | deleteDocuments hne =>
    obtain ⟨i, hi⟩ := hne
    rw [finish, hrecreate, Finset.union_empty, Finset.mem_filter, hb'.deleteIds] at hi
    obtain ⟨⟨a, ha, hi | ⟨hop, -⟩⟩, -⟩ := hi
    · rw [hstale a ha] at hi
      cases hi
    · rw [hops a ha] at hop
      cases hop
  | purgeDocumentMemory hne =>
    obtain ⟨i, hi⟩ := hne
    obtain ⟨a, ha, hop, -⟩ := (hb'.purgeIds i).1 (Finset.mem_sdiff.1 hi).1
    rw [hops a ha] at hop
    cases hop
  | cognifyDataset _ hneeds =>
    obtain ⟨a, ha, hop⟩ := hb'.needsCognify.1 hneeds
    rw [hops a ha] at hop
    rcases hop with hop | hop | hop <;> cases hop

end Batch

/-! ## The calls of a run -/

namespace ConvergenceMachine

variable {V : Type} (d : Deployment V)

/-- The calls of a step: those of the batch that it applies. -/
def stepCalls (m : ConvergenceMachine V) : Rule V → List RuntimeCall
  | .sync faults | .exitAfterApply faults =>
    match m.round d with
    | .error _ => []
    | .ok outputs => trace perform ((d.handler m.configFp).applyOutputs outputs) faults m.fake
  | _ => []

/-- The calls of a run. -/
def calls (m : ConvergenceMachine V) : List (Rule V) → List RuntimeCall
  | [] => []
  | rule :: rules => m.stepCalls d rule ++ (m.step d rule).calls rules

variable {d} {m : ConvergenceMachine V}

/-- A call of a step is one of the batch of its round. -/
theorem makes_of_mem_stepCalls {rule : Rule V} {c : RuntimeCall} (hc : c ∈ m.stepCalls d rule) :
    ∃ outputs b, m.round d = .ok outputs ∧ Batch.collect (outputs.map (·.2.action)) = .ok b ∧
      b.Sound ∧ b.Makes (d.handler m.configFp) c := by
  -- Only the rules with a round make calls, and these are the ones of its batch.
  have hbatch : ∀ faults, c ∈ (match m.round d with
      | .error _ => []
      | .ok outputs => trace perform ((d.handler m.configFp).applyOutputs outputs) faults m.fake) →
      ∃ outputs b, m.round d = .ok outputs ∧ Batch.collect (outputs.map (·.2.action)) = .ok b ∧
        b.Sound ∧ b.Makes (d.handler m.configFp) c := by
    intro faults hc
    cases hround : m.round d with
    | error e =>
      rw [hround] at hc
      cases hc
    | ok outputs =>
      rw [hround] at hc
      have hcomplete := Deployment.complete_actions hround
      obtain ⟨b, hb⟩ := hcomplete.exists_collect
      refine ⟨outputs, b, rfl, hb, Batch.sound_of_collect hcomplete hb, ?_⟩
      refine AllCalls.mem_trace perform (p := (d.handler m.configFp).applyOutputs outputs) ?_ hc
      exact .ite (fun _ => trivial) fun _ => DocumentHandler.allCalls_apply hb
  cases rule with
  | sync faults => exact hbatch faults hc
  | exitAfterApply faults => exact hbatch faults hc
  | declare => cases hc
  | undeclare => cases hc
  | changeConfig => cases hc
  | migrate => cases hc
  | crashBeforeApply => cases hc

/-- A step cuts every row, by a batch of its round, or does nothing to the store. -/
theorem cut_of_step (rule : Rule V) : (m.step d rule).fake = m.fake ∨ ∃ outputs b,
    m.round d = .ok outputs ∧ Batch.collect (outputs.map (·.2.action)) = .ok b ∧
      ∀ i, b.Cut (d.profileOf m.configFp) i (m.fake.row (keyOf d.handle) i)
        ((m.step d rule).fake.row (keyOf d.handle) i) := by
  cases moves_step (d := d) (m := m) rule with
  | quiet _ hfake => exact .inl hfake
  | lossy _ hfake => exact .inl hfake
  | precommit _ _ hfake => exact .inl hfake
  | cut hround hb _ hwrites => exact .inr ⟨_, _, hround, hb, hwrites.row⟩
  | commit hround hb _ hwrites =>
    refine .inr ⟨_, _, hround, hb, fun i => ?_⟩
    rw [hwrites.row i]
    exact .cognified

/-! ## Watched documents -/

/-- The keys `S` keep records that are `Q`-related to their records `r₀`, under
    the same configuration and in the same version. -/
structure Watched (d : Deployment V) (Q : DocumentRecord → DocumentRecord → Prop)
    (S : Set DocumentKey) (r₀ : DocumentKey → DocumentRecord) (fp : String) (v : V)
    (m : ConvergenceMachine V) : Prop where
  config : m.configFp = fp
  version : m.version = v
  declared : ∀ k ∈ S, ∃ s, m.declared[k]? = some s ∧
    Q (documentRecordFor s (r₀ k).dataId fp) (r₀ k)
  dataId : ∀ k ∈ S, d.dataId v k = .ok (r₀ k).dataId
  present : ∀ k ∈ S, m.tracking.prevMayBeMissing k = false
  records : ∀ k ∈ S, ∀ r ∈ m.tracking.prevRecords k, Q r (r₀ k)

/-- A rule keeps the configuration, the version, and the declarations of `S` in `P`. -/
def Rule.Keeps (S : Set DocumentKey) (P : DocumentKey → CogneeDocumentSpec → Prop) (fp : String)
    (v : V) : Rule V → Prop
  | .declare key spec => key ∈ S → P key spec
  | .undeclare key => key ∉ S
  | .changeConfig fp' _ => fp' = fp
  | .migrate v' => v' = v
  | _ => True

section Watched

variable {Q : DocumentRecord → DocumentRecord → Prop} {S : Set DocumentKey}
  {r₀ : DocumentKey → DocumentRecord} {fp : String} {v : V}

/-- An output for a watched key tracks the record of its declaration. -/
theorem Watched.trackingRecord (h : m.Watched d Q S r₀ fp v) {outputs : Outputs}
    (hround : m.round d = .ok outputs) {k : DocumentKey} (hk : k ∈ S) {o : ReconcileOutput}
    (ho : (k, o) ∈ outputs) : ∃ s, Q (documentRecordFor s (r₀ k).dataId fp) (r₀ k) ∧
      o.trackingRecord = some (documentRecordFor s (r₀ k).dataId fp) ∧
      (d.handler fp).reconcileId k.text (r₀ k).dataId (some s) (m.tracking.prevRecords k) false =
        some o := by
  obtain ⟨s, hs, hQ⟩ := h.declared k hk
  obtain ⟨i, hi, hreconcile⟩ := Deployment.reconcileId_of_mem hround ho
  rw [h.version, h.dataId k hk] at hi
  cases hi
  rw [h.config, hs, h.present k hk] at hreconcile
  exact ⟨s, hQ, (DocumentHandler.reconcileId_action hreconcile).2.2.2.2, hreconcile⟩

/-- Precommitting and committing the outputs of a round keep watched records. -/
theorem Watched.tracking (h : m.Watched d Q S r₀ fp v) {outputs : Outputs}
    (hround : m.round d = .ok outputs) {tracking : Tracking}
    (ht : tracking = m.tracking.precommit outputs ∨
      tracking = (m.tracking.precommit outputs).commit outputs) (fake : FakeCogneeRuntime) :
    ({ m with fake, tracking } : ConvergenceMachine V).Watched d Q S r₀ fp v := by
  have hnodup := Tracking.outputs_nodup hround
  have hkey : ∀ k ∈ S, tracking.prevMayBeMissing k = false ∧
      ∀ r ∈ tracking.prevRecords k, Q r (r₀ k) := by
    intro k hk
    -- A key with an output gets its new record, and every other one keeps its entry.
    by_cases ho : ∃ o, (k, o) ∈ outputs
    · obtain ⟨o, ho⟩ := ho
      obtain ⟨s, hQ, hrecord, -⟩ := h.trackingRecord hround hk ho
      rcases ht with rfl | rfl
      · rw [Tracking.prevMayBeMissing_precommit hnodup ho, hrecord, h.present k hk]
        refine ⟨rfl, fun r hr => ?_⟩
        rw [Tracking.mem_prevRecords_precommit hnodup ho, hrecord] at hr
        rcases hr with hr | hr
        · exact h.records k hk r hr
        · exact Option.some.inj hr ▸ hQ
      · rw [Tracking.prevMayBeMissing_commit hnodup ho, hrecord,
          Tracking.prevRecords_commit hnodup ho, hrecord]
        exact ⟨rfl, fun r hr => List.mem_singleton.1 hr ▸ hQ⟩
    · have ho' : ∀ o, (k, o) ∉ outputs := fun o h => ho ⟨o, h⟩
      have hpre := Tracking.getElem?_precommit_of_notMem m.tracking hnodup ho'
      have hentry : tracking[k]? = m.tracking[k]? := by
        rcases ht with rfl | rfl
        exacts [hpre, (Tracking.getElem?_commit_of_notMem hnodup ho').trans hpre]
      rw [Tracking.prevMayBeMissing_congr hentry, Tracking.prevRecords_congr hentry]
      exact ⟨h.present k hk, h.records k hk⟩
  exact ⟨h.config, h.version, h.declared, h.dataId, fun k hk => (hkey k hk).1,
    fun k hk => (hkey k hk).2⟩

theorem Watched.step (h : m.Watched d Q S r₀ fp v) {P : DocumentKey → CogneeDocumentSpec → Prop}
    (hP : ∀ k ∈ S, ∀ s, P k s → Q (documentRecordFor s (r₀ k).dataId fp) (r₀ k)) {rule : Rule V}
    (hrule : rule.Keeps S P fp v) : (m.step d rule).Watched d Q S r₀ fp v := by
  cases rule with
  | declare key spec =>
    refine ⟨h.config, h.version, fun k hk => ?_, h.dataId, h.present, h.records⟩
    show ∃ s, (m.declared.insert key spec)[k]? = some s ∧ _
    rw [Std.ExtTreeMap.getElem?_insert]
    split_ifs with hkey
    · obtain rfl := compare_eq_iff_eq.1 hkey
      exact ⟨spec, rfl, hP key hk spec (hrule hk)⟩
    · exact h.declared k hk
  | undeclare key =>
    refine ⟨h.config, h.version, fun k hk => ?_, h.dataId, h.present, h.records⟩
    show ∃ s, (m.declared.erase key)[k]? = some s ∧ _
    rw [Std.ExtTreeMap.getElem?_erase, if_neg]
    · exact h.declared k hk
    · rintro hkey
      exact hrule (compare_eq_iff_eq.1 hkey ▸ hk)
  | changeConfig fp' delivered =>
    have hsame : fp' = m.configFp := Eq.trans hrule h.config.symm
    rwa [ConvergenceMachine.step, if_pos hsame]
  | migrate v' => exact ⟨h.config, hrule, h.declared, h.dataId, h.present, h.records⟩
  | crashBeforeApply =>
    rw [ConvergenceMachine.step]
    cases hround : m.round d with
    | error e => exact h
    | ok outputs => exact h.tracking hround (.inl rfl) m.fake
  | exitAfterApply faults =>
    rw [ConvergenceMachine.step]
    cases hround : m.round d with
    | error e => exact h
    | ok outputs => exact h.tracking hround (.inl rfl) _
  | sync faults =>
    rw [ConvergenceMachine.step]
    cases hround : m.round d with
    | error e =>
      rw [sync, hround]
      exact h
    | ok outputs =>
      rw [sync_eq hround]
      refine h.tracking hround ?_ _
      cases (m.applied d outputs faults).1 with
      | error e => exact .inl rfl
      | ok u => exact .inr rfl

/-- A watched document whose records agree has only its label written. -/
theorem Watched.op_eq (hdiff : DiffContract) (h : m.Watched d DocumentRecord.Agrees S r₀ fp v)
    {outputs : Outputs} (hround : m.round d = .ok outputs) {k : DocumentKey} (hk : k ∈ S)
    {o : ReconcileOutput} (ho : (k, o) ∈ outputs) :
    o.action.op = .updateMetadata ∧ o.action.staleDataIds = [] := by
  obtain ⟨s, hQ, -, hreconcile⟩ := h.trackingRecord hround hk ho
  have hagrees : ∀ r ∈ m.tracking.prevRecords k,
      r.Agrees (documentRecordFor s (r₀ k).dataId fp) := fun r hr =>
    (h.records k hk r hr).trans hQ.symm
  constructor
  · have hclass := DocumentHandler.reconcileId_classified hdiff hreconcile
    generalize o.action.op = op at hclass
    cases hclass with
    | recreate hex =>
      obtain ⟨r, hr, hne⟩ := hex
      exact absurd (hagrees r hr).1 hne
    | replace _ hex =>
      obtain ⟨r, hr, hne⟩ := hex.resolve_left Bool.false_ne_true
      exact absurd (hagrees r hr).2 hne
    | upsert _ hmissing => cases hmissing
    | updateMetadata => rfl
  · rw [(DocumentHandler.reconcileId_action hreconcile).2.1]
    refine List.eq_nil_iff_forall_not_mem.2 fun j hj => ?_
    obtain ⟨hne, r, hr, rfl⟩ := DocumentHandler.mem_staleDataIds.1 hj
    exact hne (hagrees r hr).2.1

/-- A watched document whose record stays the same has nothing done to it. -/
theorem Watched.notMem_outputs (hdiff : DiffContract) (h : m.Watched d Eq S r₀ fp v)
    {outputs : Outputs} (hround : m.round d = .ok outputs) {k : DocumentKey} (hk : k ∈ S)
    (o : ReconcileOutput) : (k, o) ∉ outputs := by
  intro ho
  obtain ⟨s, hQ, -, hreconcile⟩ := h.trackingRecord hround hk ho
  have hall : ∀ r ∈ m.tracking.prevRecords k, r = documentRecordFor s (r₀ k).dataId
      (d.handler fp).processingFingerprint := fun r hr => (h.records k hk r hr).trans hQ.symm
  rw [(DocumentHandler.reconcileId_eq_none_iff hdiff).2 ⟨rfl, hall⟩] at hreconcile
  cases hreconcile

/-- A document whose record stays the same is not touched by a step. -/
theorem Watched.step_untouched (hsep : d.Separated) (hdiff : DiffContract) (hcov : m.Covered d)
    (h : m.Watched d Eq S r₀ fp v) {k : DocumentKey} (hk : k ∈ S) (rule : Rule V) :
    (∀ c ∈ m.stepCalls d rule, (r₀ k).dataId ∉ c.listed) ∧
      (m.step d rule).fake.row (keyOf d.handle) (r₀ k).dataId =
        m.fake.row (keyOf d.handle) (r₀ k).dataId := by
  have hi : (r₀ k).dataId ∈ d.ids k := ⟨v, h.dataId k hk⟩
  have hserves : ∀ {outputs : Outputs} {b : Batch}, m.round d = .ok outputs →
      Batch.collect (outputs.map (·.2.action)) = .ok b → b.Serves (d.ids k) none :=
    fun hround hb => Deployment.serves_none hsep hround (fun _ _ _ => Set.mem_univ _) hcov hb
      (h.notMem_outputs hdiff hround hk)
  constructor
  · intro c hc
    obtain ⟨outputs, b, hround, hb, hsound, hmakes⟩ := makes_of_mem_stepCalls hc
    exact hmakes.notMem_listed hsound (hserves hround hb) hi
  · rcases cut_of_step (d := d) (m := m) rule with hfake | ⟨outputs, b, hround, hb, hcut⟩
    · rw [hfake]
    -- The batch may cognify the row, which is settled and stays what it is.
    · obtain ⟨x, hx, hsettled⟩ := (hcov k (Set.mem_univ k)).settled (h.present k hk) (r₀ k)
        fun r hr => h.records k hk r hr ▸ .refl _
      have hrow := Covers.cut_others (hserves hround hb) hi (hcut _)
      rw [hx, Batch.cognifyRow, Option.map_some, hsettled.cognify_eq, ite_self, or_self] at hrow
      rw [hrow, hx]

/-- A document of which only the label changes is only added by a step. -/
theorem Watched.step_onlyAdds (hsep : d.Separated) (hdiff : DiffContract) (hcov : m.Covered d)
    (h : m.Watched d DocumentRecord.Agrees S r₀ fp v) {k : DocumentKey} (hk : k ∈ S)
    {rule : Rule V} {c : RuntimeCall} (hc : c ∈ m.stepCalls d rule)
    (hlisted : (r₀ k).dataId ∈ c.listed) : c.OnlyAdds := by
  have hi : (r₀ k).dataId ∈ d.ids k := ⟨v, h.dataId k hk⟩
  obtain ⟨outputs, b, hround, hb, hsound, hmakes⟩ := makes_of_mem_stepCalls hc
  have hkeys : ∀ k o, (k, o) ∈ outputs → k ∈ (Set.univ : Set DocumentKey) :=
    fun _ _ _ => Set.mem_univ _
  by_cases ho : ∃ o, (k, o) ∈ outputs
  · obtain ⟨o, ho⟩ := ho
    obtain ⟨hop, -⟩ := h.op_eq hdiff hround hk ho
    obtain ⟨s, -, -, hreconcile⟩ := h.trackingRecord hround hk ho
    have hserves := Deployment.serves_output hsep hround hkeys hcov hb ho
    rcases hmakes.of_mem_listed hsound hlisted with hmem | hmem | ⟨-, hadds⟩
    · rcases (Covers.mem_deleteIds hreconcile hserves hi).1 hmem with ⟨hne, -⟩ | ⟨-, hop'⟩
      · exact absurd rfl hne
      · rw [hop] at hop'
        rcases hop' with hop' | hop' <;> cases hop'
    · obtain ⟨-, hop'⟩ := (Covers.mem_purgeIds hreconcile hserves hi).1 hmem
      rw [hop] at hop'
      cases hop'
    · exact hadds
  -- Without an output, the key is in no phase of the batch.
  · have hserves := Deployment.serves_none hsep hround hkeys hcov hb fun o h => ho ⟨o, h⟩
    exact absurd hlisted (hmakes.notMem_listed hsound hserves hi)

/-- A batch for such documents only does nothing but an add. -/
theorem Watched.batch_onlyAdds (hdiff : DiffContract)
    (h : m.Watched d DocumentRecord.Agrees S r₀ fp v) {rule : Rule V} {outputs : Outputs}
    (hround : m.round d = .ok outputs) (hkeys : ∀ k o, (k, o) ∈ outputs → k ∈ S) {c : RuntimeCall}
    (hc : c ∈ m.stepCalls d rule) : c.OnlyAdds := by
  obtain ⟨outputs', b, hround', hb, -, hmakes⟩ := makes_of_mem_stepCalls hc
  obtain rfl : outputs = outputs' := Except.ok.inj (hround.symm.trans hround')
  have hops : ∀ a ∈ outputs.map (·.2.action), a.op = .updateMetadata ∧ a.staleDataIds = [] := by
    intro a ha
    obtain ⟨⟨k, o⟩, ho, rfl⟩ := List.mem_map.1 ha
    exact h.op_eq hdiff hround (hkeys k o ho) ho
  exact hmakes.onlyAdds hb (fun a ha => (hops a ha).1) fun a ha => (hops a ha).2

/-! ## Runs -/

variable {P : DocumentKey → CogneeDocumentSpec → Prop} {rules : List (Rule V)}

theorem Watched.run (h : m.Watched d Q S r₀ fp v)
    (hP : ∀ k ∈ S, ∀ s, P k s → Q (documentRecordFor s (r₀ k).dataId fp) (r₀ k))
    (hrules : ∀ rule ∈ rules, rule.Keeps S P fp v) : (m.run d rules).Watched d Q S r₀ fp v := by
  induction rules generalizing m with
  | nil => exact h
  | cons rule rules ih =>
    exact ih (h.step hP (hrules rule List.mem_cons_self))
      fun rule' hrule => hrules rule' (List.mem_cons_of_mem _ hrule)

theorem Watched.run_untouched (hsep : d.Separated) (hdiff : DiffContract) (hcov : m.Covered d)
    (h : m.Watched d Eq S r₀ fp v)
    (hP : ∀ k ∈ S, ∀ s, P k s → documentRecordFor s (r₀ k).dataId fp = r₀ k)
    (hrules : ∀ rule ∈ rules, rule.Keeps S P fp v) {k : DocumentKey} (hk : k ∈ S) :
    (∀ c ∈ m.calls d rules, (r₀ k).dataId ∉ c.listed) ∧
      (m.run d rules).fake.row (keyOf d.handle) (r₀ k).dataId =
        m.fake.row (keyOf d.handle) (r₀ k).dataId := by
  induction rules generalizing m with
  | nil => exact ⟨nofun, rfl⟩
  | cons rule rules ih =>
    obtain ⟨hcalls, hrow⟩ := h.step_untouched hsep hdiff hcov hk rule
    obtain ⟨hcalls', hrow'⟩ := ih (hcov.step hsep hdiff rule)
      (h.step hP (hrules rule List.mem_cons_self))
      fun rule' hrule => hrules rule' (List.mem_cons_of_mem _ hrule)
    refine ⟨fun c hc => ?_, hrow'.trans hrow⟩
    rcases List.mem_append.1 hc with hc | hc
    exacts [hcalls c hc, hcalls' c hc]

theorem Watched.run_onlyAdds (hsep : d.Separated) (hdiff : DiffContract) (hcov : m.Covered d)
    (h : m.Watched d DocumentRecord.Agrees S r₀ fp v)
    (hP : ∀ k ∈ S, ∀ s, P k s → (documentRecordFor s (r₀ k).dataId fp).Agrees (r₀ k))
    (hrules : ∀ rule ∈ rules, rule.Keeps S P fp v) {k : DocumentKey} (hk : k ∈ S) :
    ∀ c ∈ m.calls d rules, (r₀ k).dataId ∈ c.listed → c.OnlyAdds := by
  induction rules generalizing m with
  | nil => nofun
  | cons rule rules ih =>
    intro c hc hlisted
    rcases List.mem_append.1 hc with hc | hc
    · exact h.step_onlyAdds hsep hdiff hcov hk hc hlisted
    · exact ih (hcov.step hsep hdiff rule) (h.step hP (hrules rule List.mem_cons_self))
        (fun rule' hrule => hrules rule' (List.mem_cons_of_mem _ hrule)) c hc hlisted

/-- The derivatives of a document of which only the label changes are those of
    its records. -/
theorem Watched.settled (hcov : m.Covered d) (h : m.Watched d DocumentRecord.Agrees S r₀ fp v)
    {k : DocumentKey} (hk : k ∈ S) : ∃ x,
      m.fake.row (keyOf d.handle) (r₀ k).dataId = some x ∧ Settled d.profileOf (r₀ k) x :=
  (hcov k (Set.mem_univ k)).settled (h.present k hk) (r₀ k) (h.records k hk)

end Watched

/-! ## Foreign rows -/

/-- An id that is neither that of a declared or tracked key nor in a possible record. -/
def Foreign (d : Deployment V) (m : ConvergenceMachine V) (i : UUID) : Prop :=
  (∀ k ∈ Tracking.roundKeys m.declared m.tracking, d.dataId m.version k ≠ .ok i) ∧
    ∀ k, ∀ r ∈ m.tracking.prevRecords k, r.dataId ≠ i

/-- A batch has no action for a foreign id. -/
theorem Foreign.serves {i : UUID} (h : m.Foreign d i) {outputs : Outputs} {b : Batch}
    (hround : m.round d = .ok outputs)
    (hb : Batch.collect (outputs.map (·.2.action)) = .ok b) : b.Serves {i} none := by
  refine Batch.serves_of_collect hb (fun a ha => absurd ha (Option.not_mem_none a)) fun a ha => ?_
  obtain ⟨⟨k, o⟩, ho, rfl⟩ := List.mem_map.1 ha
  obtain ⟨j, hj, hreconcile⟩ := Deployment.reconcileId_of_mem hround ho
  obtain ⟨hid, hstale, -⟩ := DocumentHandler.reconcileId_action hreconcile
  rw [hid, hstale]
  refine .inr ⟨?_, fun l hl hli => ?_⟩
  · rintro rfl
    exact h.1 k ((Tracking.mem_outputs hround).1 ho).1 hj
  · obtain ⟨-, r, hr, rfl⟩ := DocumentHandler.mem_staleDataIds.1 hl
    exact h.2 k r hr hli

theorem Foreign.step {i : UUID} (h : m.Foreign d i) (rule : Rule V) :
    (∀ c ∈ m.stepCalls d rule, i ∉ c.listed) ∧
      ((m.step d rule).fake.row (keyOf d.handle) i = m.fake.row (keyOf d.handle) i ∨
        ∃ profile, (m.step d rule).fake.row (keyOf d.handle) i =
          (m.fake.row (keyOf d.handle) i).map (FakeDocument.cognify profile)) := by
  constructor
  · intro c hc
    obtain ⟨outputs, b, hround, hb, hsound, hmakes⟩ := makes_of_mem_stepCalls hc
    exact hmakes.notMem_listed hsound (h.serves hround hb) rfl
  · rcases cut_of_step (d := d) (m := m) rule with hfake | ⟨outputs, b, hround, hb, hcut⟩
    · exact .inl (by rw [hfake])
    · have hrow := Covers.cut_others (h.serves hround hb) rfl (hcut i)
      rw [Batch.cognifyRow] at hrow
      split_ifs at hrow
      · exact hrow.imp_right fun hrow => ⟨_, hrow⟩
      · exact .inl (hrow.elim id id)

/-- As long as an id is foreign, its row is at most cognified. -/
theorem Foreign.run {i : UUID} {rules : List (Rule V)}
    (h : ∀ before, before <+: rules → (m.run d before).Foreign d i) :
    (∀ c ∈ m.calls d rules, i ∉ c.listed) ∧
      ((m.run d rules).fake.row (keyOf d.handle) i = m.fake.row (keyOf d.handle) i ∨
        ∃ profile, (m.run d rules).fake.row (keyOf d.handle) i =
          (m.fake.row (keyOf d.handle) i).map (FakeDocument.cognify profile)) := by
  induction rules generalizing m with
  | nil => exact ⟨nofun, .inl rfl⟩
  | cons rule rules ih =>
    have hnow : m.Foreign d i := h [] List.nil_prefix
    obtain ⟨hcalls, hrow⟩ := hnow.step rule
    obtain ⟨hcalls', hrow'⟩ := ih fun before hbefore =>
      h (rule :: before) (List.cons_prefix_cons.2 ⟨rfl, hbefore⟩)
    refine ⟨fun c hc => ?_, ?_⟩
    · rcases List.mem_append.1 hc with hc | hc
      exacts [hcalls c hc, hcalls' c hc]
    · show (((m.step d rule).run d rules).fake.row _ i = _) ∨ _
      rcases hrow with hrow | ⟨profile, hrow⟩
      · rw [hrow] at hrow'
        exact hrow'
      · refine .inr ⟨profile, ?_⟩
        rcases hrow' with hrow' | ⟨profile', hrow'⟩
        · exact hrow'.trans hrow
        -- Of two cognifies, the last one counts.
        · refine hrow'.trans ?_
          rw [hrow, Option.map_map]
          exact congrArg (Option.map · _) (funext (FakeDocument.cognify_cognify profile profile'))

/-! ## Main result -/

/-- A key is confirmed: the record of a specification is its only possible
    state, under the current configuration. -/
def Confirmed (d : Deployment V) (m : ConvergenceMachine V) (k : DocumentKey) (i : UUID)
    (spec : CogneeDocumentSpec) : Prop :=
  d.dataId m.version k = .ok i ∧
    m.tracking[k]? = some ⟨[some (documentRecordFor spec i m.configFp)], false⟩

/-- What runs from a state leave alone. -/
structure TouchesOnlyChanges (d : Deployment V) (m : ConvergenceMachine V) : Prop where
  /-- A document whose declaration says the same as its confirmed record. -/
  unchanged : ∀ k i spec, m.Confirmed d k i spec → (∃ s, m.declared[k]? = some s ∧ SpecEq s spec) →
    ∀ rules : List (Rule V),
      (∀ rule ∈ rules, rule.Keeps {k} (fun _ s => SpecEq s spec) m.configFp m.version) →
        (∀ c ∈ m.calls d rules, i ∉ c.listed) ∧
          (m.run d rules).fake.row (keyOf d.handle) i = m.fake.row (keyOf d.handle) i
  /-- Documents of which only the label changes, and the batches for them only. -/
  relabelled : ∀ (S : Set DocumentKey) (ids : DocumentKey → UUID)
    (specs : DocumentKey → CogneeDocumentSpec), (∀ k ∈ S, m.Confirmed d k (ids k) (specs k)) →
    (∀ k ∈ S, ∃ s, m.declared[k]? = some s ∧ SameButLabel s (specs k)) →
    ∀ rules : List (Rule V),
      (∀ rule ∈ rules, rule.Keeps S (fun k s => SameButLabel s (specs k)) m.configFp m.version) →
        (∀ k ∈ S, (∀ c ∈ m.calls d rules, ids k ∈ c.listed →
            ∃ handle ps, c = .addDocuments handle ps) ∧
          ∃ x x', m.fake.row (keyOf d.handle) (ids k) = some x ∧
            (m.run d rules).fake.row (keyOf d.handle) (ids k) = some x' ∧
            x'.derivedFragments = x.derivedFragments ∧ x'.derivedProfile = x.derivedProfile ∧
            x'.cognifyComplete = x.cognifyComplete) ∧
        ∀ rule outputs, (m.run d rules).round d = .ok outputs → (∀ k o, (k, o) ∈ outputs → k ∈ S) →
          ∀ c ∈ (m.run d rules).stepCalls d rule, c.OnlyAdds
  /-- Rows that are not those of the connector. -/
  foreign : ∀ i (rules : List (Rule V)),
    (∀ before, before <+: rules → (m.run d before).Foreign d i) →
      (∀ c ∈ m.calls d rules, i ∉ c.listed) ∧
        ((m.run d rules).fake.row (keyOf d.handle) i = m.fake.row (keyOf d.handle) i ∨
          ∃ profile, (m.run d rules).fake.row (keyOf d.handle) i =
            (m.fake.row (keyOf d.handle) i).map (FakeDocument.cognify profile))

/-- Confirmed keys are watched. -/
theorem watched_of_confirmed {Q : DocumentRecord → DocumentRecord → Prop}
    (hQ : ∀ r, Q r r) {S : Set DocumentKey} {ids : DocumentKey → UUID}
    {specs : DocumentKey → CogneeDocumentSpec}
    (hconfirmed : ∀ k ∈ S, m.Confirmed d k (ids k) (specs k))
    (hdeclared : ∀ k ∈ S, ∃ s, m.declared[k]? = some s ∧ Q (documentRecordFor s (ids k) m.configFp)
      (documentRecordFor (specs k) (ids k) m.configFp)) :
    m.Watched d Q S (fun k => documentRecordFor (specs k) (ids k) m.configFp) m.configFp
      m.version where
  config := rfl
  version := rfl
  declared := hdeclared
  dataId k hk := (hconfirmed k hk).1
  present k hk := by
    rw [Tracking.prevMayBeMissing, (hconfirmed k hk).2, Option.elim_some]
    simp
  records k hk r hr := by
    rw [Tracking.prevRecords, (hconfirmed k hk).2, Option.elim_some, List.reduceOption_mem_iff,
      List.mem_singleton, Option.some.injEq] at hr
    rw [hr]
    exact hQ _

/-- A complete sync confirms a declared document that may have been missing. -/
theorem confirmed_of_sync (hdiff : DiffContract) {faults : List (Option Fault)}
    (hok : (m.sync d faults).1 = .ok ()) {k : DocumentKey} {spec : CogneeDocumentSpec}
    (hspec : m.declared[k]? = some spec) (hmissing : m.tracking.prevMayBeMissing k = true) :
    ∃ i, (m.sync d faults).2.Confirmed d k i spec := by
  obtain ⟨outputs, hround, hm'⟩ := sync_ok hok
  have hk : k ∈ m.declared := Std.ExtTreeMap.isSome_getElem?_iff_mem.1 (by rw [hspec]; rfl)
  obtain ⟨o, ho⟩ := Deployment.exists_output_of_missing hdiff hround hk hmissing
  obtain ⟨i, hi, hreconcile⟩ := Deployment.reconcileId_of_mem hround ho
  obtain ⟨-, -, -, -, htracking⟩ := DocumentHandler.reconcileId_action hreconcile
  rw [hm']
  refine ⟨i, hi, ?_⟩
  rw [Tracking.getElem?_commit (Tracking.outputs_nodup hround) ho, htracking, hspec]
  rfl

theorem Covered.touchesOnlyChanges (hblake : Blake2bCollisionFree) (hfloat : FloatReprLaws)
    (hsep : d.Separated) (hdiff : DiffContract) (hcov : m.Covered d) :
    m.TouchesOnlyChanges d where
  unchanged k i spec hconfirmed := by
    rintro ⟨s, hs, hspec⟩ rules hrules
    have hwatched : m.Watched d Eq {k} (fun _ => documentRecordFor spec i m.configFp) m.configFp
        m.version := watched_of_confirmed (fun _ => rfl)
      (fun _ hl => Set.mem_singleton_iff.1 hl ▸ hconfirmed) fun _ hl =>
        ⟨s, Set.mem_singleton_iff.1 hl ▸ hs, hspec.record_eq hblake hfloat i m.configFp⟩
    exact hwatched.run_untouched hsep hdiff hcov
      (fun _ _ s hs => hs.record_eq hblake hfloat i m.configFp) hrules (Set.mem_singleton k)
  relabelled S ids specs hconfirmed hdeclared rules hrules := by
    have hwatched : m.Watched d DocumentRecord.Agrees S
        (fun k => documentRecordFor (specs k) (ids k) m.configFp) m.configFp m.version :=
      watched_of_confirmed .refl hconfirmed fun k hk => (hdeclared k hk).imp fun s hs =>
        ⟨hs.1, hs.2.agrees hblake hfloat _ _⟩
    have hP : ∀ k ∈ S, ∀ s, SameButLabel s (specs k) →
        (documentRecordFor s (ids k) m.configFp).Agrees
          (documentRecordFor (specs k) (ids k) m.configFp) := fun _ _ _ hs =>
      hs.agrees hblake hfloat _ _
    have hwatched' := hwatched.run hP hrules
    refine ⟨fun k hk => ⟨fun c hc hlisted => ?_, ?_⟩, fun rule outputs hround hkeys c hc =>
      hwatched'.batch_onlyAdds hdiff hround hkeys hc⟩
    · have hadds := hwatched.run_onlyAdds hsep hdiff hcov hP hrules hk c hc hlisted
      cases c with
      | addDocuments handle ps => exact ⟨handle, ps, rfl⟩
      | lockEnter => cases hlisted
      | lockExit => cases hlisted
      | _ => exact hadds.elim
    · -- Both rows have converged to the same record, but for the label.
      obtain ⟨x, hx, hsettled⟩ := hwatched.settled hcov hk
      obtain ⟨x', hx', hsettled'⟩ := hwatched'.settled (hcov.run hsep hdiff rules) hk
      exact ⟨x, x', hx, hx', hsettled'.fragments.trans hsettled.fragments.symm,
        hsettled'.profile.trans hsettled.profile.symm,
        hsettled'.complete.trans hsettled.complete.symm⟩
  foreign _ _ h := Foreign.run h

end ConvergenceMachine

/-- **Only what changed is touched.** After any run of a connector, over a
    dataset with any rows that are not its own, no further run touches more
    than what changes. -/
theorem only_what_changed_is_touched (hblake : Blake2bCollisionFree) (hfloat : FloatReprLaws)
    (huuid : Uuid5CollisionFree) (hdiff : DiffContract) (runtimeKey : String)
    (handle : DatasetHandle) (profileOf : String → CognifyProfile) (m : ConvergenceMachine Unit)
    (htracking : m.tracking = ∅)
    (hrows : ∀ k, ∀ i ∈ (Deployment.connector runtimeKey handle profileOf).ids k,
      m.fake.row (keyOf handle) i = none) (rules : List (ConvergenceMachine.Rule Unit)) :
    (m.run (.connector runtimeKey handle profileOf) rules).TouchesOnlyChanges
      (.connector runtimeKey handle profileOf) := by
  have hsep := Deployment.connector_separated huuid runtimeKey handle profileOf
  have hcov : m.Covered (.connector runtimeKey handle profileOf) :=
    ConvergenceMachine.covered_initial htracking hrows
  exact (hcov.run hsep hdiff rules).touchesOnlyChanges hblake hfloat hsep hdiff

end

namespace ConvergenceMachine

/-- After the run with a failing purge, the document is removed. -/
def clearingRun : List (@Rule .sample Unit) :=
  letI : Platform := .sample
  sampleRun ++ [.undeclare .sample]

/-- After a sync of that, it is declared anew, with another one. -/
def settlingRun : List (@Rule .sample Unit) :=
  letI : Platform := .sample
  clearingRun ++ [.sync [], .declare .other (.sample "beta" "b"),
    .declare .sample (.sample "alpha" "a")]

/-- The other document gets a new text, by a failing sync, an exit and another sync. -/
def editingRun : List (@Rule .sample Unit) :=
  letI : Platform := .sample
  [.declare .other (.sample "gamma" "b"), .sync [none, some ⟨⟨.external, "injected fault"⟩, none⟩],
    .exitAfterApply [], .sync []]

/-- The document gets a new label. -/
def relabellingRun : List (@Rule .sample Unit) :=
  letI : Platform := .sample
  [.declare .sample (.sample "alpha" "b"), .sync []]

/-- Once the removal has been synced, nothing is tracked. -/
theorem clearingRun_tracking (k : @DocumentKey .sample) :
    letI : Platform := .sample
    k ∉ ((sample.run .sample clearingRun).sync .sample []).2.tracking := by
  let _ : Platform := .sample
  have hsep : Deployment.sample.Separated :=
    Deployment.connector_separated Platform.sample_uuid5 "rt" _ _
  have hcov := sample_initial.covered.run hsep Platform.sample_diff clearingRun
  have hfixed := fixed_of_sync Platform.sample_diff hcov (sample_sync _)
  have hdeclared : ((sample.run .sample clearingRun).sync .sample []).2.declared =
    (sample.run .sample clearingRun).declared := step_declared (.sync [])
  rw [hfixed.mem_tracking_iff, hdeclared]
  simp [clearingRun, sampleRun, run, step_declared, sample]

theorem settlingRun_declared :
    letI : Platform := .sample
    (sample.run .sample settlingRun).declared[DocumentKey.sample]? =
      some (.sample "alpha" "a") := by
  let _ : Platform := .sample
  rw [settlingRun, run_append]
  exact Std.ExtTreeMap.getElem?_insert_self

/-- The sync of the new declarations confirms them. -/
theorem sample_confirmed :
    letI : Platform := .sample
    ∃ i, (sample.run .sample (settlingRun ++ [.sync []])).Confirmed .sample .sample i
      (.sample "alpha" "a") := by
  let _ : Platform := .sample
  rw [run_append]
  refine confirmed_of_sync Platform.sample_diff (sample_sync settlingRun) settlingRun_declared ?_
  rw [settlingRun, run_append]
  exact Tracking.prevMayBeMissing_of_notMem (clearingRun_tracking _)

theorem sample_declared :
    letI : Platform := .sample
    (sample.run .sample (settlingRun ++ [.sync []])).declared[DocumentKey.sample]? =
      some (.sample "alpha" "a") := by
  let _ : Platform := .sample
  have hdeclared : (sample.run .sample (settlingRun ++ [.sync []])).declared =
      (sample.run .sample settlingRun).declared := by
    rw [run_append]
    exact step_declared (.sync [])
  rw [hdeclared]
  exact settlingRun_declared

end ConvergenceMachine

/-- Where two documents are settled, one of them stays the same when the other
    one is edited, and is only added when its label changes. -/
theorem only_what_changed_is_touched_sample :
    letI : Platform := .sample
    let m := ConvergenceMachine.sample.run .sample (ConvergenceMachine.settlingRun ++ [.sync []])
    ∃ i x, m.Confirmed .sample .sample i (.sample "alpha" "a") ∧
      m.fake.row (keyOf DocumentHandler.sample.handle) i = some x ∧
      (∀ c ∈ m.calls .sample ConvergenceMachine.editingRun, i ∉ c.listed) ∧
      (m.run .sample ConvergenceMachine.editingRun).fake.row
        (keyOf DocumentHandler.sample.handle) i = some x ∧
      ∀ c ∈ m.calls .sample ConvergenceMachine.relabellingRun, i ∈ c.listed →
        ∃ handle ps, c = .addDocuments handle ps := by
  let _ : Platform := .sample
  intro m
  have htouches : m.TouchesOnlyChanges .sample :=
    only_what_changed_is_touched Platform.sample_blake2b Platform.sample_floatRepr
      Platform.sample_uuid5 Platform.sample_diff "rt" _ _ .sample rfl
      (fun _ i _ => ConvergenceMachine.sample_initial.rows i) _
  obtain ⟨i, hconfirmed⟩ := ConvergenceMachine.sample_confirmed
  have hdeclared := ConvergenceMachine.sample_declared
  have hspec : SpecEq (.sample "alpha" "a") (.sample "alpha" "a") := ⟨rfl, rfl, .null, trivial, rfl⟩
  have hlabel (label : String) : SameButLabel (.sample "alpha" label) (.sample "alpha" "a") :=
    ⟨rfl, .null, trivial, rfl⟩
  have hother : DocumentKey.other ∉ ({.sample} : Set DocumentKey) := by
    rw [Set.mem_singleton_iff, DocumentKey.other, DocumentKey.sample, DocumentKey.mk.injEq]
    decide
  obtain ⟨hcalls, hrow⟩ := htouches.unchanged _ i _ hconfirmed ⟨_, hdeclared, hspec⟩
    ConvergenceMachine.editingRun (by
      rintro _ (_ | ⟨_, _ | ⟨_, _ | ⟨_, _ | ⟨_, ⟨⟩⟩⟩⟩⟩)
      exacts [fun hmem => absurd hmem hother, trivial, trivial, trivial])
  obtain ⟨hrelabelled, -⟩ := htouches.relabelled {.sample} (fun _ => i)
    (fun _ => .sample "alpha" "a")
    (by
      rintro _ rfl
      exact hconfirmed)
    (by
      rintro _ rfl
      exact ⟨_, hdeclared, hlabel _⟩) ConvergenceMachine.relabellingRun (by
        rintro _ (_ | ⟨_, _ | ⟨_, ⟨⟩⟩⟩)
        exacts [fun _ => hlabel "b", trivial])
  obtain ⟨hadds, x, -, hx, -⟩ := hrelabelled _ (Set.mem_singleton _)
  exact ⟨i, x, hconfirmed, hx, hcalls, hrow.trans hx, hadds⟩

end Cogindex
