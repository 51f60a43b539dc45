import Cogindex.Batch
import Cogindex.Tracking

/-!
# Possible records

What the possible records of a key say of its rows (`Covers`). The rows under
the ids of the key carry the id of a possible record, and every part of a row
comes from a possible record (`Possible`); and if the target is not missing and
its records disagree on nothing that shapes derivatives, there is a converged
row (`Settled`).

Reconciling decides by the possible records alone, so each phase of a sync has
to keep what they say true:

* `Covers.intend`: making the intended record possible;
* `Covers.cut`: a batch with the action of the key, wherever it is cut;
* `Covers.commit`: a complete batch, and the intended record as the only one;
* `Covers.others`: a batch without an action for the key.
-/

namespace Cogindex

open FakeCogneeRuntime

variable [Platform]

/-! ## Rows -/

/-- A record agrees with a payload on everything that shapes derivatives, and
    on the weight. -/
structure DocumentRecord.Derives (r : DocumentRecord) (p : DocumentPayload) : Prop where
  content : fingerprintContent p.content = r.contentFingerprint
  annotations : Cogindex.annotationsFingerprint p.externalMetadata p.nodeSet =
    .ok r.annotationsFingerprint
  weight : Cogindex.importanceWeightFingerprint p.importanceWeight =
    .ok r.importanceWeightFingerprint
  metadata_wf : p.externalMetadata.toPyValue.WellFormed
  nodes_nodup : ∀ nodes ∈ p.nodeSet, nodes.Nodup

/-- A record agrees with a payload on everything. -/
structure DocumentRecord.Describes (r : DocumentRecord) (p : DocumentPayload) : Prop
    extends r.Derives p where
  label : Cogindex.metadataFingerprint p.label = .ok r.metadataFingerprint

theorem documentRecordFor_describes (spec : CogneeDocumentSpec) (i : UUID) (f : String) :
    (documentRecordFor spec i f).Describes (DocumentHandler.payloadFor spec i) where
  content := spec.content_eq
  annotations := spec.annotations_eq
  weight := spec.weight_eq
  metadata_wf := spec.metadata_wf
  nodes_nodup := spec.nodes_nodup
  label := spec.metadata_eq

/-- Every part of a row comes from a possible record. -/
structure Possible (prev : List DocumentRecord) (d : FakeDocument) : Prop where
  content : ∃ r ∈ prev, fingerprintContent d.payload.content = r.contentFingerprint
  weight : ∃ r ∈ prev,
    importanceWeightFingerprint d.payload.importanceWeight = .ok r.importanceWeightFingerprint
  label : ∃ r ∈ prev, metadataFingerprint d.payload.label = .ok r.metadataFingerprint
  fragments : ∀ f ∈ d.derivedFragments, ∃ r ∈ prev, r.contentFingerprint = f

namespace Possible

variable {prev prev' : List DocumentRecord} {d : FakeDocument}

theorem mono (h : Possible prev d) (hsub : ∀ r ∈ prev, r ∈ prev') : Possible prev' d where
  content := h.content.imp fun _ hr => hr.imp_left (hsub _)
  weight := h.weight.imp fun _ hr => hr.imp_left (hsub _)
  label := h.label.imp fun _ hr => hr.imp_left (hsub _)
  fragments f hf := (h.fragments f hf).imp fun _ hr => hr.imp_left (hsub _)

theorem purge (h : Possible prev d) : Possible prev d.purge :=
  ⟨h.content, h.weight, h.label, fun _ hf => absurd hf (Finset.notMem_empty _)⟩

theorem tear (h : Possible prev d) : Possible prev d.tear :=
  ⟨h.content, h.weight, h.label, fun _ hf => absurd hf (Finset.notMem_empty _)⟩

/-- Cognifying derives the content, which is that of a possible record. -/
theorem cognify (h : Possible prev d) (profile : CognifyProfile) :
    Possible prev (d.cognify profile) := by
  unfold FakeDocument.cognify
  split_ifs with hcomplete
  · exact h
  · refine ⟨h.content, h.weight, h.label, fun f hf => ?_⟩
    rcases Finset.mem_insert.1 hf with rfl | hf
    · exact h.content.imp fun _ hr => hr.imp_right Eq.symm
    · exact h.fragments f hf

/-- Adding the payload of a possible record keeps the weight of the row. -/
theorem add {p : DocumentPayload} {o : Option FakeDocument} (h : ∀ d ∈ o, Possible prev d)
    (hp : ∃ r ∈ prev, r.Describes p) : Possible prev (FakeDocument.add p o) := by
  cases o with
  | none =>
    exact ⟨hp.imp fun _ hr => hr.imp_right (·.content), hp.imp fun _ hr => hr.imp_right (·.weight),
      hp.imp fun _ hr => hr.imp_right (·.label), fun _ hf => absurd hf (Finset.notMem_empty _)⟩
  | some d =>
    exact ⟨hp.imp fun _ hr => hr.imp_right (·.content), (h d rfl).weight,
      hp.imp fun _ hr => hr.imp_right (·.label), (h d rfl).fragments⟩

/-- Wherever a batch is cut, a row that it writes or leaves is possible. -/
theorem of_cut {b : Batch} {profile : CognifyProfile} {i : UUID} {o o' : Option FakeDocument}
    (hcut : b.Cut profile i o o') (h : ∀ d ∈ o, Possible prev d)
    (hp : ∀ p, b.payloads[i]? = some p → ∃ r ∈ prev, r.Describes p) :
    ∀ d ∈ o', Possible prev d := by
  have hdelete : ∀ d ∈ b.deleteRow i o, Possible prev d := by
    rw [Batch.deleteRow]
    split_ifs
    · exact fun _ hd => absurd hd (Option.not_mem_none _)
    · exact h
  have hpurge : ∀ d ∈ b.purgeRow i (b.deleteRow i o), Possible prev d := by
    rw [Batch.purgeRow]
    split_ifs
    · rintro _ hmem
      obtain ⟨d₀, hd, rfl⟩ := Option.map_eq_some_iff.1 hmem
      exact (hdelete d₀ hd).purge
    · exact hdelete
  have hadd : ∀ d ∈ b.addRow i (b.purgeRow i (b.deleteRow i o)), Possible prev d := by
    rw [Batch.addRow]
    cases hpay : b.payloads[i]? with
    | none => exact hpurge
    | some p =>
      rintro _ ⟨⟩
      exact .add hpurge (hp p hpay)
  -- A cut is a prefix of the phases, whose effects are followed up to here.
  cases hcut with
  | before => exact h
  | torn =>
    rintro _ hmem
    obtain ⟨d₀, hd, rfl⟩ := Option.map_eq_some_iff.1 hmem
    exact (h d₀ hd).tear
  | deleted => exact hdelete
  | purged => exact hpurge
  | added => exact hadd
  | cognified =>
    rw [Batch.effect, Batch.cognifyRow]
    split_ifs
    · rintro _ hmem
      obtain ⟨d₀, hd, rfl⟩ := Option.map_eq_some_iff.1 hmem
      exact (hadd d₀ hd).cognify profile
    · exact hadd

end Possible

/-- A row has converged to a record, but for its label. -/
structure Settled (profileOf : String → CognifyProfile) (r : DocumentRecord) (d : FakeDocument) :
    Prop where
  derives : r.Derives d.payload
  fragments : d.derivedFragments = {r.contentFingerprint}
  profile : d.derivedProfile = some (profileOf r.processingFingerprint)
  complete : d.cognifyComplete = true

theorem Possible.of_settled {profileOf : String → CognifyProfile} {r : DocumentRecord}
    {d : FakeDocument} (h : Settled profileOf r d)
    (hlabel : metadataFingerprint d.payload.label = .ok r.metadataFingerprint) :
    Possible [r] d where
  content := ⟨r, List.mem_singleton_self r, h.derives.content⟩
  weight := ⟨r, List.mem_singleton_self r, h.derives.weight⟩
  label := ⟨r, List.mem_singleton_self r, hlabel⟩
  fragments f hf := by
    rw [h.fragments, Finset.mem_singleton] at hf
    exact ⟨r, List.mem_singleton_self r, hf.symm⟩

namespace DocumentRecord

variable {r r' : DocumentRecord}

theorem SameDerivatives.symm (h : r.SameDerivatives r') : r'.SameDerivatives r :=
  ⟨h.1.symm, h.2.1.symm, h.2.2.1.symm, h.2.2.2.1.symm, h.2.2.2.2.symm⟩

theorem SameDerivatives.trans {r'' : DocumentRecord} (h : r.SameDerivatives r')
    (h' : r'.SameDerivatives r'') : r.SameDerivatives r'' :=
  ⟨h.1.trans h'.1, h.2.1.trans h'.2.1, h.2.2.1.trans h'.2.2.1, h.2.2.2.1.trans h'.2.2.2.1,
    h.2.2.2.2.trans h'.2.2.2.2⟩

/-- Nothing that shapes derivatives differs, nor does the weight. -/
def Agrees (r r' : DocumentRecord) : Prop := r.SameWeight r' ∧ r.SameDerivatives r'

theorem Agrees.symm (h : r.Agrees r') : r'.Agrees r := ⟨Eq.symm h.1, h.2.symm⟩

theorem Agrees.trans {r'' : DocumentRecord} (h : r.Agrees r') (h' : r'.Agrees r'') :
    r.Agrees r'' := ⟨Eq.trans h.1 h'.1, h.2.trans h'.2⟩

theorem Agrees.refl (r : DocumentRecord) : r.Agrees r := ⟨rfl, rfl, rfl, rfl, rfl, rfl⟩

theorem Agrees.derives (h : r.Agrees r') {p : DocumentPayload} (hp : r.Derives p) :
    r'.Derives p where
  content := hp.content.trans h.2.2.1
  annotations := hp.annotations.trans (congrArg _ h.2.2.2.1)
  weight := hp.weight.trans (congrArg _ h.1)
  metadata_wf := hp.metadata_wf
  nodes_nodup := hp.nodes_nodup

end DocumentRecord

namespace Settled

variable {profileOf : String → CognifyProfile} {r r' : DocumentRecord} {d : FakeDocument}

theorem of_agrees (h : Settled profileOf r d) (hr : r.Agrees r') : Settled profileOf r' d where
  derives := hr.derives h.derives
  fragments := by rw [h.fragments, hr.2.2.1]
  profile := by rw [h.profile, hr.2.2.2.2.1]
  complete := h.complete

/-- A complete row is not cognified again. -/
theorem cognify_eq (h : Settled profileOf r d) (profile : CognifyProfile) :
    d.cognify profile = d := if_pos h.complete

/-- Adding a payload with another label changes nothing else. -/
theorem add (h : Settled profileOf r d) {p : DocumentPayload} (hp : r.Derives p) :
    Settled profileOf r (FakeDocument.add p (some d)) where
  derives := ⟨hp.content, hp.annotations, h.derives.weight, hp.metadata_wf, hp.nodes_nodup⟩
  fragments := h.fragments
  profile := h.profile
  complete := by
    rw [FakeDocument.add, h.complete, Bool.true_and, decide_eq_true_iff, h.derives.content,
      hp.content]

/-- A batch that only writes to a settled row, if at all, leaves it settled. -/
theorem of_cut {b : Batch} {profile : CognifyProfile} {i : UUID} {o' : Option FakeDocument}
    (hcut : b.Cut profile i (some d) o') (h : Settled profileOf r d) (hdelete : i ∉ b.deleteIds)
    (hpurge : i ∉ b.purgeIds) (hp : ∀ p, b.payloads[i]? = some p → r.Derives p) :
    ∃ d', o' = some d' ∧ Settled profileOf r d' := by
  have hdeleteRow : b.deleteRow i (some d) = some d := if_neg hdelete
  have hpurgeRow : b.purgeRow i (some d) = some d := if_neg hpurge
  have hadd : ∃ d', b.addRow i (some d) = some d' ∧ Settled profileOf r d' := by
    rw [Batch.addRow]
    cases hpay : b.payloads[i]? with
    | none => exact ⟨d, rfl, h⟩
    | some p => exact ⟨_, rfl, h.add (hp p hpay)⟩
  cases hcut with
  | before => exact ⟨d, rfl, h⟩
  | torn hi => exact absurd hi hdelete
  | deleted => exact ⟨d, hdeleteRow, h⟩
  | purged => exact ⟨d, by rw [hdeleteRow, hpurgeRow], h⟩
  | added => rwa [hdeleteRow, hpurgeRow]
  | cognified =>
    obtain ⟨d', hd', h'⟩ := hadd
    rw [Batch.effect, hdeleteRow, hpurgeRow, hd', Batch.cognifyRow, Option.map_some,
      h'.cognify_eq, ite_self]
    exact ⟨d', rfl, h'⟩

end Settled

/-! ## What a batch does for a key -/

/-- On the ids `I` of a key, a batch does what the action of the key asks for,
    if it has one. -/
structure Batch.Serves (b : Batch) (I : Set UUID) (own : Option DocumentAction) : Prop where
  deleteIds : ∀ i ∈ I, i ∈ b.deleteIds ↔ ∃ a ∈ own,
    (i ∈ a.staleDataIds ∨ a.op = .delete ∧ a.dataId = i) ∧ ¬(a.op ≠ .delete ∧ a.dataId = i) ∨
      a.op = .recreate ∧ a.dataId = i
  purgeIds : ∀ i ∈ I, i ∈ b.purgeIds ↔ ∃ a ∈ own, a.op = .replace ∧ a.dataId = i
  payloads : ∀ i ∈ I, ∀ p, b.payloads[i]? = some p ↔
    ∃ a ∈ own, a.op ≠ .delete ∧ a.dataId = i ∧ a.payload = some p
  derives : ∀ a ∈ own, a.op = .upsert ∨ a.op = .replace ∨ a.op = .recreate → b.needsCognify = true

section ServesNone

variable {b : Batch} {I : Set UUID} {i : UUID}

/-- A key without an action is in no phase of the batch. -/
theorem Batch.Serves.notMem_deleteIds (h : b.Serves I none) (hi : i ∈ I) : i ∉ b.deleteIds :=
  fun hmem => by
    obtain ⟨a, ha, -⟩ := (h.deleteIds i hi).1 hmem
    cases ha

@[inherit_doc Batch.Serves.notMem_deleteIds]
theorem Batch.Serves.notMem_purgeIds (h : b.Serves I none) (hi : i ∈ I) : i ∉ b.purgeIds :=
  fun hmem => by
    obtain ⟨a, ha, -⟩ := (h.purgeIds i hi).1 hmem
    cases ha

@[inherit_doc Batch.Serves.notMem_deleteIds]
theorem Batch.Serves.getElem?_payloads (h : b.Serves I none) (hi : i ∈ I) :
    b.payloads[i]? = none :=
  Option.eq_none_iff_forall_not_mem.2 fun p hp => by
    obtain ⟨a, ha, -⟩ := (h.payloads i hi p).1 hp
    cases ha

end ServesNone

/-- A batch that is cut leaves a row only where there is one, or it writes one. -/
theorem Batch.Cut.isSome_or {b : Batch} {profile : CognifyProfile} {i : UUID}
    {o o' : Option FakeDocument} (h : b.Cut profile i o o') (ho' : o'.isSome) :
    o.isSome ∨ ∃ p, b.payloads[i]? = some p := by
  by_contra hne
  rw [not_or, not_exists] at hne
  obtain ⟨ho, hpay⟩ := hne
  rw [Option.isSome_iff_ne_none, not_not] at ho
  subst ho
  have hadd : b.addRow i none = none := by
    rw [addRow, Option.eq_none_iff_forall_not_mem.2 fun p hp => hpay p hp]
  cases h <;> simp [hadd, effect] at ho'

/-- A batch serves a key with one action, or none, if the other actions have no id of the key. -/
theorem Batch.serves_of_collect {actions : List DocumentAction} {b : Batch}
    (hb : collect actions = .ok b) {I : Set UUID} {own : Option DocumentAction}
    (hown : ∀ a ∈ own, a ∈ actions)
    (hothers : ∀ a ∈ actions, a ∈ own ∨ a.dataId ∉ I ∧ ∀ j ∈ a.staleDataIds, j ∉ I) :
    b.Serves I own := by
  obtain ⟨b', hb', rfl⟩ := collect_eq_ok hb
  -- On the ids of the key, `own` is the only one of the actions.
  have hid : ∀ i ∈ I, ∀ P : DocumentAction → Prop,
      (∃ a ∈ actions, P a ∧ a.dataId = i) ↔ ∃ a ∈ own, P a ∧ a.dataId = i := by
    intro i hi P
    constructor
    · rintro ⟨a, ha, hP, rfl⟩
      exact ⟨a, (hothers a ha).resolve_right fun h => h.1 hi, hP, rfl⟩
    · rintro ⟨a, ha, hP⟩
      exact ⟨a, hown a ha, hP⟩
  have hrecreate : ∀ i ∈ I, i ∈ b'.recreateIds ↔ ∃ a ∈ own, a.op = .recreate ∧ a.dataId = i :=
    fun i hi => (hb'.recreateIds i).trans (hid i hi _)
  have hwritten : ∀ i ∈ I, i ∈ b'.payloads ↔ ∃ a ∈ own, a.op ≠ .delete ∧ a.dataId = i :=
    fun i hi => (hb'.written i).trans (hid i hi _)
  have hdelete : ∀ i ∈ I, i ∈ b'.deleteIds ↔
      ∃ a ∈ own, i ∈ a.staleDataIds ∨ a.op = .delete ∧ a.dataId = i := by
    intro i hi
    rw [hb'.deleteIds]
    constructor
    · rintro ⟨a, ha, h⟩
      refine ⟨a, (hothers a ha).resolve_right fun hne => ?_, h⟩
      rcases h with h | ⟨-, rfl⟩
      exacts [hne.2 i h hi, hne.1 hi]
    · rintro ⟨a, ha, h⟩
      exact ⟨a, hown a ha, h⟩
  constructor
  · intro i hi
    rw [finish, Finset.mem_union, Finset.mem_filter, hdelete i hi, hwritten i hi, hrecreate i hi]
    cases own with
    | none => simp
    | some a => simp only [Option.mem_def, Option.some.injEq, exists_eq_left']
  · intro i hi
    rw [finish, Finset.mem_sdiff, hb'.purgeIds, hid i hi, hrecreate i hi]
    refine and_iff_left_of_imp ?_
    rintro ⟨a, ha, hop, -⟩ ⟨a', ha', hop', -⟩
    rw [Option.mem_unique ha ha', hop'] at hop
    cases hop
  · intro i hi p
    rw [finish]
    constructor
    · intro hp
      obtain ⟨a, ha, hop, hai, hpay⟩ := hb'.payloads i p hp
      exact ⟨a, (hothers a ha).resolve_right fun h => h.1 (hai ▸ hi), hop, hai, hpay⟩
    · rintro ⟨a, ha, hop, hai, hpay⟩
      have hmem : i ∈ b'.payloads := (hwritten i hi).2 ⟨a, ha, hop, hai⟩
      obtain ⟨q, hq⟩ := Option.isSome_iff_exists.1 (Std.ExtTreeMap.mem_iff_isSome_getElem?.1 hmem)
      obtain ⟨a', ha', hop', hai', hpay'⟩ := hb'.payloads i q hq
      have haa' : a' ∈ own := (hothers a' ha').resolve_right fun h => h.1 (hai' ▸ hi)
      rw [← Option.mem_unique ha haa', hpay] at hpay'
      rw [hq, hpay']
  · exact fun a ha hop => hb'.needsCognify.2 ⟨a, hown a ha, hop⟩

/-! ## Possible records of a key -/

/-- What the possible records of a key, and whether its target may be missing,
    say of the rows under the ids `I` of the key. -/
structure Covers (profileOf : String → CognifyProfile) (I : Set UUID) (prev : List DocumentRecord)
    (missing : Bool) (rows : UUID → Option FakeDocument) : Prop where
  /-- The possible records are records of the key. -/
  recorded : ∀ r ∈ prev, r.dataId ∈ I
  /-- Every row can be cleaned up. -/
  owner : ∀ i ∈ I, ∀ d, rows i = some d → ∃ r ∈ prev, r.dataId = i
  possible : ∀ i ∈ I, ∀ d, rows i = some d → Possible prev d
  nonempty : missing = false → prev ≠ []
  /-- A target that is not missing and whose records agree has converged. -/
  settled : missing = false → ∀ r, (∀ p ∈ prev, p.Agrees r) →
    ∃ d, rows r.dataId = some d ∧ Settled profileOf r d

namespace Covers

variable {profileOf : String → CognifyProfile} {I : Set UUID} {prev prev' : List DocumentRecord}
  {missing missing' : Bool} {rows rows' : UUID → Option FakeDocument}

/-- Nothing is known of a fresh key, which has no rows. -/
theorem fresh (h : ∀ i ∈ I, rows i = none) : Covers profileOf I [] true rows where
  recorded := nofun
  owner i hi d hd := by
    rw [h i hi] at hd
    cases hd
  possible i hi d hd := by
    rw [h i hi] at hd
    cases hd
  nonempty := nofun
  settled := nofun

/-- A lossy invalidation only forgets. -/
theorem lossy (h : Covers profileOf I prev missing rows) : Covers profileOf I prev true rows :=
  ⟨h.recorded, h.owner, h.possible, nofun, nofun⟩

/-- The rows of a key without an action are at most cognified. -/
theorem cut_others {b : Batch} (hserves : b.Serves I none) {profile : CognifyProfile} {i : UUID}
    (hi : i ∈ I) {o o' : Option FakeDocument} (hcut : b.Cut profile i o o') :
    o' = o ∨ o' = b.cognifyRow profile o := by
  have hdelete := hserves.notMem_deleteIds hi
  have hpurge := hserves.notMem_purgeIds hi
  have hpay := hserves.getElem?_payloads hi
  have hadd : b.addRow i (b.purgeRow i (b.deleteRow i o)) = o := by
    rw [Batch.deleteRow, if_neg hdelete, Batch.purgeRow, if_neg hpurge, Batch.addRow, hpay]
  cases hcut with
  | before => exact .inl rfl
  | torn h => exact absurd h hdelete
  | deleted => exact .inl (if_neg hdelete)
  | purged => exact .inl (by rw [Batch.deleteRow, if_neg hdelete, Batch.purgeRow, if_neg hpurge])
  | added => exact .inl hadd
  | cognified => exact .inr (by rw [Batch.effect, hadd])

/-- A batch without an action for the key, wherever it is cut. -/
theorem others (h : Covers profileOf I prev missing rows) {b : Batch} (hserves : b.Serves I none)
    {profile : CognifyProfile} (hcut : ∀ i ∈ I, b.Cut profile i (rows i) (rows' i)) :
    Covers profileOf I prev missing rows' := by
  have hnot : ∀ i ∈ I, ∀ p, b.payloads[i]? ≠ some p := fun i hi p hp => by
    rw [hserves.getElem?_payloads hi] at hp
    cases hp
  refine ⟨h.recorded, fun i hi d hd => ?_, fun i hi d hd => ?_, h.nonempty, fun hmissing r hr => ?_⟩
  · have hrow : rows i ≠ none := by
      intro hnone
      have hcut := cut_others hserves hi (hcut i hi)
      rw [hnone, hd, Batch.cognifyRow] at hcut
      split_ifs at hcut <;> simp at hcut
    obtain ⟨d, hd⟩ := Option.ne_none_iff_exists'.1 hrow
    exact h.owner i hi d hd
  · exact .of_cut (hcut i hi) (fun d hd => h.possible i hi d hd)
      (fun p hp => absurd hp (hnot i hi p)) d hd
  · obtain ⟨d, hd, hsettled⟩ := h.settled hmissing r hr
    obtain ⟨q, hq⟩ := List.exists_mem_of_ne_nil _ (h.nonempty hmissing)
    have hi : r.dataId ∈ I := (hr q hq).2.1 ▸ h.recorded q hq
    -- A settled row survives a batch that has nothing to do with it.
    exact Settled.of_cut (hd ▸ hcut _ hi) hsettled (hserves.notMem_deleteIds hi)
      (hserves.notMem_purgeIds hi) fun p hp => absurd hp (hnot _ hi p)

section Own

variable {h : DocumentHandler} {externalKey : String} {i₀ : UUID} (hi₀ : i₀ ∈ I)
  {desired : Option CogneeDocumentSpec} {o : ReconcileOutput}
  (ho : h.reconcileId externalKey i₀ desired prev missing = some o)

include ho

/-- The intended record of a key is one of its records. -/
theorem dataId_of_trackingRecord {r : DocumentRecord} (hr : o.trackingRecord = some r) :
    r.dataId = i₀ := by
  obtain ⟨-, -, -, -, htracking⟩ := DocumentHandler.reconcileId_action ho
  rw [htracking] at hr
  obtain ⟨spec, -, rfl⟩ := Option.map_eq_some_iff.1 hr
  rfl

/-- The ids that a batch removes for a key: its recorded ids, but the current
    one only if it is not to be written, or written anew. -/
theorem mem_deleteIds {b : Batch} (hserves : b.Serves I (some o.action)) {i : UUID} (hi : i ∈ I) :
    i ∈ b.deleteIds ↔ i ≠ i₀ ∧ (∃ r ∈ prev, r.dataId = i) ∨
      i = i₀ ∧ (o.action.op = .delete ∨ o.action.op = .recreate) := by
  obtain ⟨hid, hstale, -⟩ := DocumentHandler.reconcileId_action ho
  rw [hserves.deleteIds i hi]
  simp only [Option.mem_def, Option.some.injEq, exists_eq_left', hid, hstale,
    DocumentHandler.mem_staleDataIds, @eq_comm _ i₀ i]
  by_cases hii : i = i₀ <;> simp [hii]

theorem mem_purgeIds {b : Batch} (hserves : b.Serves I (some o.action)) {i : UUID} (hi : i ∈ I) :
    i ∈ b.purgeIds ↔ i = i₀ ∧ o.action.op = .replace := by
  obtain ⟨hid, -⟩ := DocumentHandler.reconcileId_action ho
  rw [hserves.purgeIds i hi]
  simp only [Option.mem_def, Option.some.injEq, exists_eq_left', hid, @eq_comm _ i₀ i]
  exact and_comm

/-- The payload that a batch writes for a key is that of its specification. -/
theorem getElem?_payloads {b : Batch} (hserves : b.Serves I (some o.action)) {i : UUID}
    (hi : i ∈ I) {p : DocumentPayload} : b.payloads[i]? = some p ↔
      i = i₀ ∧ ∃ spec, desired = some spec ∧ DocumentHandler.payloadFor spec i₀ = p := by
  obtain ⟨hid, -, hdelete, hpay, -⟩ := DocumentHandler.reconcileId_action ho
  rw [hserves.payloads i hi p]
  simp only [Option.mem_def, Option.some.injEq, exists_eq_left', hid, hpay, ne_eq, hdelete,
    Option.map_eq_some_iff, @eq_comm _ i₀ i]
  constructor
  · exact fun ⟨_, hii, spec, hspec, hp⟩ => ⟨hii, spec, hspec, hp⟩
  · rintro ⟨hii, spec, rfl, hp⟩
    exact ⟨nofun, hii, spec, rfl, hp⟩

include hi₀

/-- Making the intended record possible. -/
theorem intend (hcov : Covers profileOf I prev missing rows)
    (hprev : ∀ r, r ∈ prev' ↔ r ∈ prev ∨ o.trackingRecord = some r)
    (hmissing : missing' = (missing || o.trackingRecord.isNone)) :
    Covers profileOf I prev' missing' rows where
  recorded r hr := by
    rcases (hprev r).1 hr with hr | hr
    · exact hcov.recorded r hr
    · exact dataId_of_trackingRecord ho hr ▸ hi₀
  owner i hi d hd := (hcov.owner i hi d hd).imp fun r hr =>
    hr.imp_left fun h => (hprev r).2 (.inl h)
  possible i hi d hd := (hcov.possible i hi d hd).mono fun r hr => (hprev r).2 (.inl hr)
  nonempty hmiss := by
    rw [hmissing, Bool.or_eq_false_iff] at hmiss
    obtain ⟨r, hr⟩ := List.exists_mem_of_ne_nil _ (hcov.nonempty hmiss.1)
    exact List.ne_nil_of_mem ((hprev r).2 (.inl hr))
  settled hmiss r hr := by
    rw [hmissing, Bool.or_eq_false_iff] at hmiss
    exact hcov.settled hmiss.1 r fun p hp => hr p ((hprev p).2 (.inl hp))

/-- A batch with the action of the key, wherever it is cut. -/
theorem cut (hdiff : DiffContract) (hcov : Covers profileOf I prev' missing' rows)
    (hprev : ∀ r, r ∈ prev' ↔ r ∈ prev ∨ o.trackingRecord = some r)
    (hmissing : missing' = (missing || o.trackingRecord.isNone)) {b : Batch}
    (hserves : b.Serves I (some o.action)) {profile : CognifyProfile}
    (hcut : ∀ i ∈ I, b.Cut profile i (rows i) (rows' i)) :
    Covers profileOf I prev' missing' rows' := by
  obtain ⟨-, -, hdelete, -, htracking⟩ := DocumentHandler.reconcileId_action ho
  have hwritten : ∀ i ∈ I, ∀ p, b.payloads[i]? = some p →
      ∃ r ∈ prev', r.dataId = i ∧ r.Describes p := by
    intro i hi p hp
    obtain ⟨rfl, spec, rfl, rfl⟩ := (getElem?_payloads ho hserves hi).1 hp
    exact ⟨_, (hprev _).2 (.inr htracking), rfl, documentRecordFor_describes spec _ _⟩
  refine ⟨hcov.recorded, fun i hi d hd => ?_, fun i hi d hd => ?_, hcov.nonempty,
    fun hmiss r hr => ?_⟩
  · -- A row is there before, or it is written.
    by_cases hpay : ∃ p, b.payloads[i]? = some p
    · obtain ⟨p, hp⟩ := hpay
      exact (hwritten i hi p hp).imp fun r hr => ⟨hr.1, hr.2.1⟩
    · by_cases hrow : ∃ d, rows i = some d
      · obtain ⟨d, hd⟩ := hrow
        exact hcov.owner i hi d hd
      · have hnone : rows i = none := Option.eq_none_iff_forall_not_mem.2 fun d hd => hrow ⟨d, hd⟩
        have := hcut i hi
        rw [hnone, hd] at this
        exact absurd (this.isSome_or rfl) fun h => h.elim nofun hpay
  · exact .of_cut (hcut i hi) (fun d hd => hcov.possible i hi d hd)
      (fun p hp => (hwritten i hi p hp).imp fun r hr => ⟨hr.1, hr.2.2⟩) d hd
  · -- The records agree, so only the label is written.
    have hmiss' := hmiss
    rw [hmissing, Bool.or_eq_false_iff, Option.isNone_eq_false_iff] at hmiss'
    obtain ⟨hmiss₀, hsome⟩ := hmiss'
    cases desired with
    | none =>
      rw [htracking] at hsome
      cases hsome
    | some spec =>
      have hagrees := hr _ ((hprev _).2 (.inr htracking))
      have hsame : ∀ p ∈ prev, p.Agrees (documentRecordFor spec i₀ h.processingFingerprint) :=
        fun p hp => (hr p ((hprev p).2 (.inl hp))).trans hagrees.symm
      have hop : o.action.op = .updateMetadata := by
        have hclass := DocumentHandler.reconcileId_classified hdiff ho
        generalize o.action.op = op at hclass
        cases hclass with
        | recreate hex =>
          obtain ⟨p, hp, hne⟩ := hex
          exact absurd (hsame p hp).1 hne
        | replace _ hex =>
          obtain ⟨p, hp, hne⟩ := hex.resolve_left fun hm => by rw [hmiss₀] at hm; cases hm
          exact absurd (hsame p hp).2 hne
        | upsert _ hm =>
          rw [hmiss₀] at hm
          cases hm
        | updateMetadata => rfl
      obtain ⟨d, hd, hsettled⟩ := hcov.settled hmiss r hr
      have hid : r.dataId = i₀ := hagrees.2.1.symm
      rw [hid] at hd ⊢
      refine Settled.of_cut (hd ▸ hcut i₀ hi₀) hsettled (fun hmem => ?_) (fun hmem => ?_)
        fun p hp => ?_
      · rcases (mem_deleteIds ho hserves hi₀).1 hmem with ⟨hne, -⟩ | ⟨-, hop' | hop'⟩
        · exact hne rfl
        all_goals rw [hop] at hop'; cases hop'
      · obtain ⟨-, hop'⟩ := (mem_purgeIds ho hserves hi₀).1 hmem
        rw [hop] at hop'
        cases hop'
      · obtain ⟨-, spec', hspec, rfl⟩ := (getElem?_payloads ho hserves hi₀).1 hp
        cases hspec
        exact hagrees.derives (documentRecordFor_describes spec _ _).toDerives

/-- A complete batch writes the row of a key that is to exist. -/
theorem exists_settled (hdiff : DiffContract) (hcov : Covers profileOf I prev missing rows)
    (hprofile : h.profile = profileOf h.processingFingerprint) {b : Batch}
    (hserves : b.Serves I (some o.action)) {spec : CogneeDocumentSpec}
    (hspec : desired = some spec) : ∃ d, b.effect h.profile i₀ (rows i₀) = some d ∧
      Settled profileOf (documentRecordFor spec i₀ h.processingFingerprint) d ∧
      d.payload.label = spec.label := by
  subst hspec
  have hpay : b.payloads[i₀]? = some (DocumentHandler.payloadFor spec i₀) :=
    (getElem?_payloads ho hserves hi₀).2 ⟨rfl, spec, rfl, rfl⟩
  have hadd : ∀ x, b.addRow i₀ x = some (FakeDocument.add (DocumentHandler.payloadFor spec i₀) x) :=
    fun x => by rw [Batch.addRow, hpay]
  have hdescribes := documentRecordFor_describes spec i₀ h.processingFingerprint
  have hdelete := mem_deleteIds ho hserves hi₀
  have hpurge := mem_purgeIds ho hserves hi₀
  -- A row that is rebuilt keeps nothing but its weight.
  have hrebuilt : ∀ x : Option FakeDocument, b.needsCognify = true →
      b.purgeRow i₀ (b.deleteRow i₀ (rows i₀)) = x.map FakeDocument.purge →
      (∀ d ∈ x, importanceWeightFingerprint d.payload.importanceWeight =
        .ok spec.importanceWeightFingerprint) →
      ∃ d, b.effect h.profile i₀ (rows i₀) = some d ∧
        Settled profileOf (documentRecordFor spec i₀ h.processingFingerprint) d ∧
        d.payload.label = spec.label := by
    intro x hneeds hrow hweight
    rw [Batch.effect, hrow, hadd, Batch.cognifyRow, if_pos hneeds, Option.map_some,
      FakeDocument.cognify_add_purge]
    refine ⟨_, rfl, ⟨⟨hdescribes.content, hdescribes.annotations, ?_, hdescribes.metadata_wf,
      hdescribes.nodes_nodup⟩, 
      congrArg (fun f => ({f} : Finset String)) spec.content_eq, congrArg _ hprofile, rfl⟩, rfl⟩
    cases x with
    | none => exact hdescribes.weight
    | some d => exact hweight d rfl
  have hclass := DocumentHandler.reconcileId_classified hdiff ho
  have hneeds := hserves.derives o.action rfl
  generalize o.action.op = op at hclass hneeds hdelete hpurge
  cases hclass with
  | recreate =>
    refine hrebuilt none (hneeds (.inr (.inr rfl))) ?_ fun _ hd => absurd hd (Option.not_mem_none _)
    rw [Batch.deleteRow, if_pos (hdelete.2 (.inr ⟨rfl, .inr rfl⟩)), Batch.purgeRow_none]
    rfl
  | replace hall =>
    refine hrebuilt (rows i₀) (hneeds (.inr (.inl rfl))) ?_ fun d hd => ?_
    · rw [Batch.deleteRow, if_neg (by simp [hdelete]), Batch.purgeRow, if_pos (hpurge.2 ⟨rfl, rfl⟩)]
    · obtain ⟨r, hr, hweight⟩ := (hcov.possible i₀ hi₀ d hd).weight
      exact hweight.trans (congrArg _ (hall r hr))
  | upsert hprev =>
    have hnone : rows i₀ = none := Option.eq_none_iff_forall_not_mem.2 fun d hd => by
      obtain ⟨r, hr, -⟩ := hcov.owner i₀ hi₀ d hd
      rw [hprev] at hr
      cases hr
    refine hrebuilt none (hneeds (.inl rfl)) ?_ fun _ hd => absurd hd (Option.not_mem_none _)
    rw [hnone, Batch.deleteRow_none, Batch.purgeRow_none]
    rfl
  | updateMetadata hmiss _ hall =>
    obtain ⟨d, hd, hsettled⟩ := hcov.settled hmiss _ hall
    have hsettled' := hsettled.add hdescribes.toDerives
    refine ⟨_, ?_, hsettled', rfl⟩
    rw [show rows i₀ = some d from hd, Batch.effect, Batch.deleteRow, if_neg (by simp [hdelete]),
      Batch.purgeRow, if_neg (by simp [hpurge]), hadd, Batch.cognifyRow, Option.map_some,
      hsettled'.cognify_eq, ite_self]

/-- A complete batch leaves the intended record as the only possible one. -/
theorem commit (hdiff : DiffContract) (hcov : Covers profileOf I prev missing rows)
    (hprofile : h.profile = profileOf h.processingFingerprint) {b : Batch}
    (hserves : b.Serves I (some o.action))
    (heffect : ∀ i ∈ I, rows' i = b.effect h.profile i (rows i)) :
    Covers profileOf I o.trackingRecord.toList o.trackingRecord.isNone rows' := by
  obtain ⟨-, -, hdelete, -, htracking⟩ := DocumentHandler.reconcileId_action ho
  -- No row is left under another id.
  have hothers : ∀ i ∈ I, ¬(i = i₀ ∧ desired ≠ none) → rows' i = none := by
    intro i hi hne
    have hpay : b.payloads[i]? = none := Option.eq_none_iff_forall_not_mem.2 fun p hp => by
      obtain ⟨hii, spec, hspec, -⟩ := (getElem?_payloads ho hserves hi).1 hp
      exact hne ⟨hii, by simp [hspec]⟩
    have hgone : b.deleteRow i (rows i) = none := by
      rw [Batch.deleteRow]
      split_ifs with hmem
      · rfl
      · rw [mem_deleteIds ho hserves hi, hdelete] at hmem
        refine Option.eq_none_iff_forall_not_mem.2 fun d hd => hmem ?_
        by_cases hii : i = i₀
        · exact .inr ⟨hii, .inl (by_contra fun h => hne ⟨hii, h⟩)⟩
        · exact .inl ⟨hii, hcov.owner i hi d hd⟩
    rw [heffect i hi, Batch.effect, hgone, Batch.purgeRow_none, Batch.addRow, hpay,
      Batch.cognifyRow_none]
  rw [htracking]
  cases hdesired : desired with
  | none => exact .fresh fun i hi => hothers i hi fun hne => hne.2 hdesired
  | some spec =>
    obtain ⟨d, hd, hsettled, hlabel⟩ := exists_settled hi₀ ho hdiff hcov hprofile hserves hdesired
    have hrow : ∀ i ∈ I, ∀ d', rows' i = some d' → i = i₀ ∧ d' = d := by
      intro i hi d' hd'
      by_cases hii : i = i₀
      · subst hii
        rw [heffect i hi, hd] at hd'
        exact ⟨rfl, (Option.some.inj hd').symm⟩
      · rw [hothers i hi fun hne => hii hne.1] at hd'
        cases hd'
    have hlabel' := hlabel ▸ spec.metadata_eq
    refine ⟨?_, fun i hi d' hd' => ?_, fun i hi d' hd' => ?_, by simp, fun _ r hr => ?_⟩
    · rintro r hr
      rw [List.mem_singleton.1 hr]
      exact hi₀
    · exact ⟨_, List.mem_singleton_self _, (hrow i hi d' hd').1.symm⟩
    · rw [(hrow i hi d' hd').2]
      exact .of_settled hsettled hlabel'
    · have hagrees := hr _ (List.mem_singleton_self _)
      exact ⟨d, hagrees.2.1 ▸ (heffect i₀ hi₀).trans hd, hsettled.of_agrees hagrees⟩

end Own

end Covers

end Cogindex
