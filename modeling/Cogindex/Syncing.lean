import Cogindex.ExactlyOnce
import Cogindex.Possible

/-!
# Syncing

A sync is a round of reconciling, a precommit, a batch and a commit. What the
possible records of a set of keys say of the store (`Deployment.Covers`) stays
true in each of these steps, also when the batch is cut anywhere and the commit
never happens.

* `Deployment.Covers.precommit`, `Deployment.Covers.cut`,
  `Deployment.Covers.commit`: the steps of a sync;
* `Deployment.Covers.others`: the batch of other keys.

A deployment may derive the `data_id` of a key in many ways over its life, one
for each version of the identity schema; the derivations have to be separated
(`Deployment.Separated`).
-/

namespace Cogindex

open Coroutine FakeCogneeRuntime

section

variable [Platform]

/-! ## Deployments -/

/-- What stays the same over the life of a connector: where its documents go,
    the profile of a processing fingerprint, and how a `data_id` is derived in
    each version of the identity schema. -/
structure Deployment (V : Type) where
  runtimeKey : String
  handle : DatasetHandle
  profileOf : String → CognifyProfile
  derive : V → Derivation

namespace Deployment

variable {V : Type} (d : Deployment V)

/-- The handler under a processing fingerprint. -/
def handler (fp : String) : DocumentHandler where
  runtimeKey := d.runtimeKey
  handle := d.handle
  profile := d.profileOf fp
  processingFingerprint := fp

/-- The `data_id` of a key in a version of the identity schema. -/
def dataId (v : V) (key : DocumentKey) : Except PyError UUID :=
  d.derive v d.runtimeKey d.handle.identityScope d.handle.tenant d.handle.name key.text

/-- The ids of a key in all versions of the identity schema. -/
def ids (key : DocumentKey) : Set UUID := {i | ∃ v, d.dataId v key = .ok i}

/-- The derivations never give an id of one key to another. -/
def Separated : Prop := ∀ k l i, i ∈ d.ids k → i ∈ d.ids l → k = l

/-- What the possible records of keys say of the dataset. -/
def Covers (K : Set DocumentKey) (tracking : Tracking) (s : FakeCogneeRuntime) : Prop :=
  ∀ k ∈ K, Cogindex.Covers d.profileOf (d.ids k) (tracking.prevRecords k)
    (tracking.prevMayBeMissing k) (s.row (keyOf d.handle))

/-- A round of reconciling in a version, under a processing fingerprint. -/
abbrev round (v : V) (fp : String) (declared : Declared) (tracking : Tracking) :
    Except PyError Outputs :=
  tracking.reconcileRound (d.derive v) (d.handler fp) declared

variable {d} {v : V} {fp : String} {declared : Declared} {tracking : Tracking} {outputs : Outputs}
  {key : DocumentKey} {o : ReconcileOutput}

/-- An output of a round comes from reconciling its key. -/
theorem reconcileId_of_mem (hround : d.round v fp declared tracking = .ok outputs)
    (ho : (key, o) ∈ outputs) : ∃ i, d.dataId v key = .ok i ∧
      (d.handler fp).reconcileId key.text i declared[key]? (tracking.prevRecords key)
        (tracking.prevMayBeMissing key) = some o :=
  Tracking.reconcileKey_eq_ok_iff.1 ((Tracking.mem_outputs hround).1 ho).2

/-- A key of a round without an output has nothing to do. -/
theorem reconcileId_of_notMem (hround : d.round v fp declared tracking = .ok outputs)
    (hkey : key ∈ Tracking.roundKeys declared tracking) (ho : ∀ o, (key, o) ∉ outputs) :
    ∃ i, d.dataId v key = .ok i ∧
      (d.handler fp).reconcileId key.text i declared[key]? (tracking.prevRecords key)
        (tracking.prevMayBeMissing key) = none := by
  obtain ⟨_ | o, hresult⟩ := Tracking.reconcileKey_ok hround hkey
  · exact Tracking.reconcileKey_eq_ok_iff.1 hresult
  · exact absurd ((Tracking.mem_outputs hround).2 ⟨hkey, hresult⟩) (ho o)

/-- The actions of a round have payloads for their own ids. -/
theorem complete_actions (hround : d.round v fp declared tracking = .ok outputs) :
    Batch.Complete (outputs.map (·.2.action)) := by
  intro a ha hop
  obtain ⟨⟨k, o⟩, ho, rfl⟩ := List.mem_map.1 ha
  obtain ⟨i, -, hreconcile⟩ := reconcileId_of_mem hround ho
  obtain ⟨hid, -, hdelete, hpay, -⟩ := DocumentHandler.reconcileId_action hreconcile
  rw [ne_eq, hdelete] at hop
  obtain ⟨spec, hspec⟩ := Option.ne_none_iff_exists'.1 hop
  exact ⟨DocumentHandler.payloadFor spec i, by rw [hpay, hspec]; rfl, hid.symm⟩

section Batches

variable (hsep : d.Separated) {K : Set DocumentKey} {s : FakeCogneeRuntime}
  (hround : d.round v fp declared tracking = .ok outputs)
  (hkeys : ∀ k o, (k, o) ∈ outputs → k ∈ K) (hcov : d.Covers K tracking s) {b : Batch}
  (hb : Batch.collect (outputs.map (·.2.action)) = .ok b)

include hsep hround hkeys hcov

/-- The actions of other keys have none of the ids of a key. -/
theorem dataId_notMem {l : DocumentKey} (ho : (l, o) ∈ outputs) (hne : l ≠ key) :
    o.action.dataId ∉ d.ids key ∧ ∀ j ∈ o.action.staleDataIds, j ∉ d.ids key := by
  obtain ⟨i, hi, hreconcile⟩ := reconcileId_of_mem hround ho
  obtain ⟨hid, hstale, -⟩ := DocumentHandler.reconcileId_action hreconcile
  rw [hid, hstale]
  refine ⟨fun hmem => hne (hsep _ _ i ⟨v, hi⟩ hmem), fun j hj hmem => ?_⟩
  obtain ⟨-, r, hr, rfl⟩ := DocumentHandler.mem_staleDataIds.1 hj
  exact hne (hsep _ _ _ ((hcov l (hkeys l o ho)).recorded r hr) hmem)

include hb

theorem serves_output (ho : (key, o) ∈ outputs) : b.Serves (d.ids key) (some o.action) := by
  refine Batch.serves_of_collect hb (fun a ha => ?_) fun a ha => ?_
  · rw [← Option.some.inj ha]
    exact List.mem_map.2 ⟨_, ho, rfl⟩
  · obtain ⟨⟨l, o'⟩, ho', rfl⟩ := List.mem_map.1 ha
    by_cases hl : l = key
    · subst hl
      exact .inl (congrArg _ (congrArg _ (Tracking.output_inj hround ho ho')))
    · exact .inr (dataId_notMem hsep hround hkeys hcov ho' hl)

theorem serves_none (ho : ∀ o, (key, o) ∉ outputs) : b.Serves (d.ids key) none := by
  refine Batch.serves_of_collect hb (fun a ha => absurd ha (Option.not_mem_none a)) fun a ha => ?_
  obtain ⟨⟨l, o'⟩, ho', rfl⟩ := List.mem_map.1 ha
  exact .inr (dataId_notMem hsep hround hkeys hcov ho' fun hl => ho o' (hl ▸ ho'))

omit hb

omit hsep hkeys in
/-- The intended records become possible before anything is written. -/
theorem Covers.precommit : d.Covers K (tracking.precommit outputs) s := by
  intro k hk
  have hnodup := Tracking.outputs_nodup hround
  by_cases ho : ∃ o, (k, o) ∈ outputs
  · obtain ⟨o, ho⟩ := ho
    obtain ⟨i, hi, hreconcile⟩ := reconcileId_of_mem hround ho
    exact Cogindex.Covers.intend ⟨v, hi⟩ hreconcile (hcov k hk)
      (fun r => Tracking.mem_prevRecords_precommit hnodup ho)
      (Tracking.prevMayBeMissing_precommit hnodup ho)
  · have hentry := Tracking.getElem?_precommit_of_notMem tracking hnodup
      fun o h => ho ⟨o, h⟩
    rw [Tracking.prevRecords_congr hentry, Tracking.prevMayBeMissing_congr hentry]
    exact hcov k hk

include hb

variable {H : Option FakeDataset → Option FakeDataset → Prop} {s' : FakeCogneeRuntime}

/-- A batch writes what the possible records say, wherever it is cut. -/
theorem Covers.cut (hdiff : DiffContract) {profile : CognifyProfile}
    (hw : Writes (keyOf d.handle) H (fun i x x' => b.Cut profile i x x') s s') :
    d.Covers K (tracking.precommit outputs) s' := by
  intro k hk
  have hnodup := Tracking.outputs_nodup hround
  have hpre := Covers.precommit hround hcov k hk
  by_cases ho : ∃ o, (k, o) ∈ outputs
  · obtain ⟨o, ho⟩ := ho
    obtain ⟨i, hi, hreconcile⟩ := reconcileId_of_mem hround ho
    exact Cogindex.Covers.cut ⟨v, hi⟩ hreconcile hdiff hpre
      (fun r => Tracking.mem_prevRecords_precommit hnodup ho)
      (Tracking.prevMayBeMissing_precommit hnodup ho)
      (serves_output hsep hround hkeys hcov hb ho) fun i _ => hw.row i
  · exact hpre.others (serves_none hsep hround hkeys hcov hb fun o h => ho ⟨o, h⟩)
      fun i _ => hw.row i

/-- After a complete batch, the intended records are the only ones. -/
theorem Covers.commit (hdiff : DiffContract)
    (hw : Writes (keyOf d.handle) H (fun i x x' => x' = b.effect (d.profileOf fp) i x) s s') :
    d.Covers K ((tracking.precommit outputs).commit outputs) s' := by
  intro k hk
  -- The batch serves a key with an output; it does not touch the rows of the other keys, or
  -- cuts them.
  have hnodup := Tracking.outputs_nodup hround
  by_cases ho : ∃ o, (k, o) ∈ outputs
  · obtain ⟨o, ho⟩ := ho
    obtain ⟨i, hi, hreconcile⟩ := reconcileId_of_mem hround ho
    have hi' : i ∈ d.ids k := ⟨v, hi⟩
    rw [Tracking.prevRecords_commit hnodup ho, Tracking.prevMayBeMissing_commit hnodup ho]
    exact Cogindex.Covers.commit hi' hreconcile hdiff (hcov k hk) rfl
      (serves_output hsep hround hkeys hcov hb ho) fun i _ => hw.row i
  · have ho' : ∀ o, (k, o) ∉ outputs := fun o h => ho ⟨o, h⟩
    have hentry := (Tracking.getElem?_commit_of_notMem hnodup ho').trans
      (Tracking.getElem?_precommit_of_notMem tracking hnodup ho')
    rw [Tracking.prevRecords_congr hentry, Tracking.prevMayBeMissing_congr hentry]
    have hcut : ∀ i ∈ d.ids k, b.Cut (d.profileOf fp) i (s.row (keyOf d.handle) i)
        (s'.row (keyOf d.handle) i) := by
      intro i _
      rw [hw.row i]
      exact .cognified
    exact (hcov k hk).others (serves_none hsep hround hkeys hcov hb ho') hcut

/-- What the possible records of other keys say is not touched. -/
theorem Covers.others {L : Set DocumentKey} (hdisj : Disjoint L K) {tracking' : Tracking}
    (hcov' : d.Covers L tracking' s) {profile : CognifyProfile}
    (hw : Writes (keyOf d.handle) H (fun i x x' => b.Cut profile i x x') s s') :
    d.Covers L tracking' s' := fun k hk =>
  (hcov' k hk).others (serves_none hsep hround hkeys hcov hb fun o h =>
    Set.disjoint_left.1 hdisj hk (hkeys k o h)) fun i _ => hw.row i

omit hsep hcov in
/-- Every row that a batch leaves was there before, or is that of a key with an action. -/
theorem exists_mem_ids_of_cut {profile : CognifyProfile}
    (hw : Writes (keyOf d.handle) H (fun i x x' => b.Cut profile i x x') s s') {i : UUID}
    (hi : (s'.row (keyOf d.handle) i).isSome) :
    (s.row (keyOf d.handle) i).isSome ∨ ∃ k ∈ K, d.dataId v k = .ok i := by
  refine ((hw.row i).isSome_or hi).imp_right ?_
  rintro ⟨p, hp⟩
  obtain ⟨b', hb', rfl⟩ := Batch.collect_eq_ok hb
  obtain ⟨a, ha, -, rfl, -⟩ := hb'.payloads i p hp
  obtain ⟨⟨k, o⟩, ho, rfl⟩ := List.mem_map.1 ha
  obtain ⟨i, hi, hreconcile⟩ := reconcileId_of_mem hround ho
  exact ⟨k, hkeys k o ho, (DocumentHandler.reconcileId_action hreconcile).1 ▸ hi⟩

end Batches

/-! ## Running the batch of a round -/

/-- What is left of a dataset when nothing was asked for. -/
theorem effect_empty {b : Batch} (hb : Batch.collect [] = .ok b) (profile : CognifyProfile)
    (i : UUID) (x : Option FakeDocument) : b.effect profile i x = x := by
  cases hb
  simp [Batch.effect, Batch.cognifyRow, Batch.addRow, Batch.purgeRow, Batch.deleteRow,
    Batch.finish]

section Runs

variable {h : DocumentHandler} {b : Batch} {s : FakeCogneeRuntime}
  (hb : Batch.collect (outputs.map (·.2.action)) = .ok b)
  (hc : Batch.Complete (outputs.map (·.2.action)))

include hb hc

/-- The batch of a round has its effect on every row if it returns, and cuts
    every row if it raises. -/
theorem wp_applyOutputs : wp Answers (h.applyOutputs outputs)
    (fun _ s' => Writes (keyOf h.handle) (fun _ _ => True)
      (fun i x x' => x' = b.effect h.profile i x) s s')
    (fun _ s' => Writes (keyOf h.handle) (fun _ _ => True)
      (fun i x x' => b.Cut h.profile i x x') s s') s := by
  rw [DocumentHandler.applyOutputs]
  split_ifs with hnil
  · subst hnil
    exact .refl (fun _ => trivial) fun i x => (effect_empty hb h.profile i x).symm
  · exact wp_apply hb (Batch.sound_of_collect hc hb)
      (fun _ _ hw => hw.mono (fun _ _ _ => trivial) fun _ _ _ => id)
      fun _ _ hw => hw.mono (fun _ _ _ => trivial) fun _ _ _ => id

/-- The batch of a round, run to its end: it cuts every row, and if it returns
    it has its effect on every row. -/
theorem writes_of_runs {outcome : Except PyError Unit} {s' : FakeCogneeRuntime}
    (hrun : Runs Answers (h.applyOutputs outputs) s (ofExcept outcome) s') :
    Writes (keyOf h.handle) (fun _ _ => True) (fun i x x' => b.Cut h.profile i x x') s s' ∧
      (outcome = .ok () →
        Writes (keyOf h.handle) (fun _ _ => True) (fun i x x' => x' = b.effect h.profile i x)
          s s') := by
  have hend := wp_runs hrun (wp_applyOutputs hb hc)
  cases outcome with
  | error e => exact ⟨hend, nofun⟩
  | ok u => exact ⟨hend.mono (fun _ _ => id) fun _ _ _ hx => hx ▸ .cognified, fun _ => hend⟩

/-- The batch of a round, under a script of faults. -/
theorem writes_of_run (faults : List (Option Fault)) (s : FakeCogneeRuntime) :
    Writes (keyOf h.handle) (fun _ _ => True) (fun i x x' => b.Cut h.profile i x x') s
        (run perform (h.applyOutputs outputs) faults s).2 ∧
      ((run perform (h.applyOutputs outputs) faults s).1 = .ok () →
        Writes (keyOf h.handle) (fun _ _ => True) (fun i x x' => x' = b.effect h.profile i x) s
          (run perform (h.applyOutputs outputs) faults s).2) := by
  refine ⟨?_, fun hok => (wp_run perform (wp_applyOutputs hb hc)).1 () hok⟩
  cases hresult : (run perform (h.applyOutputs outputs) faults s).1 with
  | error e => exact (wp_run perform (wp_applyOutputs hb hc)).2 e hresult
  | ok u =>
    have hend := (wp_run perform (wp_applyOutputs hb hc)).1 u hresult
    exact hend.mono (fun _ _ => id) fun _ _ _ hx => hx ▸ .cognified

omit hb in
/-- Without faults, the batch of a round returns. -/
theorem run_applyOutputs_ok (hs : h.handle.identityScope = s.identityScope) :
    (run perform (h.applyOutputs outputs) [] s).1 = .ok () := by
  rw [DocumentHandler.applyOutputs]
  split_ifs
  exacts [rfl, run_apply_ok hc hs]

end Runs

/-! ## Fixed points -/

variable (d) in
/-- The tracking is what the declarations ask for: each declared key has its
    record only, and no other key is tracked. -/
def Fixed (v : V) (fp : String) (declared : Declared) (tracking : Tracking) : Prop :=
  ∀ k, match declared[k]? with
    | some spec => ∃ i, d.dataId v k = .ok i ∧ tracking.prevMayBeMissing k = false ∧
        ∀ r ∈ tracking.prevRecords k, r = documentRecordFor spec i fp
    | none => k ∉ tracking

section Fixed

variable {K : Set DocumentKey} {s : FakeCogneeRuntime}

/-- A declared document that may be missing has an output. -/
theorem exists_output_of_missing (hdiff : DiffContract)
    (hround : d.round v fp declared tracking = .ok outputs) {k : DocumentKey} (hk : k ∈ declared)
    (hmissing : tracking.prevMayBeMissing k = true) : ∃ o, (k, o) ∈ outputs := by
  by_contra ho
  obtain ⟨spec, hspec⟩ := Option.isSome_iff_exists.1 (Std.ExtTreeMap.isSome_getElem?_iff_mem.2 hk)
  obtain ⟨i, -, hreconcile⟩ :=
    reconcileId_of_notMem hround (Tracking.mem_roundKeys.2 (.inl hk)) fun o h => ho ⟨o, h⟩
  rw [hspec, DocumentHandler.reconcileId_eq_none_iff hdiff, hmissing] at hreconcile
  cases hreconcile.1

/-- The commit of a round tracks what the declarations ask for. -/
theorem fixed_of_commit (hdiff : DiffContract)
    (hround : d.round v fp declared tracking = .ok outputs) (hcov : d.Covers K tracking s)
    (hkeys : ∀ k ∈ tracking, k ∈ K) :
    d.Fixed v fp declared ((tracking.precommit outputs).commit outputs) := by
  have hnodup := Tracking.outputs_nodup hround
  intro k
  by_cases ho : ∃ o, (k, o) ∈ outputs
  · obtain ⟨o, ho⟩ := ho
    obtain ⟨i, hi, hreconcile⟩ := reconcileId_of_mem hround ho
    obtain ⟨-, -, -, -, htracking⟩ := DocumentHandler.reconcileId_action hreconcile
    cases hspec : declared[k]? with
    | none =>
      rw [hspec] at htracking
      show k ∉ _
      rw [← Std.ExtTreeMap.isSome_getElem?_iff_mem, Tracking.getElem?_commit hnodup ho, htracking]
      nofun
    | some spec =>
      rw [hspec] at htracking
      refine ⟨i, hi, ?_, fun r hr => ?_⟩
      · rw [Tracking.prevMayBeMissing_commit hnodup ho, htracking]
        rfl
      · rw [Tracking.prevRecords_commit hnodup ho, htracking] at hr
        exact List.mem_singleton.1 hr
  · have ho' : ∀ o, (k, o) ∉ outputs := fun o h => ho ⟨o, h⟩
    have hentry := (Tracking.getElem?_commit_of_notMem hnodup ho').trans
      (Tracking.getElem?_precommit_of_notMem tracking hnodup ho')
    cases hspec : declared[k]? with
    | none =>
      show k ∉ _
      rw [← Std.ExtTreeMap.isSome_getElem?_iff_mem, hentry, Std.ExtTreeMap.isSome_getElem?_iff_mem]
      intro hk
      -- A tracked key that is not declared is deleted.
      obtain ⟨i, -, hreconcile⟩ :=
        reconcileId_of_notMem hround (Tracking.mem_roundKeys.2 (.inr hk)) ho'
      rw [hspec, DocumentHandler.reconcileId_delete_eq_none_iff] at hreconcile
      exact (hcov k (hkeys k hk)).nonempty hreconcile.2 hreconcile.1
    | some spec =>
      have hk : k ∈ declared := Std.ExtTreeMap.isSome_getElem?_iff_mem.1 (by rw [hspec]; rfl)
      obtain ⟨i, hi, hreconcile⟩ :=
        reconcileId_of_notMem hround (Tracking.mem_roundKeys.2 (.inl hk)) ho'
      rw [hspec, DocumentHandler.reconcileId_eq_none_iff hdiff] at hreconcile
      refine ⟨i, hi, ?_⟩
      rwa [Tracking.prevRecords_congr hentry, Tracking.prevMayBeMissing_congr hentry]

namespace Fixed

theorem of_declared (h : d.Fixed v fp declared tracking) {k : DocumentKey}
    {spec : CogneeDocumentSpec} (hspec : declared[k]? = some spec) :
    ∃ i, d.dataId v k = .ok i ∧ tracking.prevMayBeMissing k = false ∧
      ∀ r ∈ tracking.prevRecords k, r = documentRecordFor spec i fp := by
  have hk := h k
  rwa [hspec] at hk

theorem mem_tracking_iff (h : d.Fixed v fp declared tracking) {k : DocumentKey} :
    k ∈ tracking ↔ k ∈ declared := by
  constructor
  · intro hmem
    by_contra hne
    have hk := h k
    rw [Std.ExtTreeMap.getElem?_eq_none hne] at hk
    exact hk hmem
  · intro hmem
    obtain ⟨spec, hspec⟩ := Option.isSome_iff_exists.1
      (Std.ExtTreeMap.isSome_getElem?_iff_mem.2 hmem)
    obtain ⟨i, -, hmissing, -⟩ := h.of_declared hspec
    by_contra hne
    rw [Tracking.prevMayBeMissing_of_notMem hne] at hmissing
    cases hmissing

/-- There is nothing left to do. -/
theorem round_eq_nil (hdiff : DiffContract) (h : d.Fixed v fp declared tracking) :
    d.round v fp declared tracking = .ok [] := by
  refine Tracking.reconcileRound_eq_nil fun k hk => Tracking.reconcileKey_eq_ok_iff.2 ?_
  rw [Tracking.mem_roundKeys, h.mem_tracking_iff, or_self] at hk
  obtain ⟨spec, hspec⟩ := Option.isSome_iff_exists.1 (Std.ExtTreeMap.isSome_getElem?_iff_mem.2 hk)
  obtain ⟨i, hi, hfixed⟩ := h.of_declared hspec
  exact ⟨i, hi, by rw [hspec]; exact (DocumentHandler.reconcileId_eq_none_iff hdiff).2 hfixed⟩

/-- A row of a key is that of its declaration. -/
theorem declared_of_row (h : d.Fixed v fp declared tracking) (hcov : d.Covers K tracking s)
    {k : DocumentKey} (hk : k ∈ K) {i : UUID} (hi : i ∈ d.ids k)
    (hrow : (s.row (keyOf d.handle) i).isSome) : k ∈ declared ∧ d.dataId v k = .ok i := by
  obtain ⟨x, hx⟩ := Option.isSome_iff_exists.1 hrow
  obtain ⟨r, hr, hri⟩ := (hcov k hk).owner i hi x hx
  cases hspec : declared[k]? with
  | none =>
    have hkey := h k
    rw [hspec] at hkey
    rw [Tracking.prevRecords_of_notMem hkey] at hr
    cases hr
  | some spec =>
    obtain ⟨j, hj, -, hall⟩ := h.of_declared hspec
    rw [hall r hr] at hri
    exact ⟨Std.ExtTreeMap.isSome_getElem?_iff_mem.1 (by rw [hspec]; rfl), hri ▸ hj⟩

/-- A declared key has a row. -/
theorem row_of_declared (h : d.Fixed v fp declared tracking) (hcov : d.Covers K tracking s)
    {k : DocumentKey} (hk : k ∈ K) (hdeclared : k ∈ declared) {i : UUID}
    (hi : d.dataId v k = .ok i) : (s.row (keyOf d.handle) i).isSome := by
  obtain ⟨spec, hspec⟩ := Option.isSome_iff_exists.1
    (Std.ExtTreeMap.isSome_getElem?_iff_mem.2 hdeclared)
  obtain ⟨j, hj, hmissing, hall⟩ := h.of_declared hspec
  obtain rfl : j = i := Except.ok.inj (hj.symm.trans hi)
  obtain ⟨x, hx, -⟩ := (hcov k hk).settled hmissing (documentRecordFor spec j fp)
    fun r hr => by rw [hall r hr]; exact .refl _
  exact Option.isSome_iff_exists.2 ⟨x, hx⟩

end Fixed

end Fixed

end Deployment

end

end Cogindex
