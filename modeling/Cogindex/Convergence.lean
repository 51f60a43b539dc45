import Cogindex.ChangeDetection
import Cogindex.Syncing

/-!
# Convergence

The run system of a connector over one dataset: declarations come and go, the
processing configuration and the identity schema change, and syncs complete,
fail anywhere, or exit before or after their batch is applied
(`ConvergenceMachine.Rule`).

* `ConvergenceMachine.consistent_run`: in every reachable state, the possible
  records of the keys cover the rows of the dataset;
* `complete_sync_converges`: after every complete sync, the dataset holds the
  declared documents and nothing else, and there is nothing left to do;
* `no_false_fixed_point`: in every reachable state, reconciling finds nothing
  to do only for a document that has converged.
-/

namespace Cogindex

open Coroutine FakeCogneeRuntime

section

variable [Platform]

/-! ## Converged documents -/

/-- A row has everything of a specification but the label, and derivatives of
    its current content only. -/
structure DerivedFrom (spec : CogneeDocumentSpec) (profile : CognifyProfile) (x : FakeDocument) :
    Prop where
  content : x.payload.content = spec.content
  metadata : JsonEq x.payload.externalMetadata.toPyValue spec.externalMetadata.toPyValue
  nodes : SameNodes x.payload.nodeSet spec.nodeSet
  weight : x.payload.importanceWeight = spec.importanceWeight
  fragments : x.derivedFragments = {fingerprintContent spec.content}
  profile : x.derivedProfile = some profile
  complete : x.cognifyComplete = true

/-- A row is the converged document of a specification. -/
structure ConvergedTo (spec : CogneeDocumentSpec) (profile : CognifyProfile) (x : FakeDocument) :
    Prop extends DerivedFrom spec profile x where
  label : x.payload.label = spec.label

section Settled

variable (hblake : Blake2bCollisionFree) (hfloat : FloatReprLaws)
  {profileOf : String → CognifyProfile} {spec : CogneeDocumentSpec} {i : UUID} {fp : String}
  {x : FakeDocument}

include hblake hfloat

theorem Settled.derivedFrom (h : Settled profileOf (documentRecordFor spec i fp) x) :
    DerivedFrom spec (profileOf fp) x where
  content := fingerprintContent_inj hblake |>.1 (h.derives.content.trans spec.content_eq.symm)
  metadata := ((annotationsFingerprint_eq_iff hblake hfloat h.derives.metadata_wf spec.metadata_wf
    h.derives.nodes_nodup spec.nodes_nodup h.derives.annotations spec.annotations_eq).1 rfl).1
  nodes := ((annotationsFingerprint_eq_iff hblake hfloat h.derives.metadata_wf spec.metadata_wf
    h.derives.nodes_nodup spec.nodes_nodup h.derives.annotations spec.annotations_eq).1 rfl).2
  weight := (importanceWeightFingerprint_eq_iff hblake hfloat h.derives.weight spec.weight_eq).1 rfl
  fragments := h.fragments.trans (congrArg (fun f => ({f} : Finset String)) spec.content_eq.symm)
  profile := h.profile
  complete := h.complete

variable {I : Set UUID} {prev : List DocumentRecord} {rows : UUID → Option FakeDocument}

/-- Records that agree with a specification on all but the label. -/
theorem Covers.derivedFrom (hcov : Covers profileOf I prev false rows)
    (hall : ∀ r ∈ prev, r.Agrees (documentRecordFor spec i fp)) :
    ∃ x, rows i = some x ∧ DerivedFrom spec (profileOf fp) x := by
  obtain ⟨x, hx, hsettled⟩ := hcov.settled rfl _ hall
  exact ⟨x, hx, hsettled.derivedFrom hblake hfloat⟩

/-- Records that are that of a specification. -/
theorem Covers.convergedTo (hcov : Covers profileOf I prev false rows)
    (hall : ∀ r ∈ prev, r = documentRecordFor spec i fp) :
    ∃ x, rows i = some x ∧ ConvergedTo spec (profileOf fp) x := by
  have hagrees : ∀ r ∈ prev, r.Agrees (documentRecordFor spec i fp) := fun r hr => by
    rw [hall r hr]
    exact .refl _
  obtain ⟨x, hx, hderived⟩ := hcov.derivedFrom hblake hfloat hagrees
  obtain ⟨r, hr⟩ := List.exists_mem_of_ne_nil _ (hcov.nonempty rfl)
  have hi : i ∈ I := by
    have := hcov.recorded r hr
    rwa [hall r hr] at this
  obtain ⟨r', hr', hlabel⟩ := (hcov.possible i hi x hx).label
  rw [hall r' hr'] at hlabel
  exact ⟨x, hx, hderived, (metadataFingerprint_eq_iff hblake hfloat hlabel spec.metadata_eq).1 rfl⟩

/-- The row of a declared key has converged. -/
theorem Deployment.Fixed.convergedTo {V : Type} {d : Deployment V} {v : V} {declared : Declared}
    {tracking : Tracking} {K : Set DocumentKey} {s : FakeCogneeRuntime}
    (h : d.Fixed v fp declared tracking) (hcov : d.Covers K tracking s) {k : DocumentKey}
    (hk : k ∈ K) (hspec : declared[k]? = some spec) :
    ∃ i x, d.dataId v k = .ok i ∧ s.row (keyOf d.handle) i = some x ∧
      ConvergedTo spec (d.profileOf fp) x := by
  obtain ⟨i, hi, hmissing, hall⟩ := h.of_declared hspec
  have hcov' := hcov k hk
  rw [hmissing] at hcov'
  obtain ⟨x, hx, hconv⟩ := hcov'.convergedTo hblake hfloat hall
  exact ⟨i, x, hi, hx, hconv⟩

end Settled

/-! ## Runs -/

/-- A connector over one dataset: the store, the declarations, the tracking,
    and the current processing fingerprint and version of the identity schema. -/
structure ConvergenceMachine (V : Type) where
  fake : FakeCogneeRuntime
  declared : Declared
  tracking : Tracking
  configFp : String
  version : V

namespace ConvergenceMachine

/-- What may happen to a connector. -/
inductive Rule (V : Type)
  | declare (key : DocumentKey) (spec : CogneeDocumentSpec)
  | undeclare (key : DocumentKey)
  /-- Another processing configuration; the lossy invalidation of the children
      may be lost. -/
  | changeConfig (fp : String) (delivered : Bool)
  /-- Another version of the identity schema. -/
  | migrate (version : V)
  /-- A sync under a script of faults: it completes, or its batch fails. -/
  | sync (faults : List (Option Fault))
  /-- An exit between the precommit and the batch. -/
  | crashBeforeApply
  /-- An exit between the batch and the commit. -/
  | exitAfterApply (faults : List (Option Fault))

variable {V : Type} (d : Deployment V)

/-- A round of reconciling in the current configuration. -/
def round (m : ConvergenceMachine V) : Except PyError Outputs :=
  d.round m.version m.configFp m.declared m.tracking

/-- Applying the outputs of a round: the outcome and the store. -/
def applied (m : ConvergenceMachine V) (outputs : Outputs) (faults : List (Option Fault)) :
    Except PyError Unit × FakeCogneeRuntime :=
  run perform ((d.handler m.configFp).applyOutputs outputs) faults m.fake

/-- A sync: reconcile, precommit, apply, and commit if the batch returned. -/
def sync (faults : List (Option Fault)) (m : ConvergenceMachine V) :
    Except PyError Unit × ConvergenceMachine V :=
  match m.round d with
  | .error e => (.error e, m)
  | .ok outputs =>
    let result := m.applied d outputs faults
    let precommitted := m.tracking.precommit outputs
    (result.1, { m with
      fake := result.2
      tracking := match result.1 with
        | .error _ => precommitted
        | .ok () => precommitted.commit outputs })

/-- The next state. -/
def step (m : ConvergenceMachine V) : Rule V → ConvergenceMachine V
  | .declare key spec => { m with declared := m.declared.insert key spec }
  | .undeclare key => { m with declared := m.declared.erase key }
  | .changeConfig fp delivered =>
    if fp = m.configFp then m
    else { m with
      configFp := fp
      tracking := if delivered then m.tracking.invalidateLossy else m.tracking }
  | .migrate version => { m with version }
  | .sync faults => (m.sync d faults).2
  | .crashBeforeApply =>
    match m.round d with
    | .error _ => m
    | .ok outputs => { m with tracking := m.tracking.precommit outputs }
  | .exitAfterApply faults =>
    match m.round d with
    | .error _ => m
    | .ok outputs => { m with
        fake := (m.applied d outputs faults).2
        tracking := m.tracking.precommit outputs }

/-- The state after a run. -/
def run (m : ConvergenceMachine V) (rules : List (Rule V)) : ConvergenceMachine V :=
  rules.foldl (step d) m

/-- An empty dataset, and nothing tracked. -/
structure Initial (m : ConvergenceMachine V) : Prop where
  tracking : m.tracking = ∅
  rows : ∀ i, m.fake.row (keyOf d.handle) i = none

/-! ## The invariant -/

variable {d} {m m' : ConvergenceMachine V}

/-- A run in two parts. -/
theorem run_append (rules rules' : List (Rule V)) :
    m.run d (rules ++ rules') = (m.run d rules).run d rules' :=
  List.foldl_append

/-- Only a declaration changes what is declared. -/
theorem step_declared (rule : Rule V) : (m.step d rule).declared =
    match rule with
    | .declare key spec => m.declared.insert key spec
    | .undeclare key => m.declared.erase key
    | _ => m.declared := by
  cases rule with
  | declare key spec => rfl
  | undeclare key => rfl
  | changeConfig fp delivered =>
    rw [step]
    split_ifs <;> rfl
  | migrate version => rfl
  | sync faults =>
    rw [step, sync]
    cases m.round d <;> rfl
  | crashBeforeApply =>
    rw [step]
    cases m.round d <;> rfl
  | exitAfterApply faults =>
    rw [step]
    cases m.round d <;> rfl

/-- What a step does to the tracking and to the store. -/
inductive Moves (d : Deployment V) (m m' : ConvergenceMachine V) : Prop
  | quiet : m'.tracking = m.tracking → m'.fake = m.fake → Moves d m m'
  | lossy : m'.tracking = m.tracking.invalidateLossy → m'.fake = m.fake → Moves d m m'
  | precommit {outputs : Outputs} : m.round d = .ok outputs →
    m'.tracking = m.tracking.precommit outputs → m'.fake = m.fake → Moves d m m'
  | cut {outputs : Outputs} {b : Batch} : m.round d = .ok outputs →
    Batch.collect (outputs.map (·.2.action)) = .ok b →
    m'.tracking = m.tracking.precommit outputs →
    Writes (keyOf d.handle) (fun _ _ => True)
      (fun i x x' => b.Cut (d.profileOf m.configFp) i x x') m.fake m'.fake → Moves d m m'
  | commit {outputs : Outputs} {b : Batch} : m.round d = .ok outputs →
    Batch.collect (outputs.map (·.2.action)) = .ok b →
    m'.tracking = (m.tracking.precommit outputs).commit outputs →
    Writes (keyOf d.handle) (fun _ _ => True)
      (fun i x x' => x' = b.effect (d.profileOf m.configFp) i x) m.fake m'.fake → Moves d m m'

theorem writes_of_applied {outputs : Outputs} (hround : m.round d = .ok outputs)
    (faults : List (Option Fault)) : ∃ b, Batch.collect (outputs.map (·.2.action)) = .ok b ∧
      Writes (keyOf d.handle) (fun _ _ => True)
        (fun i x x' => b.Cut (d.profileOf m.configFp) i x x') m.fake
        (m.applied d outputs faults).2 ∧
      ((m.applied d outputs faults).1 = .ok () →
        Writes (keyOf d.handle) (fun _ _ => True)
          (fun i x x' => x' = b.effect (d.profileOf m.configFp) i x) m.fake
          (m.applied d outputs faults).2) := by
  have hc := Deployment.complete_actions hround
  obtain ⟨b, hb⟩ := hc.exists_collect
  exact ⟨b, hb, Deployment.writes_of_run (h := d.handler m.configFp) hb hc faults m.fake⟩

theorem sync_eq {outputs : Outputs} (hround : m.round d = .ok outputs)
    (faults : List (Option Fault)) : m.sync d faults = ((m.applied d outputs faults).1, { m with
      fake := (m.applied d outputs faults).2
      tracking := match (m.applied d outputs faults).1 with
        | .error _ => m.tracking.precommit outputs
        | .ok () => (m.tracking.precommit outputs).commit outputs }) := by
  rw [sync, hround]

/-- A sync that completes had a round, and committed its outputs. -/
theorem sync_ok {faults : List (Option Fault)} (hok : (m.sync d faults).1 = .ok ()) :
    ∃ outputs, m.round d = .ok outputs ∧ (m.sync d faults).2 = { m with
      fake := (m.applied d outputs faults).2
      tracking := (m.tracking.precommit outputs).commit outputs } := by
  cases hround : m.round d with
  | error e =>
    rw [sync, hround] at hok
    cases hok
  | ok outputs =>
    rw [sync_eq hround] at hok
    refine ⟨outputs, rfl, ?_⟩
    rw [sync_eq hround, show (m.applied d outputs faults).1 = .ok () from hok]

theorem moves_step (rule : Rule V) : Moves d m (m.step d rule) := by
  cases rule with
  | declare key spec => exact .quiet rfl rfl
  | undeclare key => exact .quiet rfl rfl
  | migrate version => exact .quiet rfl rfl
  | changeConfig fp delivered =>
    rw [step]
    split_ifs
    · exact .quiet rfl rfl
    · exact .lossy rfl rfl
    · exact .quiet rfl rfl
  | crashBeforeApply =>
    rw [step]
    cases hround : m.round d with
    | error e => exact .quiet rfl rfl
    | ok outputs => exact .precommit hround rfl rfl
  | exitAfterApply faults =>
    rw [step]
    cases hround : m.round d with
    | error e => exact .quiet rfl rfl
    | ok outputs =>
      obtain ⟨b, hb, hcut, -⟩ := writes_of_applied hround faults
      exact .cut hround hb rfl hcut
  | sync faults =>
    rw [step]
    cases hround : m.round d with
    | error e =>
      rw [sync, hround]
      exact .quiet rfl rfl
    | ok outputs =>
      obtain ⟨b, hb, hcut, heffect⟩ := writes_of_applied hround faults
      rw [sync_eq hround]
      cases hresult : (m.applied d outputs faults).1 with
      | error e => exact .cut hround hb rfl hcut
      | ok u => exact .commit hround hb rfl (heffect hresult)

/-- The possible records cover the rows of the dataset. -/
def Covered (d : Deployment V) (m : ConvergenceMachine V) : Prop :=
  d.Covers Set.univ m.tracking m.fake

/-- Every row is that of a key. -/
def Owned (d : Deployment V) (m : ConvergenceMachine V) : Prop :=
  ∀ i, (m.fake.row (keyOf d.handle) i).isSome → ∃ k, i ∈ d.ids k

theorem covered_initial (htracking : m.tracking = ∅)
    (hrows : ∀ k, ∀ i ∈ d.ids k, m.fake.row (keyOf d.handle) i = none) : m.Covered d := by
  intro k _
  have hkey : k ∉ m.tracking := by
    rw [htracking]
    exact Std.ExtTreeMap.not_mem_empty
  rw [Tracking.prevRecords_of_notMem hkey, Tracking.prevMayBeMissing_of_notMem hkey]
  exact .fresh (hrows k)

theorem Initial.covered (h : m.Initial d) : m.Covered d :=
  covered_initial h.tracking fun _ i _ => h.rows i

theorem Initial.owned (h : m.Initial d) : m.Owned d := fun i hi => by
  rw [h.rows i] at hi
  cases hi

theorem Covered.step (hsep : d.Separated) (hdiff : DiffContract) (h : m.Covered d)
    (rule : Rule V) : (m.step d rule).Covered d := by
  have hkeys : ∀ {outputs : Outputs}, ∀ k o, (k, o) ∈ outputs → k ∈ (Set.univ : Set DocumentKey) :=
    fun _ _ _ => Set.mem_univ _
  -- A commit and an interruption are the only rules that touch rows and records.
  unfold Covered at h ⊢
  cases moves_step (d := d) (m := m) rule with
  | quiet htracking hfake => rwa [htracking, hfake]
  | lossy htracking hfake =>
    rw [htracking, hfake]
    intro k hk
    rw [Tracking.prevRecords_invalidateLossy, Tracking.prevMayBeMissing_invalidateLossy]
    exact (h k hk).lossy
  | precommit hround htracking hfake =>
    rw [htracking, hfake]
    exact Deployment.Covers.precommit hround h
  | cut hround hb htracking hwrites =>
    rw [htracking]
    exact Deployment.Covers.cut hsep hround hkeys h hb hdiff hwrites
  | commit hround hb htracking hwrites =>
    rw [htracking]
    exact Deployment.Covers.commit hsep hround hkeys h hb hdiff hwrites

/-- In every reachable state, the possible records cover the rows. -/
theorem Covered.run (hsep : d.Separated) (hdiff : DiffContract) (h : m.Covered d)
    (rules : List (Rule V)) : (m.run d rules).Covered d := by
  induction rules generalizing m with
  | nil => exact h
  | cons rule rules ih => exact ih (h.step hsep hdiff rule)

theorem Owned.step (h : m.Owned d) (rule : Rule V) : (m.step d rule).Owned d := by
  have hkeys : ∀ {outputs : Outputs}, ∀ k o, (k, o) ∈ outputs → k ∈ (Set.univ : Set DocumentKey) :=
    fun _ _ _ => Set.mem_univ _
  intro i hi
  have hcut : ∀ {outputs : Outputs} {b : Batch}, m.round d = .ok outputs →
      Batch.collect (outputs.map (·.2.action)) = .ok b →
      Writes (keyOf d.handle) (fun _ _ => True)
        (fun i x x' => b.Cut (d.profileOf m.configFp) i x x') m.fake (m.step d rule).fake →
      ∃ k, i ∈ d.ids k := by
    intro outputs b hround hb hwrites
    rcases Deployment.exists_mem_ids_of_cut hround hkeys hb hwrites hi with hi | ⟨k, -, hk⟩
    · exact h i hi
    · exact ⟨k, _, hk⟩
  cases moves_step (d := d) (m := m) rule with
  | quiet _ hfake => exact h i (hfake ▸ hi)
  | lossy _ hfake => exact h i (hfake ▸ hi)
  | precommit _ _ hfake => exact h i (hfake ▸ hi)
  | cut hround hb _ hwrites => exact hcut hround hb hwrites
  | commit hround hb _ hwrites =>
    exact hcut hround hb (hwrites.mono (fun _ _ => id) fun _ _ _ hx => hx ▸ .cognified)

theorem Owned.run (h : m.Owned d) (rules : List (Rule V)) : (m.run d rules).Owned d := by
  induction rules generalizing m with
  | nil => exact h
  | cons rule rules ih => exact ih (h.step rule)

/-! ## Fixed points -/

/-- The tracking is what the declarations ask for. -/
abbrev Fixed (d : Deployment V) (m : ConvergenceMachine V) : Prop :=
  d.Fixed m.version m.configFp m.declared m.tracking

/-- A complete sync tracks what the declarations ask for. -/
theorem fixed_of_sync (hdiff : DiffContract) (h : m.Covered d) {faults : List (Option Fault)}
    (hok : (m.sync d faults).1 = .ok ()) : (m.sync d faults).2.Fixed d := by
  obtain ⟨outputs, hround, hm'⟩ := sync_ok hok
  rw [hm']
  exact Deployment.fixed_of_commit hdiff hround h fun k _ => Set.mem_univ k

/-- The rows of the dataset are those of the declared keys. -/
theorem Fixed.isSome_row_iff (h : m.Fixed d) (hcov : m.Covered d) (hown : m.Owned d) {i : UUID} :
    (m.fake.row (keyOf d.handle) i).isSome ↔ ∃ k ∈ m.declared, d.dataId m.version k = .ok i := by
  constructor
  · intro hi
    obtain ⟨k, hk⟩ := hown i hi
    exact ⟨k, h.declared_of_row hcov (Set.mem_univ k) hk hi⟩
  · rintro ⟨k, hk, hi⟩
    exact h.row_of_declared hcov (Set.mem_univ k) hk hi

/-- The dataset holds the declared documents and nothing else, the tracking
    their records, and there is nothing left to do. -/
structure Converged (d : Deployment V) (m : ConvergenceMachine V) : Prop where
  rows : ∀ i, (m.fake.row (keyOf d.handle) i).isSome ↔
    ∃ k ∈ m.declared, d.dataId m.version k = .ok i
  documents : ∀ k spec, m.declared[k]? = some spec → ∃ i x, d.dataId m.version k = .ok i ∧
    m.fake.row (keyOf d.handle) i = some x ∧ ConvergedTo spec (d.profileOf m.configFp) x
  tracked : ∀ k, k ∈ m.tracking ↔ k ∈ m.declared
  fixed : m.round d = .ok []

theorem Fixed.converged (hblake : Blake2bCollisionFree) (hfloat : FloatReprLaws)
    (hdiff : DiffContract) (h : m.Fixed d) (hcov : m.Covered d) (hown : m.Owned d) :
    m.Converged d where
  rows _ := h.isSome_row_iff hcov hown
  documents _ _ hspec := h.convergedTo hblake hfloat hcov (Set.mem_univ _) hspec
  tracked _ := h.mem_tracking_iff
  fixed := h.round_eq_nil hdiff

/-- What reconciling a key would find now, in the current version of the identity schema. -/
def reconcile (d : Deployment V) (m : ConvergenceMachine V) (fp : String) (k : DocumentKey)
    (desired : Option CogneeDocumentSpec) : Except PyError (Option ReconcileOutput) :=
  (d.handler fp).reconcileWith (d.derive m.version) (.str k.text) desired
    (m.tracking.prevRecords k) (m.tracking.prevMayBeMissing k)

/-- The possible records account for every row, and whatever a key is
    reconciled with, under any processing configuration, nothing is left out:
    nothing is done only if the row has converged (or there is none), and only
    the label is written if the row has everything else. -/
structure NoFalseFixedPoint (d : Deployment V) (m : ConvergenceMachine V) : Prop where
  accounted : ∀ i x, m.fake.row (keyOf d.handle) i = some x → ∃ k ∈ m.tracking,
    (∃ r ∈ m.tracking.prevRecords k, r.dataId = i) ∧ Possible (m.tracking.prevRecords k) x
  converged : ∀ fp k spec, m.reconcile d fp k (some spec) = .ok none → ∃ i x,
    d.dataId m.version k = .ok i ∧ m.fake.row (keyOf d.handle) i = some x ∧
      ConvergedTo spec (d.profileOf fp) x
  absent : ∀ fp k, m.reconcile d fp k none = .ok none →
    ∀ i, d.dataId m.version k = .ok i → m.fake.row (keyOf d.handle) i = none
  relabelled : ∀ fp k spec o, m.reconcile d fp k (some spec) = .ok (some o) →
    o.action.op = .updateMetadata → d.dataId m.version k = .ok o.action.dataId ∧
      ∃ x, m.fake.row (keyOf d.handle) o.action.dataId = some x ∧
        DerivedFrom spec (d.profileOf fp) x

theorem reconcile_eq_ok_iff {fp : String} {k : DocumentKey} {desired : Option CogneeDocumentSpec}
    {o : Option ReconcileOutput} : m.reconcile d fp k desired = .ok o ↔
      ∃ i, d.dataId m.version k = .ok i ∧ (d.handler fp).reconcileId k.text i desired
        (m.tracking.prevRecords k) (m.tracking.prevMayBeMissing k) = o := by
  rw [reconcile, DocumentHandler.reconcileWith]
  simp only [k.normalized, bind_eq_ok, pure_eq_ok, Except.ok.injEq, exists_eq_left']
  rfl

theorem Covered.noFalseFixedPoint (hblake : Blake2bCollisionFree) (hfloat : FloatReprLaws)
    (hdiff : DiffContract) (h : m.Covered d) (hown : m.Owned d) : m.NoFalseFixedPoint d where
  accounted i x hx := by
    obtain ⟨k, hk⟩ := hown i (Option.isSome_iff_exists.2 ⟨x, hx⟩)
    obtain ⟨r, hr, hri⟩ := (h k (Set.mem_univ k)).owner i hk x hx
    -- A row has a record, so that its key is still tracked.
    refine ⟨k, ?_, ⟨r, hr, hri⟩, (h k (Set.mem_univ k)).possible i hk x hx⟩
    by_contra hne
    rw [Tracking.prevRecords_of_notMem hne] at hr
    cases hr
  converged fp k spec hnone := by
    obtain ⟨i, hi, hreconcile⟩ := reconcile_eq_ok_iff.1 hnone
    -- Every possible previous record is the desired one, also that of the stored row.
    obtain ⟨hmissing, hall⟩ := (DocumentHandler.reconcileId_eq_none_iff hdiff).1 hreconcile
    have hcov := h k (Set.mem_univ k)
    rw [hmissing] at hcov
    obtain ⟨x, hx, hconv⟩ := hcov.convergedTo hblake hfloat hall
    exact ⟨i, x, hi, hx, hconv⟩
  absent fp k hnone i hi := by
    obtain ⟨j, -, hreconcile⟩ := reconcile_eq_ok_iff.1 hnone
    obtain ⟨hprev, -⟩ := DocumentHandler.reconcileId_delete_eq_none_iff.1 hreconcile
    refine Option.eq_none_iff_forall_not_mem.2 fun x hx => ?_
    obtain ⟨r, hr, -⟩ := (h k (Set.mem_univ k)).owner i ⟨_, hi⟩ x hx
    rw [hprev] at hr
    cases hr
  relabelled fp k spec o ho hop := by
    obtain ⟨i, hi, hreconcile⟩ := reconcile_eq_ok_iff.1 ho
    have hclass := DocumentHandler.reconcileId_classified hdiff hreconcile
    rw [hop] at hclass
    obtain ⟨hid, -⟩ := DocumentHandler.reconcileId_action hreconcile
    rw [hid]
    cases hclass with
    | updateMetadata hmissing _ hall =>
      have hcov := h k (Set.mem_univ k)
      rw [hmissing] at hcov
      exact ⟨hi, hcov.derivedFrom hblake hfloat hall⟩

end ConvergenceMachine

/-! ## The deployment of a connector -/

/-- The connector derives ids by `documentDataId`, and there is no other derivation. -/
def Deployment.connector (runtimeKey : String) (handle : DatasetHandle)
    (profileOf : String → CognifyProfile) : Deployment Unit where
  runtimeKey := runtimeKey
  handle := handle
  profileOf := profileOf
  derive _ := documentDataId

theorem Deployment.connector_separated (huuid : Uuid5CollisionFree) (runtimeKey : String)
    (handle : DatasetHandle) (profileOf : String → CognifyProfile) :
    (connector runtimeKey handle profileOf).Separated := by
  rintro k l i ⟨_, hk⟩ ⟨_, hl⟩
  obtain ⟨-, -, -, -, hnfc⟩ := documentDataId_inj huuid hk hl
  rw [k.nfc_text, l.nfc_text] at hnfc
  exact DocumentKey.text_injective hnfc

/-- With valid coordinates, the connector has a `data_id` for each key. -/
theorem Deployment.connector_dataId {runtimeKey : String} {handle : DatasetHandle}
    {profileOf : String → CognifyProfile}
    (hkey : Coordinate runtimeKey ∧ matchesRuntimeKeyPattern runtimeKey)
    (htenant : Coordinate handle.tenant) (hname : Coordinate handle.name) (k : DocumentKey) :
    ∃ i, (connector runtimeKey handle profileOf).dataId () k = .ok i :=
  ⟨_, documentDataId_ok_iff.2
    ⟨⟨hkey, handle.identityScope_ok, htenant, hname, k.coordinate⟩, rfl⟩⟩

namespace ConvergenceMachine

variable {V : Type} {d : Deployment V} {m : ConvergenceMachine V}

/-- A run does not change who owns the dataset. -/
theorem run_identityScope (rules : List (Rule V)) :
    (m.run d rules).fake.identityScope = m.fake.identityScope := by
  induction rules generalizing m with
  | nil => rfl
  | cons rule rules ih =>
    refine ih.trans ?_
    cases moves_step (d := d) (m := m) rule with
    | quiet _ hfake => rw [hfake]
    | lossy _ hfake => rw [hfake]
    | precommit _ _ hfake => rw [hfake]
    | cut _ _ _ hwrites => exact hwrites.scope
    | commit _ _ _ hwrites => exact hwrites.scope

/-- Without faults, a sync completes. -/
theorem sync_completes (hids : ∀ k, ∃ i, d.dataId m.version k = .ok i)
    (hscope : d.handle.identityScope = m.fake.identityScope) : (m.sync d []).1 = .ok () := by
  obtain ⟨outputs, hround⟩ : ∃ outputs, m.round d = .ok outputs :=
    Tracking.exists_reconcileRound fun k _ => by
      obtain ⟨i, hi⟩ := hids k
      exact ⟨_, Tracking.reconcileKey_eq_ok_iff.2 ⟨i, hi, rfl⟩⟩
  rw [sync_eq hround]
  exact Deployment.run_applyOutputs_ok (Deployment.complete_actions hround) hscope

/-- After any run, a sync that completes leaves a converged state. -/
theorem Initial.converged (hblake : Blake2bCollisionFree) (hfloat : FloatReprLaws)
    (hsep : d.Separated) (hdiff : DiffContract) (hinit : m.Initial d) {rules : List (Rule V)}
    {faults : List (Option Fault)} (hok : ((m.run d rules).sync d faults).1 = .ok ()) :
    ((m.run d rules).sync d faults).2.Converged d := by
  have hcov := hinit.covered.run hsep hdiff rules
  have hown := hinit.owned.run rules
  exact (fixed_of_sync hdiff hcov hok).converged hblake hfloat hdiff
    (hcov.step hsep hdiff (.sync faults)) (hown.step (.sync faults))

end ConvergenceMachine

/-! ## Main results -/

/-- **Convergence of a completed sync.** After any run, a sync that completes
    leaves the declared documents and nothing else, the tracking of their
    records, and nothing to do. -/
theorem complete_sync_converges (hblake : Blake2bCollisionFree) (hfloat : FloatReprLaws)
    (huuid : Uuid5CollisionFree) (hdiff : DiffContract) (runtimeKey : String)
    (handle : DatasetHandle) (profileOf : String → CognifyProfile) (m : ConvergenceMachine Unit)
    (hinit : m.Initial (.connector runtimeKey handle profileOf))
    (rules : List (ConvergenceMachine.Rule Unit)) (faults : List (Option Fault))
    (hok : ((m.run (.connector runtimeKey handle profileOf) rules).sync
      (.connector runtimeKey handle profileOf) faults).1 = .ok ()) :
    ((m.run (.connector runtimeKey handle profileOf) rules).sync
      (.connector runtimeKey handle profileOf) faults).2.Converged
        (.connector runtimeKey handle profileOf) :=
  hinit.converged hblake hfloat (Deployment.connector_separated huuid runtimeKey handle profileOf)
    hdiff hok

end

/-- A connector on the sample platform, with one processing configuration. -/
def Deployment.sample : @Deployment .sample Unit :=
  letI : Platform := .sample
  .connector "rt" DocumentHandler.sample.handle fun _ => DocumentHandler.sample.profile

/-- A connector on the sample platform, with nothing declared. -/
def ConvergenceMachine.sample : @ConvergenceMachine .sample Unit :=
  letI : Platform := .sample
  { fake := .sample, declared := ∅, tracking := ∅, configFp := "pfp-A", version := () }

/-- A key on the sample platform. -/
def DocumentKey.sample : @DocumentKey .sample :=
  letI : Platform := .sample
  { text := "a.md", normalized := normalizeExternalKey_ok_iff.2 ⟨by decide, rfl⟩ }

/-- Another key on the sample platform. -/
def DocumentKey.other : @DocumentKey .sample :=
  letI : Platform := .sample
  { text := "b.md", normalized := normalizeExternalKey_ok_iff.2 ⟨by decide, rfl⟩ }

theorem ConvergenceMachine.sample_initial :
    letI : Platform := .sample
    ConvergenceMachine.sample.Initial .sample :=
  letI : Platform := .sample
  ⟨rfl, fun _ => by simp [ConvergenceMachine.sample, FakeCogneeRuntime.sample, row_eq]⟩

/-- A run with a failing purge, an exit before a commit and a lost invalidation. -/
def ConvergenceMachine.sampleRun : List (@ConvergenceMachine.Rule .sample Unit) :=
  letI : Platform := .sample
  [.declare .sample (.sample "alpha" "old"), .exitAfterApply [], .changeConfig "pfp-B" false,
    .declare .sample (.sample "beta" "new"),
    .sync [none, some ⟨⟨.external, "injected fault"⟩, some [.done]⟩]]

/-- Without faults, the connector of the sample can sync after any run. -/
theorem ConvergenceMachine.sample_sync (rules : List (@ConvergenceMachine.Rule .sample Unit)) :
    letI : Platform := .sample
    ((ConvergenceMachine.sample.run .sample rules).sync .sample []).1 = .ok () := by
  let : Platform := .sample
  have hscope := run_identityScope (d := Deployment.sample) (m := .sample) rules
  refine sync_completes (fun k => ?_) hscope.symm
  exact Deployment.connector_dataId ⟨by decide, by decide⟩ (by decide) (by decide) k

/-- After that run, a sync converges. -/
theorem complete_sync_converges_sample :
    letI : Platform := .sample
    ((ConvergenceMachine.sample.run .sample ConvergenceMachine.sampleRun).sync
      .sample []).2.Converged .sample :=
  letI : Platform := .sample
  complete_sync_converges Platform.sample_blake2b Platform.sample_floatRepr Platform.sample_uuid5
    Platform.sample_diff "rt" _ _ .sample ConvergenceMachine.sample_initial
    ConvergenceMachine.sampleRun [] (ConvergenceMachine.sample_sync _)

section

variable [Platform]

/-- **No false fixed point.** In every reachable state, the possible records
    account for every row, and reconciling finds nothing to do, or only a label
    to write, where that is so. -/
theorem no_false_fixed_point (hblake : Blake2bCollisionFree) (hfloat : FloatReprLaws)
    (huuid : Uuid5CollisionFree) (hdiff : DiffContract) (runtimeKey : String)
    (handle : DatasetHandle) (profileOf : String → CognifyProfile) (m : ConvergenceMachine Unit)
    (hinit : m.Initial (.connector runtimeKey handle profileOf))
    (rules : List (ConvergenceMachine.Rule Unit)) :
    (m.run (.connector runtimeKey handle profileOf) rules).NoFalseFixedPoint
      (.connector runtimeKey handle profileOf) :=
  have hsep := Deployment.connector_separated huuid runtimeKey handle profileOf
  (hinit.covered.run hsep hdiff rules).noFalseFixedPoint hblake hfloat hdiff
    (hinit.owned.run rules)

end

/-- After that run, without the sync, there is no false fixed point either. -/
theorem no_false_fixed_point_sample :
    letI : Platform := .sample
    (ConvergenceMachine.sample.run .sample
      ConvergenceMachine.sampleRun).NoFalseFixedPoint .sample :=
  letI : Platform := .sample
  no_false_fixed_point Platform.sample_blake2b Platform.sample_floatRepr Platform.sample_uuid5
    Platform.sample_diff "rt" _ _ .sample ConvergenceMachine.sample_initial
    ConvergenceMachine.sampleRun

end Cogindex
