import Cogindex.Target

/-!
# Datasets as targets

The container of the documents: reconciling a dataset decides whether it is to
be torn down (`DatasetHandler.reconcile`), and the actions of a batch are
applied one after the other (`applyDatasetActions`), each of them looking up
the runtime that its context key is bound to, if it has any work to do. The
output for a declared dataset is the handler of its documents.

Who manages a dataset, the system or its user, is for
`statediff.resolve_system_transition` of CocoIndex to look at, which is a
parameter here; what is assumed of it is its `SystemTransitionContract`.

* `DatasetHandler.mainAction_none`: what is done with a dataset that is not to exist;
* `eachRun_of_runs`: what is recorded of a batch, in any world.
-/

namespace Cogindex

open Coroutine

/-- Who manages a dataset. -/
inductive ManagedBy
  | system
  | user
  deriving DecidableEq

/-- A record together with who manages its target. -/
structure MutualTrackingRecord (R : Type) where
  trackingRecord : R
  managedBy : ManagedBy
  deriving DecidableEq

/-- From the possible previous records to the desired one, `none` for `NON_EXISTENCE`. -/
structure TrackingRecordTransition (R : Type) where
  desired : Option R
  prev : List R
  prevMayBeMissing : Bool

/-- A key of the engine, as far as the connector looks into it. -/
inductive StableKey
  | str (s : String)
  | tuple (items : List StableKey)
  | other (typeName : String)

/-- The tracking record of a dataset. -/
structure DatasetConfigRecord where
  processingFingerprint : String
  schemaVersion : ℕ := RECORD_SCHEMA_VERSION
  deriving DecidableEq

/-- The record of a dataset and who manages it. -/
abbrev DatasetTrackingRecord : Type := MutualTrackingRecord DatasetConfigRecord

/-- The key of a dataset, with accepted coordinates. -/
@[ext]
structure DatasetKey where
  runtimeKey : String
  tenant : String
  datasetName : String
  runtimeKey_ok : Coordinate runtimeKey ∧ matchesRuntimeKeyPattern runtimeKey
  tenant_ok : Coordinate tenant
  datasetName_ok : Coordinate datasetName

instance : DecidableEq DatasetKey := fun _ _ => decidable_of_iff' _ DatasetKey.ext_iff

/-- The tuple that the engine is given. -/
def DatasetKey.toStableKey (key : DatasetKey) : StableKey :=
  .tuple [.str key.runtimeKey, .str key.tenant, .str key.datasetName]

/-- `_check_dataset_key`. -/
def checkDatasetKey : StableKey → Except PyError DatasetKey
  | .tuple [.str runtimeKey, .str tenant, .str datasetName] => do
    let ⟨_, hr⟩ ← attachOk (validateRuntimeKey runtimeKey)
    let ⟨_, ht⟩ ← attachOk (validateCoordinate tenant "tenant")
    let ⟨_, hn⟩ ← attachOk (validateCoordinate datasetName "dataset_name")
    return { runtimeKey, tenant, datasetName, runtimeKey_ok := validateRuntimeKey_ok_iff.1 hr,
             tenant_ok := validateCoordinate_ok_iff.1 ht,
             datasetName_ok := validateCoordinate_ok_iff.1 hn }
  | _ => .error ⟨.typeError, "dataset key must be a three-item tuple of strings"⟩

theorem checkDatasetKey_toStableKey (key : DatasetKey) :
    checkDatasetKey key.toStableKey = .ok key := by
  simp only [DatasetKey.toStableKey, checkDatasetKey,
    attachOk_eq (validateRuntimeKey_ok_iff.2 key.runtimeKey_ok),
    attachOk_eq (validateCoordinate_ok_iff.2 key.tenant_ok),
    attachOk_eq (validateCoordinate_ok_iff.2 key.datasetName_ok)]
  rfl

/-- What a change of a container does to the targets inside of it. -/
inductive ChildInvalidation
  | destructive
  | lossy
  deriving DecidableEq

section

variable [Platform]

/-- The desired state of a dataset. -/
structure CogneeDatasetSpec where
  profile : CognifyProfile
  processing : ProcessingConfig
  managedBy : ManagedBy := .system

/-- What to do with a dataset; `none` for a dataset that is not to exist. -/
structure DatasetAction where
  key : DatasetKey
  spec : Option CogneeDatasetSpec
  mainAction : Option DiffAction
  processingFingerprint : Option String

/-- What reconciling a dataset asks for. -/
structure DatasetReconcileOutput where
  action : DatasetAction
  trackingRecord : Option DatasetTrackingRecord
  childInvalidation : Option ChildInvalidation

/-! ## Reconciling -/

/-- `statediff.resolve_system_transition`: the transition of a target that the
    system manages, if there is one. -/
abbrev SystemTransition : Type := TrackingRecordTransition DatasetTrackingRecord →
  Option (TrackingRecordTransition DatasetConfigRecord)

/-- The contract of `statediff.resolve_system_transition` for a target that is
    not to exist: a possible record of a user short-circuits the cleanup, and
    where there is no record there is no transition, or none that cleans up. -/
structure SystemTransitionContract (resolve : SystemTransition) : Prop where
  empty : ∀ missing, ∀ t ∈ resolve ⟨none, [], missing⟩, t.desired = none ∧ t.prev = []
  user : ∀ prev missing, (∃ r ∈ prev, r.managedBy = .user) → resolve ⟨none, prev, missing⟩ = none
  system : ∀ prev missing, prev ≠ [] → (∀ r ∈ prev, r.managedBy = .system) →
    resolve ⟨none, prev, missing⟩ = some ⟨none, prev.map (·.trackingRecord), missing⟩

/-- The contract of `statediff.diff` for a record that is not to exist. -/
def DiffDeleteContract : Prop := ∀ {R : Type} [DecidableEq R] (prev : List R) (missing : Bool),
  Platform.diff none prev missing = if prev = [] then none else some .delete

/-- `statediff.diff` of a transition, or of none at all. -/
def diffTransition (t : Option (TrackingRecordTransition DatasetConfigRecord)) :
    Option DiffAction :=
  t.bind fun t => Platform.diff t.desired t.prev t.prevMayBeMissing

namespace DatasetHandler

/-- The fingerprint of the config of a specification, and the record to track. -/
def trackingRecordFor : Option CogneeDatasetSpec →
    Except PyError (Option String × Option DatasetTrackingRecord)
  | none => .ok (none, none)
  | some spec => do
    let processingFingerprint ← spec.processing.fingerprint
    return (some processingFingerprint, some ⟨⟨processingFingerprint, RECORD_SCHEMA_VERSION⟩,
      spec.managedBy⟩)

/-- Reconciling a dataset. There always is an output: the sink has to run to
    hand out the handler of the documents. -/
def reconcile (resolve : SystemTransition) (key : StableKey)
    (desiredState : Option CogneeDatasetSpec) (prevRecords : List DatasetTrackingRecord)
    (prevMayBeMissing : Bool) : Except PyError DatasetReconcileOutput := do
  let datasetKey ← checkDatasetKey key
  let (processingFingerprint, trackingRecord) ← trackingRecordFor desiredState
  let mainAction := diffTransition (resolve ⟨trackingRecord, prevRecords, prevMayBeMissing⟩)
  -- A changed config makes derivatives stale, but keeps the raw data.
  let childInvalidation := if mainAction = some .replace then some ChildInvalidation.lossy else none
  return ⟨⟨datasetKey, desiredState, mainAction, processingFingerprint⟩, trackingRecord,
    childInvalidation⟩

end DatasetHandler

namespace DatasetHandler

variable {resolve : SystemTransition} {key : DatasetKey} {desired : Option CogneeDatasetSpec}
  {prev : List DatasetTrackingRecord} {missing : Bool} {o : DatasetReconcileOutput}

theorem reconcile_eq {f : Option String} {r : Option DatasetTrackingRecord}
    (h : trackingRecordFor desired = .ok (f, r)) :
    reconcile resolve key.toStableKey desired prev missing = .ok
      ⟨⟨key, desired, diffTransition (resolve ⟨r, prev, missing⟩), f⟩, r,
        if diffTransition (resolve ⟨r, prev, missing⟩) = some .replace then some .lossy
        else none⟩ := by
  rw [reconcile, checkDatasetKey_toStableKey, ok_bind, h]
  rfl

/-- What reconciling a dataset returns. -/
theorem reconcile_ok (h : reconcile resolve key.toStableKey desired prev missing = .ok o) :
    o.action.key = key ∧ o.action.spec = desired ∧
      trackingRecordFor desired = .ok (o.action.processingFingerprint, o.trackingRecord) ∧
      o.action.mainAction = diffTransition (resolve ⟨o.trackingRecord, prev, missing⟩) := by
  rw [reconcile, checkDatasetKey_toStableKey, ok_bind, bind_eq_ok] at h
  obtain ⟨⟨f, r⟩, hr, ho⟩ := h
  obtain rfl := pure_eq_ok.1 ho
  exact ⟨rfl, rfl, hr, rfl⟩

/-- A specification is tracked with the fingerprint of its config. -/
theorem trackingRecordFor_some {spec : CogneeDatasetSpec} {f : Option String}
    {r : Option DatasetTrackingRecord} (h : trackingRecordFor (some spec) = .ok (f, r)) :
    ∃ processingFingerprint, spec.processing.fingerprint = .ok processingFingerprint ∧
      f = some processingFingerprint ∧
      r = some ⟨⟨processingFingerprint, RECORD_SCHEMA_VERSION⟩, spec.managedBy⟩ := by
  rw [trackingRecordFor, bind_eq_ok] at h
  obtain ⟨processingFingerprint, hfingerprint, hpair⟩ := h
  cases pure_eq_ok.1 hpair
  exact ⟨processingFingerprint, hfingerprint, rfl, rfl⟩

/-- There is a record to track if, and only if, the dataset is to exist. -/
theorem trackingRecord_eq_none_iff
    (h : reconcile resolve key.toStableKey desired prev missing = .ok o) :
    o.trackingRecord = none ↔ desired = none := by
  obtain ⟨-, -, hrecord, -⟩ := reconcile_ok h
  cases desired with
  | none => exact iff_of_true (congrArg Prod.snd (Except.ok.inj hrecord)).symm rfl
  | some spec =>
    obtain ⟨_, _, _, hr⟩ := trackingRecordFor_some hrecord
    rw [hr]
    exact iff_of_false nofun nofun

/-- A dataset that is not to exist is deleted if it has possible records, all
    of them of the system; otherwise nothing is done. -/
theorem mainAction_none (hresolve : SystemTransitionContract resolve) (hdiff : DiffDeleteContract)
    (h : reconcile resolve key.toStableKey none prev missing = .ok o) :
    (o.action.mainAction = some .delete ∧ prev ≠ [] ∧ ∀ r ∈ prev, r.managedBy = .system) ∨
      o.action.mainAction = none ∧ (prev = [] ∨ ∃ r ∈ prev, r.managedBy = .user) := by
  obtain ⟨-, -, -, hmain⟩ := reconcile_ok h
  rw [(trackingRecord_eq_none_iff h).2 rfl] at hmain
  by_cases hprev : prev = []
  · subst hprev
    refine .inr ⟨hmain.trans ?_, .inl rfl⟩
    cases ht : resolve ⟨none, [], missing⟩ with
    | none => rfl
    | some t =>
      obtain ⟨hdesired, hprev⟩ := hresolve.empty missing t ht
      rw [diffTransition, Option.bind_some, hdesired, hprev, hdiff]
      exact if_pos rfl
  by_cases huser : ∃ r ∈ prev, r.managedBy = .user
  · right
    rw [hresolve.user prev missing huser] at hmain
    exact ⟨hmain, .inr huser⟩
  · have hsystem : ∀ r ∈ prev, r.managedBy = .system := fun r hr => by
      rcases hmanaged : r.managedBy with _ | _
      exacts [rfl, absurd ⟨r, hr, hmanaged⟩ huser]
    rw [hresolve.system prev missing hprev hsystem, diffTransition, Option.bind_some, hdiff]
      at hmain
    exact .inl ⟨hmain.trans (if_neg (mt List.map_eq_nil_iff.1 hprev)), hprev, hsystem⟩

end DatasetHandler

/-! ## Applying a batch -/

/-- An object that a context key is bound to. -/
inductive ContextValue (ρ : Type)
  | runtime (r : ρ)
  | other (typeName : String)

/-- The calls of the sink: `context_provider.get(runtime_key)`, and those of a runtime. -/
inductive DatasetCall (ρ : Type)
  | getRuntime (runtimeKey : String)
  | runtime (r : ρ) (c : RuntimeCall)

/-- What the calls return. -/
@[reducible] def DatasetCall.Response {ρ : Type} : DatasetCall ρ → Type
  | getRuntime _ => ContextValue ρ
  | runtime _ c => c.Response

/-- A coroutine over the calls of the sink. -/
abbrev DatasetProgram (ρ : Type) : Type → Type :=
  Coroutine (DatasetCall ρ) DatasetCall.Response PyError

/-- A coroutine over the calls of one runtime. -/
def onRuntime {ρ α : Type} (r : ρ) : Program α → DatasetProgram ρ α
  | .ret a => .ret a
  | .raise e => .raise e
  | .await c k => .await (.runtime r c) fun response => onRuntime r (k response)

/-- The handler of the documents of a dataset, with its runtime. -/
structure ChildTargetDef (ρ : Type) where
  runtime : ρ
  handler : DocumentHandler

/-- Tearing down a dataset under its lock, whose scope is known before the
    dataset exists. -/
def tearDown (name tenant : String) : Program Unit := do
  let handle ← await (.resolveDataset name tenant)
  withLock handle (await (.teardownDataset handle))

variable {ρ : Type}

/-- `context_provider.get(runtime_key)`, which has to be a runtime. -/
def boundRuntime (runtimeKey : String) : DatasetProgram ρ ρ := do
  match ← Coroutine.call (DatasetCall.getRuntime runtimeKey) with
  | .runtime r => pure r
  | .other typeName => Coroutine.raise ⟨.typeError,
      "the dataset runtime ContextKey must provide " ++ "a CogneeRuntime, got " ++ typeName⟩

/-- The handler of the documents of a declared dataset. -/
def childFor (action : DatasetAction) (spec : CogneeDatasetSpec) (r : ρ) (handle : DatasetHandle) :
    Except PyError (ChildTargetDef ρ) :=
  match action.processingFingerprint with
  | none => .error ⟨.runtimeError,
      "invariant violation: live dataset action without processing fingerprint"⟩
  | some processingFingerprint => .ok ⟨r,
      { runtimeKey := action.key.runtimeKey, handle, profile := spec.profile,
        processingFingerprint }⟩

/-- Applying one action. -/
def applyDatasetAction (action : DatasetAction) : DatasetProgram ρ (Option (ChildTargetDef ρ)) :=
  match action.spec, action.mainAction with
  -- No work, and no need for the runtime to be still bound.
  | none, none => pure none
  | none, some mainAction => do
    let r ← boundRuntime action.key.runtimeKey
    if mainAction = .delete then onRuntime r (tearDown action.key.datasetName action.key.tenant)
    pure none
  | some spec, _ => do
    let r ← boundRuntime action.key.runtimeKey
    let handle ← Coroutine.call
      (DatasetCall.runtime r (.resolveDataset action.key.datasetName action.key.tenant))
    return some (← Coroutine.ofExcept (childFor action spec r handle))

/-- Applying the actions of a batch, in their order. -/
def applyDatasetActions (actions : List DatasetAction) :
    DatasetProgram ρ (List (Option (ChildTargetDef ρ))) :=
  actions.mapM applyDatasetAction

/-! ## What is recorded -/

/-- A call of a runtime and its response. -/
abbrev RuntimeRecord : Type := Event RuntimeCall RuntimeCall.Response PyError

/-- A call of the sink and its response. -/
abbrev DatasetRecord (ρ : Type) : Type := Event (DatasetCall ρ) DatasetCall.Response PyError

/-- A record of a runtime. -/
def recordOn (r : ρ) (x : RuntimeRecord) : DatasetRecord ρ := ⟨.runtime r x.call, x.response⟩

/-- The records of a teardown: it fails before the lock is held, or it is made
    once, while the lock is held. -/
inductive TearDownRun (name tenant : String) : Except PyError Unit → List RuntimeRecord → Prop
  | unresolved (e : PyError) : TearDownRun name tenant (.error e)
    [⟨.resolveDataset name tenant, .error e⟩]
  | refused (handle : DatasetHandle) (e : PyError) : TearDownRun name tenant (.error e)
    [⟨.resolveDataset name tenant, .ok handle⟩, ⟨.lockEnter handle, .error e⟩]
  | held (handle : DatasetHandle) (outcome released : Except PyError Unit) :
    TearDownRun name tenant (released >>= fun _ => outcome)
      [⟨.resolveDataset name tenant, .ok handle⟩, ⟨.lockEnter handle, .ok ()⟩,
        ⟨.teardownDataset handle, outcome⟩, ⟨.lockExit handle, released⟩]

/-- The records of an action. -/
inductive ActionRun (action : DatasetAction) :
    Except PyError (Option (ChildTargetDef ρ)) → List (DatasetRecord ρ) → Prop
  | skipped (hspec : action.spec = none) (hmain : action.mainAction = none) :
    ActionRun action (.ok none) []
  | unbound (hwork : action.spec = none → action.mainAction ≠ none) (e : PyError)
    (response : Except PyError (ContextValue ρ)) :
    ActionRun action (.error e) [⟨.getRuntime action.key.runtimeKey, response⟩]
  | kept (hspec : action.spec = none) {mainAction : DiffAction}
    (hmain : action.mainAction = some mainAction) (hne : mainAction ≠ .delete) (r : ρ) :
    ActionRun action (.ok none) [⟨.getRuntime action.key.runtimeKey, .ok (.runtime r)⟩]
  | tornDown (hspec : action.spec = none) (hmain : action.mainAction = some .delete) (r : ρ)
    {outcome : Except PyError Unit} {events : List RuntimeRecord}
    (h : TearDownRun action.key.datasetName action.key.tenant outcome events) :
    ActionRun action (outcome.map fun _ => none)
      (⟨.getRuntime action.key.runtimeKey, .ok (.runtime r)⟩ :: events.map (recordOn r))
  | resolved {spec : CogneeDatasetSpec} (hspec : action.spec = some spec) (r : ρ)
    (response : Except PyError DatasetHandle) :
    ActionRun action ((response >>= childFor action spec r).map some)
      [⟨.getRuntime action.key.runtimeKey, .ok (.runtime r)⟩,
        ⟨.runtime r (.resolveDataset action.key.datasetName action.key.tenant), response⟩]

section Wp

variable {α : Type} {log : List (DatasetRecord ρ)} {r : ρ}
  {E : PyError → List (DatasetRecord ρ) → Prop}

/-- What is recorded of a coroutine over the calls of one runtime. -/
theorem wp_onRuntime {p : Program α} {Q : α → List (DatasetRecord ρ) → Prop}
    (h : wp Records p (fun a events => Q a (log ++ events.map (recordOn r)))
      (fun e events => E e (log ++ events.map (recordOn r))) []) :
    wp Records (onRuntime r p) Q E log := by
  -- By induction on the coroutine, after whatever it has done.
  suffices hafter : ∀ events, wp Records p
      (fun a events => Q a (log ++ events.map (recordOn r)))
      (fun e events => E e (log ++ events.map (recordOn r))) events →
      wp Records (onRuntime r p) Q E (log ++ events.map (recordOn r)) by
    have hnil := hafter [] h
    rwa [List.map_nil, List.append_nil] at hnil
  clear h
  induction p with
  | ret a => exact fun _ h => h
  | raise e => exact fun _ h => h
  | await c k ih =>
    rintro events h response _ rfl
    have hnext := ih response _ (h response _ rfl)
    rwa [List.map_append, ← List.append_assoc] at hnext

theorem wp_tearDown (name tenant : String) :
    wp Records (tearDown name tenant) (fun _ log => TearDownRun name tenant (.ok ()) log)
      (fun e log => TearDownRun name tenant (.error e) log) [] := by
  rw [tearDown, wp_bind]
  refine wp_records_call (fun handle => ?_) .unresolved
  rw [withLock, wp_bind]
  refine wp_records_call (fun _ => ?_) (.refused handle)
  rw [wp_finally]
  refine wp_records_call (fun _ => ?_) fun e => ?_
  · exact wp_records_call (fun _ => .held handle (.ok ()) (.ok ()))
      fun e => .held handle (.ok ()) (.error e)
  · exact wp_records_call (fun _ => .held handle (.error e) (.ok ()))
      fun e' => .held handle (.error e) (.error e')

theorem wp_boundRuntime {runtimeKey : String} {Q : ρ → List (DatasetRecord ρ) → Prop}
    (hok : ∀ r, Q r (log ++ [⟨.getRuntime runtimeKey, .ok (.runtime r)⟩]))
    (herr : ∀ e response, E e (log ++ [⟨.getRuntime runtimeKey, response⟩])) :
    wp Records (boundRuntime runtimeKey) Q E log := by
  rw [boundRuntime, wp_bind]
  refine wp_records_call (fun v => ?_) fun e => herr e _
  cases v with
  | runtime r => exact hok r
  | other typeName => exact herr _ _

/-- What is recorded of an action. -/
theorem wp_applyDatasetAction (action : DatasetAction) (log : List (DatasetRecord ρ)) :
    wp Records (applyDatasetAction action)
      (fun child log' => ∃ events, log' = log ++ events ∧ ActionRun action (.ok child) events)
      (fun e log' => ∃ events, log' = log ++ events ∧ ActionRun action (.error e) events) log := by
  unfold applyDatasetAction
  split
  next hspec hmain => exact ⟨[], (List.append_nil _).symm, .skipped hspec hmain⟩
  next mainAction hspec hmain =>
    rw [wp_bind]
    refine wp_boundRuntime (fun r => ?_) fun e response =>
      ⟨_, rfl, .unbound (fun _ => hmain ▸ nofun) e response⟩
    -- Without a declaration, only a delete does something.
    by_cases hdelete : mainAction = .delete
    · subst hdelete
      rw [if_pos rfl, wp_bind]
      refine wp_onRuntime (wp_mono (wp_tearDown _ _) (fun _ events h => ?_) fun e events h => ?_)
      · exact ⟨_, List.append_assoc _ _ _, .tornDown hspec hmain r h⟩
      · exact ⟨_, List.append_assoc _ _ _, .tornDown hspec hmain r h⟩
    · rw [if_neg hdelete]
      exact ⟨_, rfl, .kept hspec hmain hdelete r⟩
  next spec _ hspec =>
    rw [wp_bind]
    refine wp_boundRuntime (fun r => ?_) fun e response =>
      ⟨_, rfl, .unbound (fun hnone => by rw [hspec] at hnone; cases hnone) e response⟩
    rw [wp_bind]
    refine wp_records_call (fun handle => ?_) fun e =>
      ⟨_, List.append_assoc _ _ _, .resolved hspec r (.error e)⟩
    rw [wp_bind, wp_ofExcept]
    refine ⟨fun child hchild => ?_, fun e he => ?_⟩
    · have hrun := ActionRun.resolved hspec r (.ok handle)
      rw [ok_bind, hchild] at hrun
      exact ⟨_, List.append_assoc _ _ _, hrun⟩
    · have hrun := ActionRun.resolved hspec r (.ok handle)
      rw [ok_bind, he] at hrun
      exact ⟨_, List.append_assoc _ _ _, hrun⟩

/-- What is recorded of a batch: its actions, one after the other, until one fails. -/
theorem eachRun_of_runs {actions : List DatasetAction}
    {outcome : Except PyError (List (Option (ChildTargetDef ρ)))}
    (hrun : Runs Records (applyDatasetActions actions) [] (ofExcept outcome) log) :
    EachRun ActionRun actions outcome log := by
  have hwp := wp_records_mapM wp_applyDatasetAction actions ([] : List (DatasetRecord ρ))
  have hend := wp_records hwp hrun
  cases outcome with
  | ok children =>
    obtain ⟨events, rfl, h⟩ := hend
    exact h
  | error e =>
    obtain ⟨events, rfl, h⟩ := hend
    exact h

end Wp

end

end Cogindex
