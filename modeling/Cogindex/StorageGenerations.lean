import Cogindex.LocalRuntime

/-!
# Storage generations

The storage roots of Cognee belong to the process, not to an instance. So the
live instances of `LocalCogneeRuntime` must agree on them, and the first one of
a *generation* configures them: the module keeps the live instances in a weak
set, and makes a new default lock provider for each generation, which all
instances without a provider of their own share.

Instances are constructed and garbage collected in any order, and code outside
the connector may change the roots at any time (`StorageEvent`).

* `construct_cases`: what a construction does, by how it ends;
* `Generation`: the invariant of a generation, kept by every event;
* `storage_generations_coherent`: the live instances of any run.
-/

namespace Cogindex

section

variable [Platform]

/-! ## Instances -/

/-- The data root and the system root, normalized. -/
abbrev StorageRoots : Type := String × String

/-- The effective roots of Cognee, as far as they can be read. -/
abbrev EffectiveRoots : Type := Option String × Option String

/-- The roots of an instance. -/
def LocalCogneeRuntime.storageRoots (rt : LocalCogneeRuntime) : StorageRoots :=
  (rt.dataRoot, rt.systemRoot)

/-- A lock provider, as an object: the default one of a generation, or one that
    a caller made. -/
inductive LockProviderObject
  | default (generation : ℕ)
  | explicit (object : ℕ)

/-- An instance that was constructed and not collected. -/
structure LiveRuntime extends LocalCogneeRuntime where
  /-- The identity of the object. -/
  object : ℕ
  lockProvider : LockProviderObject
  /-- It was constructed with a provider. -/
  hasOwnProvider : Bool

/-- The state of the module, and Cognee's configuration. -/
structure StorageState where
  /-- `_LIVE_LOCAL_RUNTIMES`. -/
  live : List LiveRuntime
  /-- `_DEFAULT_LOCAL_LOCK_PROVIDER`. -/
  defaultLockProvider : LockProviderObject
  effectiveRoots : EffectiveRoots
  /-- What `configure_storage` was called with, the last call last. -/
  configured : List StorageRoots
  /-- The number of generations so far. -/
  generations : ℕ
  /-- The number of instances so far. -/
  objects : ℕ

/-- The module was just imported. -/
def StorageState.initial (effectiveRoots : EffectiveRoots) : StorageState where
  live := []
  defaultLockProvider := .default 0
  effectiveRoots := effectiveRoots
  configured := []
  generations := 0
  objects := 0

/-! ## Constructions -/

/-- What a construction finds outside the connector. -/
structure Surroundings where
  /-- `str(Path(raw).expanduser().resolve())`. -/
  resolve : String → Except PyError String
  /-- `load()`, before and while the storage is configured. -/
  load : Except PyError Unit
  loadAgain : Except PyError Unit
  /-- The setters of Cognee's configuration. -/
  dataRootDirectory : String → EffectiveRoots → Except PyError Unit × EffectiveRoots
  systemRootDirectory : String → EffectiveRoots → Except PyError Unit × EffectiveRoots

/-- The arguments of a construction. -/
structure ConstructArgs where
  dataRoot : Option String
  systemRoot : Option String
  lockProvider : Option LockProviderObject
  user : Option SdkUser

/-- A root has to be non-blank and free of NUL. -/
def validateStorageRoot (label rawRoot : String) : Except PyError Unit :=
  if isBlank rawRoot then .error ⟨.valueError, label ++ " must not be empty or whitespace"⟩
  else if '\x00' ∈ rawRoot.toList then
    .error ⟨.valueError, label ++ " must not contain NUL characters"⟩
  else .ok ()

/-- Both roots, checked and then normalized. -/
def normalizeStorageRoots (resolve : String → Except PyError String) :
    Option String → Option String → Except PyError StorageRoots
  | some dataRoot, some systemRoot => do
    validateStorageRoot "data_root" dataRoot
    validateStorageRoot "system_root" systemRoot
    return (← resolve dataRoot, ← resolve systemRoot)
  | _, _ => .error ⟨.valueError, "data_root and system_root must both be explicitly supplied"⟩

/-- The roots of another live instance. -/
def storageConflict (roots conflicting : StorageRoots) : PyError :=
  let rootsRepr (r : StorageRoots) : String :=
    sequenceRepr "(" ")" [Platform.strRepr r.1, Platform.strRepr r.2]
  ⟨.runtimeError,
    "Cognee storage configuration is process-global; cannot create a LocalCogneeRuntime for " ++
      rootsRepr roots ++ " while another live runtime uses " ++ rootsRepr conflicting⟩

/-- A computation on the state of the module, which an error leaves as it is by then. -/
abbrev StorageM : Type → Type := EStateM PyError StorageState

/-- A call of a setter of Cognee's configuration. -/
def onCognee (setter : EffectiveRoots → Except PyError Unit × EffectiveRoots) : StorageM Unit := do
  let (outcome, roots) := setter (← get).effectiveRoots
  modify fun s => { s with effectiveRoots := roots }
  ofExcept outcome

/-- `configure_storage`. -/
def configureStorage (world : Surroundings) (dataRoot systemRoot : String) : StorageM Unit := do
  modify fun s => { s with configured := s.configured ++ [(dataRoot, systemRoot)] }
  ofExcept world.loadAgain
  onCognee (world.dataRootDirectory dataRoot)
  onCognee (world.systemRootDirectory systemRoot)

/-- `_DEFAULT_LOCAL_LOCK_PROVIDER = InProcessLockProvider()`. -/
def StorageState.nextGeneration (s : StorageState) : StorageState :=
  { s with defaultLockProvider := .default (s.generations + 1), generations := s.generations + 1 }

/-- The instance that a construction makes. -/
def StorageState.newRuntime (s : StorageState) (args : ConstructArgs) (roots : StorageRoots) :
    LiveRuntime where
  dataRoot := roots.1
  systemRoot := roots.2
  user := args.user
  object := s.objects
  lockProvider := args.lockProvider.getD s.defaultLockProvider
  hasOwnProvider := args.lockProvider.isSome

/-- `_LIVE_LOCAL_RUNTIMES.add(self)`. -/
def StorageState.register (s : StorageState) (rt : LiveRuntime) : StorageState :=
  { s with live := s.live ++ [rt], objects := s.objects + 1 }

/-- `LocalCogneeRuntime.__init__`. -/
def construct (world : Surroundings) (args : ConstructArgs) : StorageM LiveRuntime := do
  let roots ← ofExcept (normalizeStorageRoots world.resolve args.dataRoot args.systemRoot)
  ofExcept world.load
  let liveRuntimes := (← get).live
  match liveRuntimes.find? fun rt => rt.storageRoots ≠ roots with
  | some conflict => throw (storageConflict roots conflict.storageRoots)
  | none =>
    -- A live instance must still see a change of the roots from outside.
    if liveRuntimes.isEmpty then
      configureStorage world roots.1 roots.2
      modify StorageState.nextGeneration
    let rt := (← get).newRuntime args roots
    modify fun s => s.register rt
    return rt

/-! ## Events -/

/-- What may happen in the process. -/
inductive StorageEvent
  | construct (world : Surroundings) (args : ConstructArgs)
  /-- An instance is garbage collected. -/
  | collect (object : ℕ)
  /-- Other code changes the roots. -/
  | mutate (roots : EffectiveRoots)

namespace StorageState

/-- The state that a construction leaves, whether it raises or not. -/
def leftBy : EStateM.Result PyError StorageState LiveRuntime → StorageState
  | .ok _ s => s
  | .error _ s => s

/-- The state after an event. -/
def step (s : StorageState) : StorageEvent → StorageState
  | .construct world args => leftBy ((Cogindex.construct world args).run s)
  | .collect object => { s with live := s.live.filter fun rt => rt.object ≠ object }
  | .mutate roots => { s with effectiveRoots := roots }

/-- The state after a sequence of events. -/
def run (s : StorageState) (events : List StorageEvent) : StorageState := events.foldl step s

end StorageState

/-! ## What a construction does -/

section Construct

variable {world : Surroundings} {args : ConstructArgs} {s : StorageState}

@[simp] theorem run_ofExcept_ok {α : Type} (a : α) :
    (ofExcept (.ok a) : StorageM α).run s = .ok a s := rfl

@[simp] theorem run_ofExcept_error {α : Type} (e : PyError) :
    (ofExcept (.error e) : StorageM α).run s = .error e s := rfl

/-- How a construction ends, by the state that it leaves. -/
inductive Constructed (args : ConstructArgs) (s : StorageState) :
    EStateM.Result PyError StorageState LiveRuntime → Prop
  | rejected (e : PyError) : Constructed args s (.error e s)
  /-- The storage could not be configured. -/
  | notConfigured {e : PyError} {roots : StorageRoots} {effectiveRoots : EffectiveRoots}
    (hlive : s.live = []) : Constructed args s (.error e
      { s with configured := s.configured ++ [roots], effectiveRoots := effectiveRoots })
  /-- The first instance of a generation. -/
  | first {roots : StorageRoots} {effectiveRoots : EffectiveRoots} {s' : StorageState}
    (hlive : s.live = []) (hs' : s' = StorageState.nextGeneration
      { s with configured := s.configured ++ [roots], effectiveRoots := effectiveRoots }) :
    Constructed args s (.ok (s'.newRuntime args roots) (s'.register (s'.newRuntime args roots)))
  /-- An instance of a generation with live ones. -/
  | joined {roots : StorageRoots} (hlive : s.live ≠ [])
    (hroots : ∀ rt ∈ s.live, rt.storageRoots = roots) :
    Constructed args s (.ok (s.newRuntime args roots) (s.register (s.newRuntime args roots)))

theorem run_onCognee (setter : EffectiveRoots → Except PyError Unit × EffectiveRoots) :
    (onCognee setter).run s = match (setter s.effectiveRoots).1 with
      | .ok () => .ok () { s with effectiveRoots := (setter s.effectiveRoots).2 }
      | .error e => .error e { s with effectiveRoots := (setter s.effectiveRoots).2 } := by
  simp only [onCognee, EStateM.run_bind, EStateM.run_get]
  rcases setter s.effectiveRoots with ⟨_ | _, roots⟩ <;> simp

/-- Configuring the storage touches the configuration only, whether it succeeds or not. -/
theorem configureStorage_cases (world : Surroundings) (s : StorageState)
    (dataRoot systemRoot : String) :
    ∃ effectiveRoots, (configureStorage world dataRoot systemRoot).run s = .ok ()
        { s with configured := s.configured ++ [(dataRoot, systemRoot)],
                 effectiveRoots := effectiveRoots } ∨
      ∃ e, (configureStorage world dataRoot systemRoot).run s = .error e
        { s with configured := s.configured ++ [(dataRoot, systemRoot)],
                 effectiveRoots := effectiveRoots } := by
  simp only [configureStorage, EStateM.run_bind, EStateM.run_modify]
  cases world.loadAgain with
  | error e => exact ⟨s.effectiveRoots, .inr ⟨e, rfl⟩⟩
  | ok u =>
    simp only [run_ofExcept_ok, run_onCognee]
    cases h : (world.dataRootDirectory dataRoot s.effectiveRoots).1 with
    | error e => exact ⟨_, .inr ⟨e, rfl⟩⟩
    | ok u =>
      simp only
      cases h' : (world.systemRootDirectory systemRoot
        (world.dataRootDirectory dataRoot s.effectiveRoots).2).1 with
      | error e => exact ⟨_, .inr ⟨e, rfl⟩⟩
      | ok u => exact ⟨_, .inl rfl⟩

theorem construct_cases (world : Surroundings) (args : ConstructArgs) (s : StorageState) :
    Constructed args s ((construct world args).run s) := by
  simp only [construct, EStateM.run_bind]
  cases hroots : normalizeStorageRoots world.resolve args.dataRoot args.systemRoot with
  | error e => exact .rejected e
  | ok roots =>
    cases world.load with
    | error e => exact .rejected e
    | ok u =>
      simp only [run_ofExcept_ok, EStateM.run_get]
      cases hconflict : s.live.find? fun rt => rt.storageRoots ≠ roots with
      | some conflict => exact .rejected _
      | none =>
        have hagree : ∀ rt ∈ s.live, rt.storageRoots = roots := by
          simpa [List.find?_eq_none] using hconflict
        -- Only the first live runtime configures the storage.
        by_cases hlive : s.live = []
        · simp only [hlive, List.isEmpty_nil, if_true, EStateM.run_bind]
          obtain ⟨effectiveRoots, hok | ⟨e, herror⟩⟩ :=
            configureStorage_cases world s roots.1 roots.2
          · rw [hok]
            exact .first hlive rfl
          · rw [herror]
            exact .notConfigured hlive
        · have hne : s.live.isEmpty = false := by simpa using hlive
          simp only [hne]
          exact .joined hlive hagree

/-- A construction with other roots than those of a live instance raises, and
    changes nothing. -/
theorem construct_conflict {roots : StorageRoots} {rt : LiveRuntime}
    (hroots : normalizeStorageRoots world.resolve args.dataRoot args.systemRoot = .ok roots)
    (hrt : rt ∈ s.live) (hne : rt.storageRoots ≠ roots) :
    ∃ e, (construct world args).run s = .error e s := by
  have hconflict : ∃ conflict, (s.live.find? fun rt => rt.storageRoots ≠ roots) = some conflict :=
    Option.isSome_iff_exists.1 (List.find?_isSome.2 ⟨rt, hrt, by simpa using hne⟩)
  obtain ⟨conflict, hconflict⟩ := hconflict
  simp only [construct, EStateM.run_bind, hroots, run_ofExcept_ok]
  cases world.load with
  | error e => exact ⟨e, rfl⟩
  | ok u =>
    simp only [run_ofExcept_ok, EStateM.run_get, hconflict]
    exact ⟨_, rfl⟩

end Construct

/-! ## Generations -/

/-- The live instances have the roots that were configured last, and share the
    default lock provider unless they have one of their own. -/
structure Generation (s : StorageState) : Prop where
  configured : ∀ rt ∈ s.live, s.configured.getLast? = some rt.storageRoots
  shared : ∀ rt ∈ s.live, rt.hasOwnProvider = false → rt.lockProvider = s.defaultLockProvider

namespace Generation

variable {s : StorageState} {args : ConstructArgs}

/-- A state without instances. -/
theorem of_live_eq_nil (h : s.live = []) : Generation s := by
  constructor <;> simp [h]

/-- An instance with the configured roots, as a construction makes it. -/
theorem register (h : Generation s) {roots : StorageRoots}
    (hroots : s.configured.getLast? = some roots) :
    Generation (s.register (s.newRuntime args roots)) where
  configured := List.forall_mem_append.2 ⟨h.configured, List.forall_mem_singleton.2 hroots⟩
  shared := List.forall_mem_append.2 ⟨h.shared, List.forall_mem_singleton.2 fun hown => by
    have hnone : args.lockProvider = none := by simpa [StorageState.newRuntime] using hown
    rw [StorageState.newRuntime, hnone]
    rfl⟩

theorem constructed (h : Generation s) {r : EStateM.Result PyError StorageState LiveRuntime}
    (hr : Constructed args s r) : Generation (.leftBy r) := by
  cases hr with
  | rejected e => exact h
  | notConfigured hlive => exact .of_live_eq_nil hlive
  | first hlive hs' =>
    refine (Generation.of_live_eq_nil ?_).register ?_
    · rw [hs']
      exact hlive
    · rw [hs']
      exact List.getLast?_concat
  | joined hlive hroots =>
    -- The roots of the new instance are those of a live one, which are configured.
    obtain ⟨rt, hrt⟩ := List.exists_mem_of_ne_nil _ hlive
    exact h.register (hroots rt hrt ▸ h.configured rt hrt)

theorem step (h : Generation s) (event : StorageEvent) : Generation (s.step event) := by
  cases event with
  | construct world args => exact h.constructed (construct_cases world args s)
  | collect object =>
    exact ⟨fun rt hrt => h.configured rt (List.mem_of_mem_filter hrt),
      fun rt hrt => h.shared rt (List.mem_of_mem_filter hrt)⟩
  | mutate roots => exact ⟨h.configured, h.shared⟩

theorem run (h : Generation s) (events : List StorageEvent) : Generation (s.run events) := by
  induction events generalizing s with
  | nil => exact h
  | cons event events ih => exact ih (h.step event)

end Generation

/-! ## Changes from outside -/

/-- The effective roots after an event that does not configure the storage. -/
def StorageEvent.mutated (roots : EffectiveRoots) : StorageEvent → EffectiveRoots
  | .mutate roots' => roots'
  | _ => roots

/-- A construction while an instance is live. -/
theorem Constructed.of_live {s : StorageState} {args : ConstructArgs}
    {r : EStateM.Result PyError StorageState LiveRuntime} (hr : Constructed args s r)
    (hlive : s.live ≠ []) : (StorageState.leftBy r).configured = s.configured ∧
      (StorageState.leftBy r).effectiveRoots = s.effectiveRoots := by
  cases hr with
  | rejected e => exact ⟨rfl, rfl⟩
  | notConfigured hnil => exact absurd hnil hlive
  | first hnil => exact absurd hnil hlive
  | joined => exact ⟨rfl, rfl⟩

/-- While an instance is live, the storage is not configured, and only other
    code changes the roots. -/
theorem step_of_live {s : StorageState} (hlive : s.live ≠ []) (event : StorageEvent) :
    (s.step event).configured = s.configured ∧
      (s.step event).effectiveRoots = event.mutated s.effectiveRoots := by
  cases event with
  | construct world args => exact (construct_cases world args s).of_live hlive
  | collect object => exact ⟨rfl, rfl⟩
  | mutate roots => exact ⟨rfl, rfl⟩

/-- An instance is live before each of the events. -/
def AlwaysLive : StorageState → List StorageEvent → Prop
  | _, [] => True
  | s, event :: events => s.live ≠ [] ∧ AlwaysLive (s.step event) events

theorem run_of_alwaysLive {s : StorageState} {events : List StorageEvent}
    (h : AlwaysLive s events) : (s.run events).configured = s.configured ∧
      (s.run events).effectiveRoots = events.foldl (fun roots event => event.mutated roots)
        s.effectiveRoots := by
  induction events generalizing s with
  | nil => exact ⟨rfl, rfl⟩
  | cons event events ih =>
    obtain ⟨hlive, h⟩ := h
    obtain ⟨hconfigured, hroots⟩ := step_of_live hlive event
    obtain ⟨ihconfigured, ihroots⟩ := ih h
    rw [hconfigured] at ihconfigured
    rw [hroots] at ihroots
    exact ⟨ihconfigured, ihroots⟩

/-- The check that an instance makes before an operation raises exactly when
    the roots are not its own. -/
theorem assertStorageRoots_eq (rt : LocalCogneeRuntime) :
    ∃ k, rt.assertStorageRoots = .await .storageRoots k ∧ ∀ roots : EffectiveRoots,
      (∃ e, k (.ok roots) = .raise e) ↔ roots ≠ (some rt.dataRoot, some rt.systemRoot) := by
  refine ⟨_, rfl, fun roots => ?_⟩
  by_cases hroots : roots = (some rt.dataRoot, some rt.systemRoot)
  · simp [Coroutine.bind, hroots]
  · simp [Coroutine.bind, hroots]

/-! ## Runs -/

/-- Storage generations are coherent in every run. -/
theorem storage_generations_coherent (roots : EffectiveRoots) (events : List StorageEvent) :
    let s := (StorageState.initial roots).run events
    -- The live instances have the roots that were configured last.
    (∀ rt ∈ s.live, s.configured.getLast? = some rt.storageRoots ∧
      ∀ rt' ∈ s.live, rt'.storageRoots = rt.storageRoots) ∧
    -- Those without a lock provider of their own share one.
    (∀ rt ∈ s.live, ∀ rt' ∈ s.live, rt.hasOwnProvider = false → rt'.hasOwnProvider = false →
      rt.lockProvider = rt'.lockProvider) ∧
    -- Other roots are rejected while an instance is live.
    (∀ world args roots', normalizeStorageRoots world.resolve args.dataRoot args.systemRoot =
      .ok roots' → (∃ rt ∈ s.live, rt.storageRoots ≠ roots') →
        ∃ e, (construct world args).run s = .error e s) ∧
    -- The roots are configured only when no instance is live.
    (∀ event, (s.step event).configured ≠ s.configured → s.live = []) ∧
    ∀ events', AlwaysLive s events' → (s.run events').configured = s.configured ∧
      (s.run events').effectiveRoots =
        events'.foldl (fun roots event => event.mutated roots) s.effectiveRoots := by
  intro s
  have hs : Generation s := (Generation.of_live_eq_nil rfl).run events
  refine ⟨fun rt hrt => ⟨hs.configured rt hrt, fun rt' hrt' => ?_⟩,
    fun rt hrt rt' hrt' hown hown' => ?_, fun world args roots' hroots hconflict => ?_,
    fun event hconfigured => ?_, fun events' => run_of_alwaysLive⟩
  · exact Option.some.inj ((hs.configured rt' hrt').symm.trans (hs.configured rt hrt))
  · exact (hs.shared rt hrt hown).trans (hs.shared rt' hrt' hown').symm
  · obtain ⟨rt, hrt, hne⟩ := hconflict
    exact construct_conflict hroots hrt hne
  · by_contra hlive
    exact hconfigured (step_of_live hlive event).1

end

end Cogindex
