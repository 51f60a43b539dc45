import Cogindex.Locks
import Cogindex.StorageGenerations

/-!
# The locks of a process

`dataset_lock` of an instance is a lock of its lock provider, and the provider
is one for all instances of a storage generation that have none of their own.
So the datasets of a process are locked across its instances, although these
come and go, and the next generation starts with a new provider.

The model has the tasks of a process, each with the instance that it refers to
and the lock that it was handed out, the state of the module (`StorageState`),
and a provider for each generation. An instance that no task refers to may be
collected at any time. A lock refers to its provider only: it does not keep the
instance alive, and a task has to do so itself (`ProcessState.Kept`).

* `ProcessState.Step`: instances and the locks of their providers, together;
* `ProcessState.Guarded`: the locks that are in use are those of the current
  generation, in runs in which tasks keep their instances;
* `one_holder_per_process`: mutual exclusion across instances and generations;
* `two_holders_without_instance`: a task that drops its instance while it is
  inside loses it.
-/

namespace Cogindex

open Function Relation

section

variable [Platform]

/-- The module, the default lock provider of each generation, and the tasks. -/
structure ProcessState (ι : Type) where
  storage : StorageState
  /-- The value of `_DEFAULT_LOCAL_LOCK_PROVIDER` in a generation. -/
  providers : ℕ → InProcessLockProvider
  /-- The instance that a task refers to. -/
  uses : ι → Option LiveRuntime
  /-- The lock that a task was handed out: the generation of its provider, and its scope. -/
  context : ι → Option (ℕ × String)
  phase : ι → LockPhase

/-- A construction while an instance is live makes no lock provider. -/
theorem Constructed.generations_of_live {s : StorageState} {args : ConstructArgs}
    {r : EStateM.Result PyError StorageState LiveRuntime} (hr : Constructed args s r)
    (hlive : s.live ≠ []) : (StorageState.leftBy r).generations = s.generations := by
  cases hr with
  | rejected | joined => rfl
  | notConfigured hnil | first hnil => exact absurd hnil hlive

variable {ι : Type} [Fintype ι] [DecidableEq ι]

namespace ProcessState

/-- The module was just imported. -/
def initial (ι : Type) (effectiveRoots : EffectiveRoots) : ProcessState ι where
  storage := .initial effectiveRoots
  providers _ := {}
  uses _ := none
  context _ := none
  phase _ := .outside

/-- The default lock provider that instances are made with. -/
def provider (s : ProcessState ι) : InProcessLockProvider := s.providers s.storage.generations

/-! ## Steps -/

/-- What may happen in the process. -/
inductive Step : ProcessState ι → ProcessState ι → Prop
  | construct {s : ProcessState ι} (world : Surroundings) (args : ConstructArgs) :
    Step s { s with storage := s.storage.step (.construct world args) }
  /-- An instance that no task refers to is garbage collected, whatever locks
      of its provider are in use. -/
  | collect {s : ProcessState ι} {object : ℕ}
    (hunused : ∀ i rt, s.uses i = some rt → rt.object ≠ object) :
    Step s { s with storage := s.storage.step (.collect object) }
  /-- Other code changes the roots. -/
  | mutate {s : ProcessState ι} (roots : EffectiveRoots) :
    Step s { s with storage := s.storage.step (.mutate roots) }
  /-- A task gets an instance without a lock provider of its own. -/
  | take {s : ProcessState ι} {i : ι} {rt : LiveRuntime} (hrt : rt ∈ s.storage.live)
    (hown : rt.hasOwnProvider = false) : Step s { s with uses := update s.uses i (some rt) }
  /-- A task no longer refers to an instance, inside a lock or not. -/
  | drop {s : ProcessState ι} (i : ι) : Step s { s with uses := update s.uses i none }
  /-- `dataset_lock` of the instance that a task has. -/
  | datasetLock {s : ProcessState ι} {i : ι} {rt : LiveRuntime} {generation : ℕ}
    (handle : DatasetHandle) (hi : s.uses i = some rt)
    (hprovider : rt.lockProvider = .default generation) (hcontext : s.context i = none) :
    Step s { s with
      context := update s.context i (some (generation, LocalCogneeRuntime.lockScope handle)) }
  /-- A task enters or leaves the lock that it was handed out, or waits no longer. -/
  | lock {s : ProcessState ι} {i : ι} {generation : ℕ} {scope : String}
    {provider : InProcessLockProvider} {phase : ι → LockPhase}
    (hi : s.context i = some (generation, scope))
    (h : LockStep i scope (s.providers generation, s.phase) (provider, phase)) :
    Step s { s with providers := update s.providers generation provider, phase := phase }
  /-- A task is done with a lock. -/
  | discard {s : ProcessState ι} {i : ι} (hi : s.phase i = .outside) :
    Step s { s with context := update s.context i none }

/-- As long as a task has a lock at hand, it refers to an instance. -/
def Kept (s : ProcessState ι) : Prop := ∀ i, s.context i ≠ none → s.uses i ≠ none

/-- A step after which the tasks still refer to the instances of their locks. -/
def KeptStep (s t : ProcessState ι) : Prop := Step s t ∧ t.Kept

omit [Fintype ι] in
/-- While an instance is live, neither is the storage configured nor a lock provider made. -/
theorem Step.of_live {s t : ProcessState ι} (hs : Step s t) (hlive : s.storage.live ≠ []) :
    t.storage.generations = s.storage.generations ∧
      t.storage.configured = s.storage.configured := by
  cases hs with
  | construct world args =>
    exact ⟨(construct_cases world args s.storage).generations_of_live hlive,
      (step_of_live hlive (.construct world args)).1⟩
  | collect | mutate | take | drop | datasetLock | lock | discard => exact ⟨rfl, rfl⟩

/-! ## The invariant -/

/-- Tasks have instances and locks of the current generation, and its lock
    provider knows all of them that wait or are inside. -/
structure Guarded (s : ProcessState ι) : Prop where
  generation : Generation s.storage
  current : s.storage.defaultLockProvider = .default s.storage.generations
  /-- The instance of a task is live, and has the default lock provider. -/
  uses : ∀ i rt, s.uses i = some rt → rt ∈ s.storage.live ∧ rt.hasOwnProvider = false
  kept : s.Kept
  /-- The lock of a task is one of the current generation. -/
  context : ∀ i g scope, s.context i = some (g, scope) → g = s.storage.generations
  /-- Only a task that was handed out a lock waits or is inside. -/
  idle : ∀ i, s.context i = none → s.phase i = .outside
  coherent : Coherent s.provider s.phase
  /-- The lock providers of other generations have no entries. -/
  unused : ∀ g, g ≠ s.storage.generations → (s.providers g).locks = ∅
  fresh : ∀ g, s.storage.generations < g → s.providers g = {}

namespace Guarded

variable {s t : ProcessState ι}

omit [DecidableEq ι] in
theorem start (effectiveRoots : EffectiveRoots) : Guarded (.initial ι effectiveRoots) where
  generation := .of_live_eq_nil rfl
  current := rfl
  uses i rt h := by cases h
  kept i h := absurd rfl h
  context i g scope h := by cases h
  idle i _ := rfl
  coherent := .start
  unused g _ := rfl
  fresh g _ := rfl

omit [DecidableEq ι] in
/-- The lock provider of an instance of a task is that of the current generation. -/
theorem lockProvider (h : Guarded s) {i : ι} {rt : LiveRuntime} (hi : s.uses i = some rt) :
    rt.lockProvider = .default s.storage.generations :=
  (h.generation.shared rt (h.uses i rt hi).1 (h.uses i rt hi).2).trans h.current

omit [DecidableEq ι] in
/-- A task that waits or is inside has an instance. -/
theorem exists_uses (h : Guarded s) {i : ι} (hi : s.phase i ≠ .outside) :
    ∃ rt, s.uses i = some rt :=
  Option.ne_none_iff_exists'.1 (h.kept i fun hnone => hi (h.idle i hnone))

omit [DecidableEq ι] in
/-- Without live instances, no task has a lock at hand. -/
theorem context_eq_none (h : Guarded s) (hlive : s.storage.live = []) (i : ι) :
    s.context i = none := by
  by_contra hcontext
  obtain ⟨rt, hrt⟩ := Option.ne_none_iff_exists'.1 (h.kept i hcontext)
  have hmem := (h.uses i rt hrt).1
  rw [hlive] at hmem
  exact absurd hmem List.not_mem_nil

omit [DecidableEq ι] in
/-- An event that neither makes a lock provider nor takes an instance from a task. -/
theorem of_storage (h : Guarded s) {storage : StorageState} (hgeneration : Generation storage)
    (hprovider : storage.defaultLockProvider = s.storage.defaultLockProvider)
    (hgenerations : storage.generations = s.storage.generations)
    (huses : ∀ i rt, s.uses i = some rt → rt ∈ storage.live) :
    Guarded { s with storage := storage } where
  generation := hgeneration
  current := by
    show storage.defaultLockProvider = .default storage.generations
    rw [hprovider, hgenerations]
    exact h.current
  uses i rt hi := ⟨huses i rt hi, (h.uses i rt hi).2⟩
  kept := h.kept
  context i g scope hi := (h.context i g scope hi).trans hgenerations.symm
  idle := h.idle
  coherent := by
    show Coherent (s.providers storage.generations) s.phase
    rw [hgenerations]
    exact h.coherent
  unused g hg := h.unused g (hgenerations ▸ hg)
  fresh g hg := h.fresh g (hgenerations ▸ hg)

omit [DecidableEq ι] in
/-- The next generation, which starts when no instance is live. -/
theorem next (h : Guarded s) (hlive : s.storage.live = []) {storage : StorageState}
    (hgeneration : Generation storage)
    (hprovider : storage.defaultLockProvider = .default (s.storage.generations + 1))
    (hgenerations : storage.generations = s.storage.generations + 1) :
    Guarded { s with storage := storage } := by
  have hcontext := h.context_eq_none hlive
  have houtside (i : ι) : s.phase i = .outside := h.idle i (hcontext i)
  refine ⟨hgeneration, hprovider.trans (by rw [hgenerations]), fun i rt hi => ?_, h.kept,
    fun i g scope hi => ?_, h.idle, ?_, fun g hg => ?_, fun g hg => h.fresh g ?_⟩
  · have hmem := (h.uses i rt hi).1
    rw [hlive] at hmem
    exact absurd hmem List.not_mem_nil
  · cases (hcontext i).symm.trans hi
  · -- All tasks are outside, which a provider without entries knows.
    have hphase : s.phase = fun _ => .outside := funext houtside
    show Coherent (s.providers storage.generations) s.phase
    rw [hgenerations, h.fresh _ (Nat.lt_succ_self _), hphase]
    exact .start
  · -- The provider of the last generation was left without entries.
    by_cases hlast : g = s.storage.generations
    · rw [hlast]
      exact h.coherent.locks_eq_empty houtside
    · exact h.unused g hlast
  · show s.storage.generations < g
    have hlt : storage.generations < g := hg
    omega

omit [DecidableEq ι] in
theorem construct (h : Guarded s) (world : Surroundings) (args : ConstructArgs) :
    Guarded { s with storage := s.storage.step (.construct world args) } := by
  have hgeneration := h.generation.step (.construct world args)
  simp only [StorageState.step] at hgeneration ⊢
  have hcases := construct_cases world args s.storage
  revert hcases hgeneration
  generalize (Cogindex.construct world args).run s.storage = result
  intro hgeneration hcases
  cases hcases with
  | rejected e => exact h
  | notConfigured hlive =>
    exact h.of_storage hgeneration rfl rfl fun i rt hi => (h.uses i rt hi).1
  | first hlive hs' =>
    subst hs'
    exact h.next hlive hgeneration rfl rfl
  | joined hlive hroots =>
    exact h.of_storage hgeneration rfl rfl fun i rt hi => List.mem_append_left _ (h.uses i rt hi).1

/-- A task that gets another instance, or none. -/
theorem replace (h : Guarded s) {i : ι} {rt : Option LiveRuntime}
    (hrt : ∀ rt' ∈ rt, rt' ∈ s.storage.live ∧ rt'.hasOwnProvider = false)
    (hkept : Kept { s with uses := update s.uses i rt }) :
    Guarded { s with uses := update s.uses i rt } := by
  refine ⟨h.generation, h.current, fun j rt' hj => ?_, hkept, h.context, h.idle, h.coherent,
    h.unused, h.fresh⟩
  by_cases hji : j = i
  · subst hji
    simp only [update_self] at hj
    exact hrt rt' hj
  · simp only [update_of_ne hji] at hj
    exact h.uses j rt' hj

/-- A task that is handed out a lock, or is done with one. -/
theorem hand (h : Guarded s) {i : ι} (hi : s.phase i = .outside) {context : Option (ℕ × String)}
    (hcontext : ∀ x ∈ context, x.1 = s.storage.generations)
    (hkept : Kept { s with context := update s.context i context }) :
    Guarded { s with context := update s.context i context } := by
  refine ⟨h.generation, h.current, h.uses, hkept, fun j g scope hj => ?_, fun j hj => ?_,
    h.coherent, h.unused, h.fresh⟩
  · by_cases hji : j = i
    · subst hji
      simp only [update_self] at hj
      exact hcontext (g, scope) hj
    · simp only [update_of_ne hji] at hj
      exact h.context j g scope hj
  · by_cases hji : j = i
    · rw [hji]
      exact hi
    · simp only [update_of_ne hji] at hj
      exact h.idle j hj

/-- A step of a task on its lock, with the lock provider of the current generation. -/
theorem lock (h : Guarded s) {i : ι} {scope : String} (hi : s.context i ≠ none)
    {provider : InProcessLockProvider} {phase : ι → LockPhase}
    (hs : LockStep i scope (s.provider, s.phase) (provider, phase)) :
    Guarded { s with providers := update s.providers s.storage.generations provider,
                     phase := phase } := by
  refine ⟨h.generation, h.current, h.uses, h.kept, h.context, fun j hj => ?_, ?_, fun g hg => ?_,
    fun g hg => ?_⟩
  · -- The task that went on is not one of those without a lock.
    have hji : j ≠ i := by
      rintro rfl
      exact hi hj
    rw [← h.idle j hj]
    exact hs.phase_of_ne hji
  · show Coherent (update s.providers s.storage.generations provider s.storage.generations) phase
    rw [update_self]
    exact hs.coherent h.coherent
  · show (update s.providers s.storage.generations provider g).locks = ∅
    rw [update_of_ne hg]
    exact h.unused g hg
  · show update s.providers s.storage.generations provider g = {}
    rw [update_of_ne (ne_of_gt hg)]
    exact h.fresh g hg

theorem step (h : Guarded s) (hs : KeptStep s t) : Guarded t := by
  obtain ⟨hs, hkept⟩ := hs
  cases hs with
  | construct world args => exact h.construct world args
  | collect hunused =>
    refine h.of_storage (h.generation.step _) rfl rfl fun i rt hi => ?_
    exact List.mem_filter.2 ⟨(h.uses i rt hi).1, by simpa using hunused i rt hi⟩
  | mutate roots =>
    exact h.of_storage (h.generation.step (.mutate roots)) rfl rfl fun i rt hi => (h.uses i rt hi).1
  | take hrt hown => exact h.replace (fun rt' hrt' => Option.some.inj hrt' ▸ ⟨hrt, hown⟩) hkept
  | drop i => exact h.replace (fun rt' hrt' => by cases hrt') hkept
  | datasetLock handle hi hprovider hcontext =>
    refine h.hand (h.idle _ hcontext) (fun x hx => ?_) hkept
    obtain rfl := Option.some.inj hx
    exact LockProviderObject.default.inj (hprovider.symm.trans (h.lockProvider hi))
  | lock hi hs =>
    obtain rfl := h.context _ _ _ hi
    exact h.lock (by simp [hi]) hs
  | discard hi => exact h.hand hi (fun x hx => by cases hx) hkept

theorem run {effectiveRoots : EffectiveRoots}
    (hrun : ReflTransGen KeptStep (.initial ι effectiveRoots) s) : Guarded s := by
  induction hrun with
  | refl => exact .start effectiveRoots
  | tail _ hs ih => exact ih.step hs

end Guarded

end ProcessState

/-! ## Runs -/

/-- The locks of the instances of a process exclude each other, in every run in
    which tasks refer to an instance as long as they have a lock at hand. -/
theorem one_holder_per_process {effectiveRoots : EffectiveRoots} {s : ProcessState ι}
    (hrun : ReflTransGen ProcessState.KeptStep (.initial ι effectiveRoots) s) :
    -- At most one task is inside the lock of a dataset, whichever instances they have.
    (∀ i j (scope : String) e e', s.phase i = .inside scope e → s.phase j = .inside scope e' →
      i = j) ∧
    -- The instances that tasks have are live, and have the storage roots configured last.
    (∀ i rt, s.uses i = some rt →
      rt ∈ s.storage.live ∧ s.storage.configured.getLast? = some rt.storageRoots) ∧
    -- While a task waits or is inside, its instance keeps the generation from ending,
    -- also in a step after which the task has dropped it.
    (∀ i, s.phase i ≠ .outside → (∃ rt, s.uses i = some rt) ∧ ∀ t, ProcessState.Step s t →
      t.storage.generations = s.storage.generations ∧
      t.storage.configured = s.storage.configured) ∧
    -- The lock providers of all generations have the entries that tasks use, and no others.
    (∀ g (scope : String), scope ∈ (s.providers g).locks ↔ g = s.storage.generations ∧
      ∃ i e, s.phase i = .waiting scope e ∨ s.phase i = .inside scope e) := by
  have h : s.Guarded := .run hrun
  refine ⟨fun i j scope e e' => h.coherent.inside_unique, fun i rt hi => ⟨(h.uses i rt hi).1,
    h.generation.configured rt (h.uses i rt hi).1⟩, fun i hi => ?_, fun g scope => ?_⟩
  · obtain ⟨rt, hrt⟩ := h.exists_uses hi
    exact ⟨⟨rt, hrt⟩, fun t hs => hs.of_live (List.ne_nil_of_mem (h.uses i rt hrt).1)⟩
  · by_cases hg : g = s.storage.generations
    · rw [hg]
      refine h.coherent.mem_locks_iff.trans ((and_iff_right rfl).trans ?_).symm
      simp only [LockPhase.ref_eq_some]
    · rw [h.unused g hg]
      simp [hg]

end

/-- Surroundings in which a construction succeeds. -/
def Surroundings.sample : Surroundings where
  resolve := .ok
  load := .ok ()
  loadAgain := .ok ()
  dataRootDirectory root roots := (.ok (), some root, roots.2)
  systemRootDirectory root roots := (.ok (), roots.1, some root)

/-- The roots, and nothing else. -/
def ConstructArgs.sample : @ConstructArgs .sample :=
  @ConstructArgs.mk .sample (some "/data") (some "/system") none none

/-- A handle of Alice on the sample platform. -/
def DatasetHandle.alice : @DatasetHandle .sample :=
  @DatasetHandle.mk .sample "docs" "default" "alice" none (by decide)

/-- An instance of a generation on the sample platform. -/
def LiveRuntime.sample (object generation : ℕ) : @LiveRuntime .sample :=
  letI : Platform := .sample
  ⟨⟨"/data", "/system", none⟩, object, .default generation, false⟩

/-- A task is inside, and another one waits for it, with another instance. -/
theorem one_holder_per_process_sample : letI : Platform := .sample
    ∃ (s : ProcessState Bool) (scope : String) (e : EntryId),
      ReflTransGen ProcessState.KeptStep (.initial Bool (none, none)) s ∧
      s.storage.live.length = 2 ∧ s.phase true = .inside scope e ∧
      s.phase false = .waiting scope e ∧ ∀ t, ProcessState.Step s t →
        t.storage.generations = 1 := by
  let _ : Platform := .sample
  have hscope : validateScope (LocalCogneeRuntime.lockScope DatasetHandle.alice) = .ok () := by
    decide
  let storage : StorageState :=
    ⟨[.sample 0 1, .sample 1 1], .default 1, (some "/data", some "/system"),
      [("/data", "/system")], 1, 2⟩
  have hstorage : ((StorageState.initial (none, none)).step (.construct .sample .sample)).step
      (.construct .sample .sample) = storage := rfl
  have hidle {s : ProcessState Bool} (hs : ∀ i, s.context i = none) : s.Kept := fun i hi =>
    absurd (hs i) hi
  have huses {s : ProcessState Bool} (hs : s.uses = update (update (fun _ => none) true
      (some (.sample 0 1))) false (some (.sample 1 1))) : s.Kept := by
    rintro (_ | _) - <;> simp [hs]
  have hconstructed : ReflTransGen ProcessState.KeptStep (.initial Bool (none, none))
      { ProcessState.initial Bool (none, none) with storage } := by
    rw [← hstorage]
    exact (ReflTransGen.single ⟨.construct .sample .sample, hidle fun _ => rfl⟩).tail
      ⟨.construct .sample .sample, hidle fun _ => rfl⟩
  have hfirst : .sample 0 1 ∈ storage.live := .head _
  have hsecond : .sample 1 1 ∈ storage.live := .tail _ (.head _)
  have htaken := (hconstructed.tail
    ⟨.take (i := true) hfirst rfl, hidle fun _ => rfl⟩).tail
    ⟨.take (i := false) hsecond rfl, hidle fun _ => rfl⟩
  have hhanded := (htaken.tail
    ⟨.datasetLock (i := true) .alice rfl rfl rfl, huses rfl⟩).tail
    ⟨.datasetLock (i := false) .alice rfl rfl rfl, huses rfl⟩
  have hinside := (hhanded.tail ⟨.lock (i := true) rfl (.enter hscope rfl), huses rfl⟩).tail
    ⟨.lock (i := true) rfl (.granted rfl rfl), huses rfl⟩
  have hrun := hinside.tail ⟨.lock (i := false) rfl (.enter hscope rfl), huses rfl⟩
  -- The task that waits has the entry of its scope.
  have hentry := (ProcessState.Guarded.run hrun).coherent.ref_unique (i := false) (j := true)
    rfl rfl
  exact ⟨_, _, _, hrun, rfl, rfl, congrArg _ hentry, fun t ht =>
    (((one_holder_per_process hrun).2.2.1 true (by simp)).2 t ht).1⟩

/-- A task that refers to no instance while it is inside does not keep the
    generation: with the provider of the next one, another task gets in. -/
theorem two_holders_without_instance : letI : Platform := .sample
    ∃ (s : ProcessState Bool) (scope : String) (e e' : EntryId),
      ReflTransGen ProcessState.Step (.initial Bool (none, none)) s ∧
      s.phase true = .inside scope e ∧ s.phase false = .inside scope e' := by
  let _ : Platform := .sample
  have hscope : validateScope (LocalCogneeRuntime.lockScope DatasetHandle.alice) = .ok () := by
    decide
  let storage (object generation : ℕ) : StorageState :=
    ⟨[.sample object generation], .default generation, (some "/data", some "/system"),
      List.replicate generation ("/data", "/system"), generation, object + 1⟩
  have hfirst : (StorageState.initial (none, none)).step (.construct .sample .sample) =
      storage 0 1 := rfl
  have hsecond : ((storage 0 1).step (.collect 0)).step (.construct .sample .sample) =
      storage 1 2 := rfl
  have hconstructed : ReflTransGen ProcessState.Step (.initial Bool (none, none))
      { ProcessState.initial Bool (none, none) with storage := storage 0 1 } := by
    rw [← hfirst]
    exact .single (.construct .sample .sample)
  have hinside := (((hconstructed.tail (.take (i := true) (.head _) rfl)).tail
    (.datasetLock (i := true) .alice rfl rfl rfl)).tail
    (.lock (i := true) rfl (.enter hscope rfl))).tail (.lock (i := true) rfl (.granted rfl rfl))
  -- The instance is dropped and collected, and the next one has another provider.
  have hunused : ∀ i rt, update (update (fun _ : Bool => none) true
      (some (LiveRuntime.sample 0 1))) true none i = some rt → rt.object ≠ 0 := by
    rintro (_ | _) rt h <;> cases h
  have hdropped := ((hinside.tail (.drop true)).tail (.collect hunused)).tail
    (.construct .sample .sample)
  have hsecond' : .sample 1 2 ∈ (((storage 0 1).step (.collect 0)).step
      (.construct .sample .sample)).live := hsecond ▸ .head _
  have hrun := ((((hdropped.tail (.take (i := false) hsecond' rfl)).tail
    (.datasetLock (i := false) .alice rfl rfl rfl)).tail
    (.lock (i := false) rfl (.enter hscope rfl))).tail (.lock (i := false) rfl (.granted rfl rfl)))
  exact ⟨_, _, _, _, hrun, rfl, rfl⟩

end Cogindex
