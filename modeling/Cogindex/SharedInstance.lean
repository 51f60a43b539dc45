import Cogindex.Library.Switching
import Cogindex.OneOwner

/-!
# One instance, many tasks

Any number of tasks use one instance of the in-process runtime at the same
time: an operation of one of them goes on while another one waits for Cognee,
and other code may change the storage roots of the process meanwhile.

* `one_owner_concurrently`: all of them act for one user, whose scope is pinned
  when the first of them asks for a dataset;
* `storage_roots_checked`: through a handle that knows its dataset, they reach
  Cognee only while the storage roots are those of the instance.
-/

namespace Cogindex

open Coroutine Function Relation

section

variable [Platform]

/-! ## The shared state -/

/-- The attributes of an instance that change, and the effective roots of the process. -/
structure InstanceState where
  resolvedIdentityScope : Option String
  setupDone : Bool
  roots : Option String × Option String

/-- The calls that are awaited: only there may other tasks run. -/
def LocalCall.Suspends : LocalCall → Prop
  | getIdentityScope => False
  | setIdentityScope _ => False
  | getSetupDone => False
  | setSetupDone => False
  | ensureLocalSdkMode => False
  | storageRoots => False
  | validateEmbeddingDimensions => False
  | _ => True

/-- The answers to the calls that are not awaited. -/
inductive InstanceStep :
    (c : LocalCall) → InstanceState → Except PyError c.Response → InstanceState → Prop
  | getIdentityScope {s : InstanceState} :
    InstanceStep .getIdentityScope s (.ok s.resolvedIdentityScope) s
  | setIdentityScope {s : InstanceState} (identityScope : String) :
    InstanceStep (.setIdentityScope identityScope) s (.ok ())
      { s with resolvedIdentityScope := some identityScope }
  | getSetupDone {s : InstanceState} : InstanceStep .getSetupDone s (.ok s.setupDone) s
  | setSetupDone {s : InstanceState} :
    InstanceStep .setSetupDone s (.ok ()) { s with setupDone := true }
  | ensureLocalSdkMode {s : InstanceState} (r : Except PyError Unit) :
    InstanceStep .ensureLocalSdkMode s r s
  | storageRoots {s : InstanceState} : InstanceStep .storageRoots s (.ok s.roots) s
  | validateEmbeddingDimensions {s : InstanceState} (r : Except PyError Unit) :
    InstanceStep .validateEmbeddingDimensions s r s

/-- A scope that is pinned stays so; the rest may change. -/
def StaysPinned (s t : InstanceState) : Prop :=
  ∀ sc, s.resolvedIdentityScope = some sc → t.resolvedIdentityScope = some sc

/-- The tasks of an instance, which rely on each other not to pin another scope. -/
def instanceTasks : Switching LocalCall LocalCall.Response PyError InstanceState where
  suspends := LocalCall.Suspends
  step := InstanceStep
  rely := StaysPinned
  refl _ _ h := h
  trans h h' sc hs := h' sc (h sc hs)

/-- Other code changes the roots of the process. -/
def RootsChange (s t : InstanceState) : Prop := ∃ roots, t = { s with roots := roots }

omit [Platform] in
theorem RootsChange.staysPinned {s t : InstanceState} (h : RootsChange s t) : StaysPinned s t := by
  obtain ⟨roots, rfl⟩ := h
  exact fun _ hs => hs

/-- The storage roots are those of the instance. -/
def InstanceState.OwnRoots (rt : LocalCogneeRuntime) (s : InstanceState) : Prop :=
  s.roots = (some rt.dataRoot, some rt.systemRoot)

/-- The calls that reach the storage of a dataset. -/
def LocalCall.OnStorage : LocalCall → Prop
  | cognify _ _ _ => True
  | forgetDataset _ _ => True
  | listData _ _ => True
  | enterDatabaseContext _ _ => True
  | _ => False

/-- The user is the one of the pinned scope. -/
def ActsPinned (u : SdkUser) (s : InstanceState) : Prop :=
  ∃ c, userCoordinates u = .ok c ∧ s.resolvedIdentityScope = some (identityScopeOf c)

/-- Where an operation may make a call that suspends it. -/
structure MadeFor (rt : LocalCogneeRuntime) (op : Operation) (c : LocalCall) (s : InstanceState) :
    Prop where
  acts : ∀ u, c.actsFor = some u → ActsPinned u s
  owned : ∀ u, c.actsFor = some u → ∀ handle ∈ op.handle?,
    s.resolvedIdentityScope = some handle.identityScope
  checked : c.OnStorage → ∀ handle ∈ op.handle?, handle.datasetId.isSome → s.OwnRoots rt

/-! ## Operations -/

section Bodies

open LocalCogneeRuntime

variable {rt : LocalCogneeRuntime} {op : Operation} {handle : DatasetHandle} {user : SdkUser}
  {c : LocalCall} {s t : InstanceState} {Q : Unit → InstanceState → Prop}
  {E : PyError → InstanceState → Prop}

/-- A call for no user, and of no dataset, may be made anywhere. -/
theorem safe_free {Q : c.Response → InstanceState → Prop} (hc : c.Suspends)
    (hfree : c.actsFor = none) (hstorage : ¬c.OnStorage) (hQ : ∀ v t, StaysPinned s t → Q v t)
    (hE : ∀ e t, StaysPinned s t → E e t) :
    Safe instanceTasks (MadeFor rt op) (sdk c) Q E s := by
  refine safe_suspend hc ⟨fun u hu => ?_, fun u hu => ?_, fun h => absurd h hstorage⟩ hQ hE
  all_goals
    rw [hfree] at hu
    cases hu

theorem safe_getIdentityScope {Q : Option String → InstanceState → Prop}
    (hQ : Q s.resolvedIdentityScope s) :
    Safe instanceTasks (MadeFor rt op) (sdk .getIdentityScope) Q E s := by
  refine safe_inner id (fun r t ht => ?_) (fun v t ht => ?_) fun e t ht => ?_
  · cases ht
    exact instanceTasks.refl s
  · cases ht
    exact hQ
  · cases ht

/-- A scope may be pinned where none is. -/
theorem safe_setIdentityScope {sc : String} (hs : s.resolvedIdentityScope = none)
    (hQ : Q () { s with resolvedIdentityScope := some sc }) :
    Safe instanceTasks (MadeFor rt op) (sdk (.setIdentityScope sc)) Q E s := by
  refine safe_inner id (fun r t ht => ?_) (fun v t ht => ?_) fun e t ht => ?_
  · cases ht
    intro sc' hsc'
    rw [hs] at hsc'
    cases hsc'
  · cases ht
    exact hQ
  · cases ht

/-- A check of the process changes nothing. -/
theorem safe_check {Q : c.Response → InstanceState → Prop}
    (hc : c = .ensureLocalSdkMode ∨ c = .validateEmbeddingDimensions) (hQ : ∀ v, Q v s)
    (hE : ∀ e, E e s) : Safe instanceTasks (MadeFor rt op) (sdk c) Q E s := by
  rcases hc with rfl | rfl
  all_goals
    refine safe_inner id (fun r t ht => ?_) (fun v t ht => ?_) fun e t ht => ?_
    · cases ht
      exact instanceTasks.refl s
    · cases ht
      exact hQ v
    · cases ht
      exact hE e

/-- Past the check of the roots, they are those of the instance. -/
theorem safe_assertStorageRoots (hQ : s.OwnRoots rt → Q () s) (hE : ∀ e, E e s) :
    Safe instanceTasks (MadeFor rt op) rt.assertStorageRoots Q E s := by
  rw [assertStorageRoots, safe_bind]
  refine safe_inner id (fun r t ht => ?_) (fun v t ht => ?_) fun e t ht => ?_
  · cases ht
    exact instanceTasks.refl s
  · cases ht
    exact safe_ite (fun _ => hE _) fun hroots => hQ (not_not.1 hroots)
  · cases ht

theorem safe_ensureReady : Safe instanceTasks (MadeFor rt op) rt.ensureReady
    (fun _ => StaysPinned s) (fun _ _ => True) s := by
  rw [ensureReady, safe_bind]
  refine safe_check (.inl rfl) (fun _ => ?_) fun _ => trivial
  rw [safe_bind]
  refine safe_assertStorageRoots (fun _ => ?_) fun _ => trivial
  rw [safe_bind]
  refine safe_inner id (fun r t ht => ?_) (fun v t ht => ?_) fun e t ht => ?_
  · cases ht
    exact instanceTasks.refl s
  · cases ht
    refine safe_ite (fun _ => ?_) fun _ => instanceTasks.refl s
    rw [safe_bind]
    refine safe_free trivial rfl id (fun _ t ht => ?_) fun _ _ _ => trivial
    refine safe_inner id (fun r u hu => ?_) (fun v u hu => ?_) fun e u hu => ?_
    · cases hu
      exact fun _ h => h
    · cases hu
      exact ht
    · cases hu
  · cases ht

/-- Only a handle of the pinned scope passes, while the roots are those of the instance. -/
theorem safe_validateHandle :
    Safe instanceTasks (MadeFor rt op) (rt.validateHandle handle)
      (fun _ t => t = s ∧ s.resolvedIdentityScope = some handle.identityScope ∧ s.OwnRoots rt)
      (fun _ _ => True) s := by
  rw [validateHandle, safe_bind, safe_ofExcept]
  refine ⟨fun _ _ => ?_, fun _ _ => trivial⟩
  rw [safe_bind, safe_ofExcept]
  refine ⟨fun _ _ => ?_, fun _ _ => trivial⟩
  rw [safe_bind]
  refine safe_getIdentityScope ?_
  cases hpin : s.resolvedIdentityScope with
  | none => trivial
  | some sc =>
    refine safe_ite (fun _ => trivial) fun hscope => ?_
    exact safe_assertStorageRoots (fun hroots => ⟨rfl, by rw [not_not.1 hscope], hroots⟩)
      fun _ => trivial

theorem safe_resolveActingUser :
    Safe instanceTasks (MadeFor rt op) rt.resolveActingUser
      (fun u t => StaysPinned s t ∧ ∃ c, userCoordinates u = .ok c) (fun _ _ => True) s := by
  have hcheck {u : SdkUser} {t : InstanceState} (ht : StaysPinned s t) :
      Safe instanceTasks (MadeFor rt op) (do
        let _ ← ofExcept (userCoordinates u)
        return u) (fun u t => StaysPinned s t ∧ ∃ c, userCoordinates u = .ok c)
        (fun _ _ => True) t := by
    rw [safe_bind, safe_ofExcept]
    exact ⟨fun c hc => ⟨ht, c, hc⟩, fun _ _ => trivial⟩
  rw [resolveActingUser]
  cases rt.user with
  | none =>
    exact safe_bind.2 (safe_free trivial rfl id (fun _ _ => hcheck) fun _ _ _ => trivial)
  | some configured =>
    rw [safe_bind, safe_ofExcept]
    refine ⟨fun c _ => ?_, fun _ _ => trivial⟩
    rw [safe_bind]
    refine safe_free trivial rfl id (fun u t ht => ?_) fun _ _ _ => trivial
    rw [safe_bind, safe_ofExcept]
    exact ⟨fun c' _ => safe_ite (fun _ => trivial) fun _ => hcheck ht, fun _ _ => trivial⟩

/-- Between reading the pinned scope and pinning one, no other task runs. -/
theorem safe_bindRuntimeScope {sc : String} (hQ : ∀ t, StaysPinned s t →
      t.resolvedIdentityScope = some sc → Q () t) :
    Safe instanceTasks (MadeFor rt op) (bindRuntimeScope sc) Q (fun _ _ => True) s := by
  rw [bindRuntimeScope, safe_bind]
  refine safe_getIdentityScope ?_
  cases hpin : s.resolvedIdentityScope with
  | none =>
    refine safe_setIdentityScope hpin (hQ _ (fun sc' hsc' => ?_) rfl)
    rw [hpin] at hsc'
    cases hsc'
  | some pinned =>
    refine safe_ite (fun _ => trivial) fun hscope => hQ s (instanceTasks.refl s) ?_
    rw [hpin, not_not.1 hscope]

/-- The user of an operation is the one of the pinned scope, and of the handle. -/
theorem safe_bindUser :
    Safe instanceTasks (MadeFor rt op) (rt.bindUser handle)
      (fun u t => StaysPinned s t ∧ ActsPinned u t ∧
        t.resolvedIdentityScope = some handle.identityScope) (fun _ _ => True) s := by
  rw [bindUser, safe_bind]
  refine safe_resolveActingUser.mono ?_ fun _ _ _ => trivial
  rintro u t ⟨ht, c, hc⟩
  rw [safe_bind, safe_ofExcept]
  refine ⟨fun sc hsc => ?_, fun _ _ => trivial⟩
  obtain rfl := physicalIdentityScope_ok hc hsc
  rw [safe_bind]
  refine safe_bindRuntimeScope fun t' ht' hpin => safe_ite (fun _ => trivial) fun hscope => ?_
  exact ⟨instanceTasks.trans ht ht', ⟨c, hc, hpin⟩, by rw [hpin, not_not.1 hscope]⟩

/-- Where an operation acts for its user, through its own handle. -/
structure Ready (op : Operation) (u : SdkUser) (s : InstanceState) : Prop where
  acts : ActsPinned u s
  owned : ∀ handle ∈ op.handle?, s.resolvedIdentityScope = some handle.identityScope

theorem Ready.staysPinned (h : Ready op user s) (ht : StaysPinned s t) : Ready op user t := by
  obtain ⟨⟨c, hc, hpin⟩, howned⟩ := h
  exact ⟨⟨c, hc, ht _ hpin⟩, fun handle hh => ht _ (howned handle hh)⟩

/-- A call for the user of an operation. -/
theorem safe_acting {Q : c.Response → InstanceState → Prop} (hs : Ready op user s)
    (hc : c.Suspends) (hacts : ∀ u, c.actsFor = some u → u = user)
    (hchecked : c.OnStorage → ∀ handle ∈ op.handle?, handle.datasetId.isSome → s.OwnRoots rt)
    (hQ : ∀ v t, Ready op user t → Q v t) (hE : ∀ e t, Ready op user t → E e t) :
    Safe instanceTasks (MadeFor rt op) (sdk c) Q E s := by
  refine safe_suspend hc ⟨fun u hu => hacts u hu ▸ hs.acts, fun _ _ => hs.owned, hchecked⟩
    (fun v t ht => hQ v t (hs.staysPinned ht)) fun e t ht => hE e t (hs.staysPinned ht)

theorem safe_resolveDatasetForUser {name tenant sc : String} (hs : Ready op user s) :
    Safe instanceTasks (MadeFor rt op) (resolveDatasetForUser name tenant user sc)
      (fun _ => Ready op user) (fun _ _ => True) s := by
  rw [resolveDatasetForUser, safe_bind, safe_ofExcept]
  refine ⟨fun c _ => ?_, fun _ _ => trivial⟩
  rw [safe_bind]
  refine safe_acting hs trivial (fun _ hu => (Option.some.inj hu).symm) (fun h => h.elim)
    (fun v t ht => ?_) fun _ _ _ => trivial
  rw [safe_bind, safe_ofExcept]
  exact ⟨fun _ _ => safe_ofExcept.2 ⟨fun _ _ => ht, fun _ _ => trivial⟩, fun _ _ => trivial⟩

/-- A handle that knows its dataset is used as it is, right after the check of the roots. -/
theorem safe_ensureResolved (hs : Ready op user s) :
    Safe instanceTasks (MadeFor rt op) (rt.ensureResolved handle user)
      (fun _ t => Ready op user t ∧ (handle.datasetId.isSome → t.OwnRoots rt))
      (fun _ _ => True) s := by
  rw [ensureResolved, safe_bind]
  refine safe_validateHandle.mono ?_ fun _ _ _ => trivial
  rintro - _ ⟨rfl, -, hroots⟩
  cases hid : handle.datasetId with
  | some datasetId => exact ⟨hs, fun _ => hroots⟩
  | none =>
    exact (safe_resolveDatasetForUser hs).mono
      (fun _ _ ht => ⟨ht, fun h => absurd h Bool.false_ne_true⟩) fun _ _ => id

theorem safe_addGroups (groups : List (GroupKey × List DocumentPayload)) (hs : Ready op user s) :
    Safe instanceTasks (MadeFor rt op) (addGroups handle user groups)
      (fun _ => Ready op user) (fun _ _ => True) s := by
  induction groups generalizing s with
  | nil => exact hs
  | cons group groups ih =>
    rw [addGroups, safe_bind, addGroup, safe_bind]
    refine safe_check (.inr rfl) (fun _ => ?_) fun _ => trivial
    rw [safe_bind]
    refine safe_acting hs trivial (fun _ hu => (Option.some.inj hu).symm) (fun h => h.elim)
      (fun v t ht => ?_) fun _ _ _ => trivial
    rw [safe_bind, safe_ofExcept]
    exact ⟨fun _ _ => safe_check (.inr rfl) (fun _ => ih ht) fun _ => trivial, fun _ _ => trivial⟩

theorem safe_forgetEach {datasetId : UUID} {memoryOnly : Bool} (dataIds : List UUID)
    (hs : Ready op user s) :
    Safe instanceTasks (MadeFor rt op) (forgetEach datasetId memoryOnly user dataIds)
      (fun _ => Ready op user) (fun _ => Ready op user) s := by
  induction dataIds generalizing s with
  | nil => exact hs
  | cons dataId dataIds ih =>
    rw [forgetEach, safe_bind, safe_handle]
    refine safe_acting hs trivial (fun _ hu => (Option.some.inj hu).symm) (fun h => h.elim)
      (fun _ t ht => ih ht) fun _ t ht => ?_
    exact safe_ite (fun _ => ih ht) fun _ => ht

/-- The start of the operations on the dataset of a handle. -/
theorem safe_bound {α : Type} {f : SdkUser → DatasetHandle → LocalProgram α}
    {Q : α → InstanceState → Prop} (hop : op.handle? = some handle)
    (hf : ∀ u h t, Ready op u t → (handle.datasetId.isSome → t.OwnRoots rt) →
      Safe instanceTasks (MadeFor rt op) (f u h) Q (fun _ _ => True) t) :
    Safe instanceTasks (MadeFor rt op) (do
      rt.ensureReady
      let user ← rt.bindUser handle
      let h ← rt.ensureResolved handle user
      f user h) Q (fun _ _ => True) s := by
  rw [safe_bind]
  refine safe_ensureReady.mono (fun _ t _ => ?_) fun _ _ _ => trivial
  rw [safe_bind]
  refine safe_bindUser.mono ?_ fun _ _ _ => trivial
  rintro u t' ⟨-, hacts, hpin⟩
  have hready : Ready op u t' := ⟨hacts, fun h hh => by
    rw [hop] at hh
    exact Option.some.inj hh ▸ hpin⟩
  rw [safe_bind]
  exact (safe_ensureResolved hready).mono (fun h t'' ht => hf u h t'' ht.1 ht.2)
    fun _ _ _ => trivial

/-- The roots were checked for the handle of the operation. -/
theorem checked_of (hop : op.handle? = some handle)
    (h : handle.datasetId.isSome → s.OwnRoots rt) :
    ∀ handle ∈ op.handle?, handle.datasetId.isSome → s.OwnRoots rt := by
  intro handle' hh
  rw [hop] at hh
  exact Option.some.inj hh ▸ h

theorem safe_forgetDocuments {dataIds : List UUID} {memoryOnly : Bool}
    (hop : op.handle? = some handle) :
    Safe instanceTasks (MadeFor rt op) (rt.forgetDocuments handle dataIds memoryOnly)
      (fun _ _ => True) (fun _ _ => True) s := by
  rw [forgetDocuments, safe_bind]
  refine safe_validateHandle.mono (fun _ t _ => ?_) fun _ _ _ => trivial
  refine safe_ite (fun _ => trivial) fun _ => safe_bound hop fun u h t ht hroots => ?_
  cases h.datasetId with
  | none => trivial
  | some datasetId =>
    rw [safe_bind, safe_ofExcept]
    refine ⟨fun c _ => ?_, fun _ _ => trivial⟩
    rw [safe_bind]
    refine safe_acting ht trivial (fun _ h => by cases h) (fun _ => checked_of hop hroots)
      (fun _ t' ht' => ?_) fun _ _ _ => trivial
    -- The context is left on both ways out of the loop.
    rw [safe_finally]
    have hexit {t : InstanceState} : Safe instanceTasks (MadeFor rt op)
        (sdk (.exitDatabaseContext datasetId c.1)) (fun _ _ => True) (fun _ _ => True) t :=
      safe_free trivial rfl id (fun _ _ _ => trivial) fun _ _ _ => trivial
    exact (safe_forgetEach dataIds ht').mono (fun _ _ _ => hexit) fun _ _ _ => hexit

theorem safe_cognifyDataset {profile : CognifyProfile} (hop : op.handle? = some handle) :
    Safe instanceTasks (MadeFor rt op) (rt.cognifyDataset handle profile)
      (fun _ _ => True) (fun _ _ => True) s := by
  rw [cognifyDataset, safe_bind]
  refine safe_validateHandle.mono (fun _ t _ => ?_) fun _ _ _ => trivial
  refine safe_bound hop fun u h t ht hroots => ?_
  cases h.datasetId with
  | none => trivial
  | some datasetId =>
    rw [safe_bind]
    refine safe_check (.inr rfl) (fun _ => ?_) fun _ => trivial
    rw [safe_bind]
    refine safe_acting ht trivial (fun _ hu => (Option.some.inj hu).symm)
      (fun _ => checked_of hop hroots) (fun _ t' _ => ?_) fun _ _ _ => trivial
    rw [safe_bind, safe_ofExcept]
    exact ⟨fun _ _ => safe_check (.inr rfl) (fun _ => trivial) fun _ => trivial, fun _ _ => trivial⟩

theorem safe_teardownDataset (hop : op.handle? = some handle) :
    Safe instanceTasks (MadeFor rt op) (rt.teardownDataset handle)
      (fun _ _ => True) (fun _ _ => True) s := by
  rw [teardownDataset, safe_bind]
  refine safe_validateHandle.mono (fun _ t _ => ?_) fun _ _ _ => trivial
  refine safe_bound hop fun u h t ht hroots => ?_
  cases h.datasetId with
  | none => trivial
  | some datasetId =>
    rw [safe_handle]
    exact safe_acting ht trivial (fun _ hu => (Option.some.inj hu).symm)
      (fun _ => checked_of hop hroots) (fun _ _ _ => trivial)
      fun _ _ _ => safe_ite (fun _ => trivial) fun _ => trivial

theorem safe_listDocuments (hop : op.handle? = some handle) :
    Safe instanceTasks (MadeFor rt op) (rt.listDocuments handle)
      (fun _ _ => True) (fun _ _ => True) s := by
  rw [listDocuments, safe_bind]
  refine safe_validateHandle.mono (fun _ t _ => ?_) fun _ _ _ => trivial
  refine safe_bound hop fun u h t ht hroots => ?_
  cases h.datasetId with
  | none => trivial
  | some datasetId =>
    rw [safe_bind]
    exact safe_acting ht trivial (fun _ hu => (Option.some.inj hu).symm)
      (fun _ => checked_of hop hroots) (fun _ _ _ => trivial) fun _ _ _ => trivial

theorem safe_addDocuments {payloads : List DocumentPayload} (hop : op.handle? = some handle) :
    Safe instanceTasks (MadeFor rt op) (rt.addDocuments handle payloads)
      (fun _ _ => True) (fun _ _ => True) s := by
  rw [addDocuments, safe_bind]
  refine safe_validateHandle.mono (fun _ t _ => ?_) fun _ _ _ => trivial
  refine safe_ite (fun _ => trivial) fun _ => ?_
  rw [safe_bind]
  refine safe_ensureReady.mono (fun _ t' _ => ?_) fun _ _ _ => trivial
  rw [safe_bind]
  refine safe_bindUser.mono ?_ fun _ _ _ => trivial
  rintro u t'' ⟨-, hacts, hpin⟩
  have hready : Ready op u t'' := ⟨hacts, fun h hh => by
    rw [hop] at hh
    exact Option.some.inj hh ▸ hpin⟩
  rw [safe_bind]
  refine (safe_addGroups _ hready).mono (fun _ t₃ ht₃ => ?_) fun _ _ _ => trivial
  cases handle.datasetId with
  | some _ => trivial
  | none =>
    rw [safe_bind]
    exact (safe_resolveDatasetForUser ht₃).mono
      (fun _ _ _ => safe_ite (fun _ => trivial) fun _ => trivial) fun _ _ _ => trivial

theorem safe_resolveDataset {name tenant : String} :
    Safe instanceTasks (MadeFor rt (.resolveDataset name tenant)) (rt.resolveDataset name tenant)
      (fun _ _ => True) (fun _ _ => True) s := by
  rw [resolveDataset, safe_bind, safe_ofExcept]
  refine ⟨fun _ _ => ?_, fun _ _ => trivial⟩
  rw [safe_bind, safe_ofExcept]
  refine ⟨fun _ _ => ?_, fun _ _ => trivial⟩
  rw [safe_bind]
  refine safe_ensureReady.mono (fun _ t _ => ?_) fun _ _ _ => trivial
  rw [safe_bind]
  refine safe_resolveActingUser.mono ?_ fun _ _ _ => trivial
  rintro u t' ⟨-, c, hc⟩
  rw [safe_bind, safe_ofExcept]
  refine ⟨fun sc hsc => ?_, fun _ _ => trivial⟩
  obtain rfl := physicalIdentityScope_ok hc hsc
  rw [safe_bind]
  refine safe_bindRuntimeScope fun t'' _ hpin => ?_
  have hready : Ready (.resolveDataset name tenant) u t'' :=
    ⟨⟨c, hc, hpin⟩, fun _ hh => by cases hh⟩
  exact (safe_resolveDatasetForUser hready).mono (fun _ _ _ => trivial) fun _ _ _ => trivial

/-- Every operation is safe beside the others. -/
theorem safe_body (op : Operation) (s : InstanceState) :
    Safe instanceTasks (MadeFor rt op) (op.body rt) (fun _ _ => True) (fun _ _ => True) s := by
  have hend {α : Type} {p : LocalProgram α} {f : α → LocalProgram (Option DatasetHandle)}
      (hp : Safe instanceTasks (MadeFor rt op) p (fun _ _ => True) (fun _ _ => True) s)
      (hf : ∀ a, ∃ r, f a = ret r) :
      Safe instanceTasks (MadeFor rt op) (p >>= f) (fun _ _ => True) (fun _ _ => True) s := by
    refine safe_bind.2 (hp.mono (fun a _ _ => ?_) fun _ _ => id)
    obtain ⟨r, hr⟩ := hf a
    rw [hr]
    trivial
  cases op with
  | resolveDataset => exact hend safe_resolveDataset fun _ => ⟨_, rfl⟩
  | addDocuments => exact hend (safe_addDocuments rfl) fun _ => ⟨_, rfl⟩
  | purgeDocumentMemory => exact hend (safe_forgetDocuments rfl) fun _ => ⟨_, rfl⟩
  | deleteDocuments => exact hend (safe_forgetDocuments rfl) fun _ => ⟨_, rfl⟩
  | cognifyDataset => exact hend (safe_cognifyDataset rfl) fun _ => ⟨_, rfl⟩
  | teardownDataset => exact hend (safe_teardownDataset rfl) fun _ => ⟨_, rfl⟩
  | listDocuments => exact hend (safe_listDocuments rfl) fun _ => ⟨_, rfl⟩
  | datasetLock =>
    refine hend ?_ fun _ => ⟨_, rfl⟩
    exact safe_bind.2 (safe_validateHandle.mono (fun _ _ _ => trivial) fun _ _ => id)

/-! ## Runs -/

variable {ι : Type} [DecidableEq ι] {ops : ι → Operation}
  {m : Loop LocalCall LocalCall.Response PyError (Option DatasetHandle) ι InstanceState}

/-- Tasks that use the instance, from any state of it. -/
theorem instance_sound
    (hrun : ReflTransGen (instanceTasks.Step RootsChange) (.start s fun i => (ops i).body rt) m) :
    m.Sound instanceTasks (fun i => MadeFor rt (ops i)) s :=
  safe_run (fun _ _ => RootsChange.staysPinned) (fun i t _ => safe_body (ops i) t) hrun

/-- Tasks of one instance never act for two owners, in whatever order they run:
    nothing was asked of Cognee for any user, or all of it was for the owner of
    the pinned scope, through handles of this scope. -/
theorem one_owner_concurrently (huuid : UuidTextIsNotNone)
    (hrun : ReflTransGen (instanceTasks.Step RootsChange) (.start s fun i => (ops i).body rt) m) :
    (∀ i c t, (i, c, t) ∈ m.made → c.actsFor = none) ∨
      ∃ owner, m.shared.resolvedIdentityScope = some (identityScopeOf owner) ∧
        ∀ i c t u, (i, c, t) ∈ m.made → c.actsFor = some u →
          userCoordinates u = .ok owner ∧
            ∀ handle ∈ (ops i).handle?, handle.identityScope = identityScopeOf owner := by
  have hsound := instance_sound hrun
  -- The scope that a call was made under is pinned to the end.
  have hpinned {i : ι} {c : LocalCall} {t : InstanceState} {u : SdkUser} (hx : (i, c, t) ∈ m.made)
      (hu : c.actsFor = some u) : ∃ owner, userCoordinates u = .ok owner ∧
        m.shared.resolvedIdentityScope = some (identityScopeOf owner) := by
    obtain ⟨owner, howner, hpin⟩ := (hsound.made _ hx).acts u hu
    exact ⟨owner, howner, hsound.rely _ hx _ hpin⟩
  by_cases hidle : ∀ i c t, (i, c, t) ∈ m.made → c.actsFor = none
  · exact .inl hidle
  · push Not at hidle
    obtain ⟨i, c, t, hx, hacts⟩ := hidle
    obtain ⟨u, hu⟩ := Option.ne_none_iff_exists'.1 hacts
    obtain ⟨owner, -, hpin⟩ := hpinned hx hu
    refine .inr ⟨owner, hpin, fun i' c' t' u' hx' hu' => ?_⟩
    obtain ⟨owner', howner', hpin'⟩ := hpinned hx' hu'
    have hscopes := Option.some.inj (hpin'.symm.trans hpin)
    obtain rfl := identityScopeOf_injective huuid hscopes
    refine ⟨howner', fun handle hh => ?_⟩
    have howned := hsound.rely _ hx' _ ((hsound.made _ hx').owned u' hu' handle hh)
    exact Option.some.inj (howned.symm.trans hpin)

/-- Where tasks reach the storage of a dataset through a handle that knows it,
    the storage roots are those of the instance at this very moment, whatever
    other code did to them while the task was suspended. -/
theorem storage_roots_checked
    (hrun : ReflTransGen (instanceTasks.Step RootsChange) (.start s fun i => (ops i).body rt) m)
    {i : ι} {c : LocalCall} {t : InstanceState} (hmade : (i, c, t) ∈ m.made) (hc : c.OnStorage)
    {handle : DatasetHandle} (hop : (ops i).handle? = some handle)
    (hid : handle.datasetId.isSome) : t.roots = (some rt.dataRoot, some rt.systemRoot) :=
  ((instance_sound hrun).made _ hmade).checked hc handle hop hid

end Bodies

/-! ## Operations that succeed -/

section Resolving

open LocalCogneeRuntime

variable {rt : LocalCogneeRuntime} {name tenant : String} {handle : DatasetHandle} {user : SdkUser}
  {c : UUID × Option UUID} {s : InstanceState} {made : List (LocalCall × InstanceState)}

/-- A call that is not awaited. -/
theorem alone_call {call : LocalCall} {v : call.Response} {t : InstanceState}
    (hc : ¬call.Suspends) (h : InstanceStep call s (.ok v) t) :
    Runs instanceTasks.Alone (sdk call) (s, made) (ret v) (t, made) :=
  .call (.inner ⟨hc, h⟩ made)

theorem alone_assertStorageRoots (hroots : s.OwnRoots rt) :
    Runs instanceTasks.Alone rt.assertStorageRoots (s, made) (ret ()) (s, made) := by
  refine .bind (alone_call id .storageRoots) ?_
  rw [hroots, if_neg (not_not.2 rfl)]
  exact .refl

theorem alone_ensureReady (hroots : s.OwnRoots rt) (hsetup : s.setupDone = true) :
    Runs instanceTasks.Alone rt.ensureReady (s, made) (ret ()) (s, made) := by
  refine .bind (alone_call id (.ensureLocalSdkMode (.ok ())))
    (.bind (alone_assertStorageRoots hroots) (.bind (alone_call id .getSetupDone) ?_))
  rw [hsetup]
  exact .refl

theorem alone_resolveActingUser (hrt : rt.user = none) (hc : userCoordinates user = .ok c) :
    Runs instanceTasks.Alone rt.resolveActingUser (s, made) (ret user)
      (s, made ++ [(.resolveDefaultUser, s)]) := by
  rw [resolveActingUser, hrt]
  exact .bind (.call (.suspend trivial s made (.ok user))) (.bind (.ofExcept hc) .refl)

/-- The scope is pinned by the first user, and stays so for the next one. -/
theorem alone_bindRuntimeScope {sc : String}
    (hpin : ∀ pinned ∈ s.resolvedIdentityScope, pinned = sc) :
    Runs instanceTasks.Alone (bindRuntimeScope sc) (s, made) (ret ())
      ({ s with resolvedIdentityScope := some sc }, made) := by
  refine .bind (alone_call id .getIdentityScope) ?_
  cases hs : s.resolvedIdentityScope with
  | none => exact alone_call id (.setIdentityScope sc)
  | some pinned =>
    obtain rfl := hpin pinned hs
    simp only [ne_eq, not_true_eq_false, if_false, ← hs]
    exact .refl

theorem alone_resolveDataset {datasets : List SdkDataset}
    (hname : validateDatasetName name = .ok ()) (htenant : validateTenant tenant = .ok ())
    (hrt : rt.user = none) (hroots : s.OwnRoots rt) (hsetup : s.setupDone = true)
    (hc : userCoordinates user = .ok c)
    (hpin : ∀ pinned ∈ s.resolvedIdentityScope, pinned = identityScopeOf c)
    (hid : ownedDatasetId name c datasets = .ok handle.datasetId)
    (hhandle : DatasetHandle.init name tenant (identityScopeOf c) handle.datasetId = .ok handle) :
    Runs instanceTasks.Alone (rt.resolveDataset name tenant) (s, made) (ret handle)
      ({ s with resolvedIdentityScope := some (identityScopeOf c) },
        made ++ [(.resolveDefaultUser, s)] ++ [(.listDatasets user,
          { s with resolvedIdentityScope := some (identityScopeOf c) })]) := by
  have hlist {t : InstanceState} {made : List (LocalCall × InstanceState)} :
      Runs instanceTasks.Alone (resolveDatasetForUser name tenant user (identityScopeOf c))
        (t, made) (ret handle) (t, made ++ [(.listDatasets user, t)]) :=
    .bind (.ofExcept hc) (.bind (.call (.suspend trivial _ _ (.ok datasets)))
      (.bind (.ofExcept hid) (.ofExcept hhandle)))
  exact .bind (.ofExcept hname) (.bind (.ofExcept htenant)
    (.bind (alone_ensureReady hroots hsetup) (.bind (alone_resolveActingUser hrt hc)
      (.bind (.ofExcept (physicalIdentityScope_eq hc))
        (.bind (alone_bindRuntimeScope hpin) hlist)))))

/-- The documents of a dataset that the handle knows are listed. -/
theorem alone_listDocuments {datasetId : UUID} (hname : validateDatasetName handle.name = .ok ())
    (htenant : validateTenant handle.tenant = .ok ()) (hrt : rt.user = none)
    (hroots : s.OwnRoots rt) (hsetup : s.setupDone = true)
    (hpin : s.resolvedIdentityScope = some handle.identityScope)
    (hc : userCoordinates user = .ok c) (hscope : identityScopeOf c = handle.identityScope)
    (hid : handle.datasetId = some datasetId) :
    Runs instanceTasks.Alone (rt.listDocuments handle) (s, made) (ret [])
      (s, made ++ [(.resolveDefaultUser, s)] ++ [(.listData datasetId user, s)]) := by
  have hvalidate (made : List (LocalCall × InstanceState)) :
      Runs instanceTasks.Alone (rt.validateHandle handle) (s, made) (ret ()) (s, made) := by
    refine .bind (.ofExcept hname) (.bind (.ofExcept htenant)
      (.bind (alone_call id .getIdentityScope) ?_))
    rw [hpin]
    simp only [ne_eq, not_true_eq_false, if_false]
    exact alone_assertStorageRoots hroots
  have hpinned : { s with resolvedIdentityScope := some (identityScopeOf c) } = s := by
    rw [hscope, ← hpin]
  have hbind : Runs instanceTasks.Alone (bindRuntimeScope (identityScopeOf c))
      (s, made ++ [(.resolveDefaultUser, s)])
      (ret ()) ({ s with resolvedIdentityScope := some (identityScopeOf c) },
        made ++ [(.resolveDefaultUser, s)]) := alone_bindRuntimeScope fun pinned hp => by
    rw [hpin] at hp
    exact (Option.some.inj hp).symm.trans hscope.symm
  rw [hpinned] at hbind
  have huser : Runs instanceTasks.Alone (rt.bindUser handle) (s, made) (ret user)
      (s, made ++ [(.resolveDefaultUser, s)]) := by
    refine .bind (alone_resolveActingUser hrt hc)
      (.bind (.ofExcept (physicalIdentityScope_eq hc)) (.bind hbind ?_))
    rw [if_neg (not_not.2 hscope)]
    exact .refl
  have hresolved (made : List (LocalCall × InstanceState)) :
      Runs instanceTasks.Alone (rt.ensureResolved handle user) (s, made) (ret handle)
        (s, made) := by
    refine .bind (hvalidate made) ?_
    rw [hid]
    exact .refl
  refine .bind (hvalidate made) (.bind (alone_ensureReady hroots hsetup) (.bind huser
    (.bind (hresolved _) ?_)))
  rw [hid]
  refine .bind (.call (.suspend trivial _ _ (.ok []))) ?_
  simp only [List.map_nil, List.mergeSort_nil]
  exact .refl

end Resolving

end

/-- An instance that set up its databases, with its own roots. -/
def InstanceState.sample (pin : Option String) : InstanceState :=
  ⟨pin, true, some "/data", some "/system"⟩

/-- Two tasks resolve a dataset for Alice, one after the other. -/
theorem one_owner_concurrently_sample :
    letI : Platform := .sample
    ∃ m : Loop LocalCall LocalCall.Response PyError (Option DatasetHandle) Bool InstanceState,
      ReflTransGen (instanceTasks.Step RootsChange) (.start (.sample none) fun _ =>
        (Operation.resolveDataset "docs" "default").body .sample) m ∧
      m.made.length = 4 ∧
      ∃ owner, m.shared.resolvedIdentityScope = some (identityScopeOf owner) := by
  let _ : Platform := .sample
  let ops (_ : Bool) : Operation := .resolveDataset "docs" "default"
  have hname : validateDatasetName "docs" = .ok () := by decide
  have htenant : validateTenant "default" = .ok () := by decide
  have halice : userCoordinates (.sample "alice") = .ok ("alice", none) := rfl
  have hid : ownedDatasetId "docs" ("alice", none) [] = .ok DatasetHandle.sample.datasetId := rfl
  have hhandle : DatasetHandle.init "docs" "default" (identityScopeOf ("alice", none))
    DatasetHandle.sample.datasetId = .ok .sample := by decide
  -- The first task pins the scope of Alice, and the second one finds it.
  have hresolve (pin : Option String) (hpin : ∀ p ∈ pin, p = identityScopeOf ("alice", none)) :
      Runs instanceTasks.Alone ((ops true).body .sample) (.sample pin, [])
        (ofExcept (.ok (some .sample))) _ :=
    .bind (alone_resolveDataset hname htenant rfl rfl rfl halice hpin hid hhandle) .refl
  have hfirst : ReflTransGen (instanceTasks.Step RootsChange)
      (.start (.sample none) fun i => (ops i).body .sample) _ :=
    Loop.alone (i := true) rfl (hresolve none (by simp))
  have hrun := hfirst.trans (Loop.alone (i := false) rfl (hresolve _ (by simp)))
  refine ⟨_, hrun, rfl, ?_⟩
  rcases one_owner_concurrently Platform.sample_uuidText hrun with hidle | howned
  · have hlisted := hidle true (.listDatasets (.sample "alice")) _
      (List.mem_append_left _ (.tail _ (.head _)))
    cases hlisted
  · obtain ⟨owner, hpin, -⟩ := howned
    exact ⟨owner, hpin⟩

/-- A task lists the documents of a dataset, and other code then changes the roots. -/
theorem storage_roots_checked_sample :
    letI : Platform := .sample
    let handle : DatasetHandle := { DatasetHandle.sample with datasetId := some "d" }
    ∃ (m : Loop LocalCall LocalCall.Response PyError (Option DatasetHandle) Unit InstanceState)
      (t : InstanceState),
      ReflTransGen (instanceTasks.Step RootsChange) (.start (.sample (some handle.identityScope))
        fun _ => (Operation.listDocuments handle).body .sample) m ∧
      m.shared.roots = (none, none) ∧ ((), .listData "d" (.sample "alice"), t) ∈ m.made ∧
      t.roots = (some "/data", some "/system") := by
  let _ : Platform := .sample
  intro handle
  let ops (_ : Unit) : Operation := .listDocuments handle
  let s : InstanceState := .sample (some handle.identityScope)
  have hname : validateDatasetName handle.name = .ok () := by decide
  have htenant : validateTenant handle.tenant = .ok () := by decide
  have halice : userCoordinates (.sample "alice") = .ok ("alice", none) := rfl
  have hlist : Runs instanceTasks.Alone ((ops ()).body .sample) (s, [])
      (ofExcept (.ok none)) _ :=
    .bind (alone_listDocuments hname htenant rfl rfl rfl rfl halice rfl rfl) .refl
  have hlisted : ReflTransGen (instanceTasks.Step RootsChange)
      (.start s fun i => (ops i).body .sample) _ := Loop.alone (i := ()) rfl hlist
  have hrun := hlisted.tail (.environment ⟨(none, none), rfl⟩)
  exact ⟨_, s, hrun, rfl, .tail _ (.head _),
    storage_roots_checked hrun (i := ()) (.tail _ (.head _)) trivial rfl rfl⟩

end Cogindex
