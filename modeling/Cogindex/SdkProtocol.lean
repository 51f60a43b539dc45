import Cogindex.AddDocuments

/-!
# How an instance uses the SDK

The calls of an operation are followed, whatever Cognee answers
(`SdkProgress.add`), and each is made only where it may be (`SdkProgress.Allows`):

* nothing is asked of the databases before the process was found to be in local
  mode, with the roots of the instance and with its databases set up;
* the data is changed as the operation plans to (`Operation.writes`): each write
  once, in this order, and all of them where it returns, unless it does nothing
  because the last listing of the datasets has no such dataset (`Lacks`);
* a pipeline runs only right after the embedding dimensions were validated, and
  nothing returns before they were validated again;
* documents are forgotten inside one database context of their dataset, which is
  left on every path;
* after a call that failed, nothing is called but to leave the context, and the
  operation raises this very error. Only a missing dataset that is to be
  forgotten is no failure.

`SdkProgress.sdk_protocol` says so of every operation.
-/

namespace Cogindex

open Coroutine LocalCogneeRuntime

section

variable [Platform]

/-! ## Calls and their failures -/

/-- A change of the data of Cognee. -/
inductive SdkWrite
  | add (request : AddRequest)
  | cognify (kwargs : CognifyKwargs)
  /-- A document is forgotten, or only what was derived from it. -/
  | forget (dataId : UUID) (memoryOnly : Bool)
  | forgetDataset

namespace LocalCall

/-- What a call changes. -/
def write? : LocalCall → Option SdkWrite
  | add request _ => some (.add request)
  | cognify _ kwargs _ => some (.cognify kwargs)
  | forget dataId _ memoryOnly _ => some (.forget dataId memoryOnly)
  | forgetDataset _ _ => some .forgetDataset
  | _ => none

/-- A call that works with the databases of Cognee. -/
def UsesData : LocalCall → Prop
  | resolveDefaultUser => True
  | resolveUser _ => True
  | listDatasets _ => True
  | add _ _ => True
  | cognify _ _ _ => True
  | forget _ _ _ _ => True
  | forgetDataset _ _ => True
  | listData _ _ => True
  | enterDatabaseContext _ _ => True
  | _ => False

/-- A call that changes no data, and is not about a database context. -/
def Quiet : LocalCall → Prop
  | enterDatabaseContext _ _ => False
  | exitDatabaseContext _ _ => False
  | c => c.write? = none

/-- A call that enters a database context. -/
def EntersContext : LocalCall → Prop
  | enterDatabaseContext _ _ => True
  | _ => False

/-- A call that leaves a database context. -/
def LeavesContext : LocalCall → Prop
  | exitDatabaseContext _ _ => True
  | _ => False

/-- The error of a call, but for a missing dataset that was to be forgotten. -/
def failure : (c : LocalCall) → Except PyError c.Response → Option PyError
  | _, .ok _ => none
  | forget _ _ _ _, .error e => if e.kind = .datasetNotFound then none else some e
  | forgetDataset _ _, .error e => if e.kind = .datasetNotFound then none else some e
  | _, .error e => some e

end LocalCall

namespace Operation

/-- The changes that an operation plans. -/
def writes : Operation → List SdkWrite
  | addDocuments handle payloads =>
    (payloadGroups payloads).map fun group => .add (groupRequest handle group)
  | purgeDocumentMemory _ dataIds => dataIds.map (.forget · true)
  | deleteDocuments _ dataIds => dataIds.map (.forget · false)
  | cognifyDataset _ profile => [.cognify (cognifyKwargs profile)]
  | teardownDataset _ => [.forgetDataset]
  | _ => []

end Operation

/-! ## The monitor -/

/-- A listing of the datasets that a user may see. -/
structure DatasetListing where
  user : SdkUser
  datasets : List SdkDataset
  /-- The changes before it. -/
  writes : List SdkWrite

/-- The listing is of the user with the scope of a handle, who owns no dataset
    with its name in the active tenant. -/
structure DatasetListing.Lacks (listing : DatasetListing) (handle : DatasetHandle) : Prop where
  scope : physicalIdentityScope listing.user = .ok handle.identityScope
  owned : ∀ coordinates, userCoordinates listing.user = .ok coordinates →
    ∀ dataset ∈ listing.datasets, ¬dataset.Owned handle.name coordinates

/-- What is known from the calls so far. -/
structure SdkProgress where
  /-- The process is in local mode. -/
  sdkMode : Bool := false
  /-- The roots were those of the instance when they were last read. -/
  ownRoots : Bool := false
  /-- The databases are set up. -/
  ready : Bool := false
  /-- The last call validated the embedding dimensions. -/
  validated : Bool := false
  /-- A pipeline was run, and the dimensions were not validated since. -/
  pipelined : Bool := false
  /-- The database context that was entered. -/
  context : Option (UUID × UUID) := none
  /-- A database context was asked for. -/
  entered : Bool := false
  /-- The listings of the datasets, the last one last. -/
  listings : List DatasetListing := []
  /-- The changes so far. -/
  writes : List SdkWrite := []
  /-- The last failure. -/
  failed : Option PyError := none

namespace SdkProgress

variable (rt : LocalCogneeRuntime)

/-- What a call and its answer tell, but for the changes and the failures. -/
def note (s : SdkProgress) : (c : LocalCall) → Except PyError c.Response → SdkProgress
  | .ensureLocalSdkMode, .ok _ => { s with sdkMode := true }
  | .storageRoots, .ok roots =>
    { s with ownRoots := decide (roots = (some rt.dataRoot, some rt.systemRoot)) }
  | .getSetupDone, .ok setupDone => { s with ready := setupDone }
  | .ensureDatabasesReady, .ok _ => { s with ready := true }
  | .validateEmbeddingDimensions, .ok _ => { s with validated := true, pipelined := false }
  | .add _ _, _ => { s with pipelined := true }
  | .cognify _ _ _, _ => { s with pipelined := true }
  | .listDatasets user, .ok datasets =>
    { s with listings := s.listings ++ [⟨user, datasets, s.writes⟩] }
  | .enterDatabaseContext datasetId userId, .ok _ =>
    { s with context := some (datasetId, userId), entered := true }
  | .enterDatabaseContext _ _, .error _ => { s with entered := true }
  | .exitDatabaseContext _ _, _ => { s with context := none }
  | _, _ => s

/-- One more call, and its answer. -/
def add (s : SdkProgress) (event : Event LocalCall LocalCall.Response PyError) : SdkProgress :=
  { note rt { s with validated := false } event.call event.response with
    writes := s.writes ++ event.call.write?.toList
    failed := (event.call.failure event.response).or s.failed }

/-- Where a call may be made, whatever it changes. -/
def Permits (c : LocalCall) (s : SdkProgress) : Prop :=
  (s.failed = none ∨ c.LeavesContext) ∧ (c.UsesData → s.sdkMode ∧ s.ownRoots ∧ s.ready) ∧
    match c with
    | .setSetupDone => s.ready = true
    | .add _ _ => s.validated = true
    | .cognify _ _ _ => s.validated = true
    | .enterDatabaseContext _ _ => s.context = none
    | .exitDatabaseContext datasetId userId => s.context = some (datasetId, userId)
    | .forget _ datasetId _ _ => ∃ userId, s.context = some (datasetId, userId)
    | _ => True

/-- Where an operation may make a call: the changes of a plan in their order, in
    one database context at most. -/
structure Allows (plan : List SdkWrite) (c : LocalCall) (s : SdkProgress) : Prop where
  permits : Permits c s
  writes : ∀ w ∈ c.write?, s.writes ++ [w] <+: plan
  once : c.EntersContext → s.entered = false

/-- The dataset of a handle does not exist: its id is not known, and the datasets
    of its user were listed after the last change, and there was none with its name. -/
def Lacks (handle : DatasetHandle) (s : SdkProgress) : Prop :=
  handle.datasetId = none ∧ ∃ listing, s.listings.getLast? = some listing ∧
    listing.writes = s.writes ∧ listing.Lacks handle

/-- All is done here, or there is nothing to do. -/
structure Returned (plan : List SdkWrite) (lacks : SdkProgress → Prop) (s : SdkProgress) :
    Prop where
  failed : s.failed = none
  context : s.context = none
  pipelined : s.pipelined = false
  writes : s.writes = plan ∨ lacks s ∧ s.writes = []

/-- An error may be raised here. -/
structure Raised (e : PyError) (s : SdkProgress) : Prop where
  failed : ∀ e' ∈ s.failed, e = e'
  context : s.context = none

end SdkProgress

/-- The dataset of an operation does not exist, so that there is nothing to do. -/
def Operation.Lacks : Operation → SdkProgress → Prop
  | purgeDocumentMemory handle _ => SdkProgress.Lacks handle
  | deleteDocuments handle _ => SdkProgress.Lacks handle
  | cognifyDataset handle _ => SdkProgress.Lacks handle
  | teardownDataset handle => SdkProgress.Lacks handle
  | _ => fun _ => False

namespace SdkProgress

/-! ## Before the databases are used -/

/-- Nothing failed, and `ws` was changed. -/
structure Opening (ws : List SdkWrite) (s : SdkProgress) : Prop where
  failed : s.failed = none
  context : s.context = none
  entered : s.entered = false
  pipelined : s.pipelined = false
  writes : s.writes = ws

/-- The databases may be used. -/
structure Opened (ws : List SdkWrite) (s : SdkProgress) : Prop extends Opening ws s where
  sdkMode : s.sdkMode = true
  ownRoots : s.ownRoots = true
  ready : s.ready = true

variable {rt : LocalCogneeRuntime} {plan ws : List SdkWrite} {lacks : SdkProgress → Prop}
  {s : SdkProgress}

theorem Opening.raised (h : Opening ws s) (e : PyError) : Raised e s :=
  ⟨fun e' he' => absurd he' (by simp [h.failed]), h.context⟩

theorem Opening.returned (h : Opening plan s) : Returned plan lacks s :=
  ⟨h.failed, h.context, h.pipelined, .inl h.writes⟩

theorem Opening.idle (h : Opening [] s) (hlacks : lacks s) : Returned plan lacks s :=
  ⟨h.failed, h.context, h.pipelined, .inr ⟨hlacks, h.writes⟩⟩

theorem Returned.imp {lacks' : SdkProgress → Prop} (h : Returned plan lacks s)
    (himp : lacks s → lacks' s) : Returned plan lacks' s :=
  ⟨h.failed, h.context, h.pipelined, h.writes.imp_right fun hw => ⟨himp hw.1, hw.2⟩⟩

theorem Opened.uses (h : Opened ws s) : s.sdkMode ∧ s.ownRoots ∧ s.ready :=
  ⟨h.sdkMode, h.ownRoots, h.ready⟩

/-- A call that is permitted may be made, if it neither changes data nor enters a context. -/
theorem Permits.allows {c : LocalCall} (h : Permits c s) (hwrite : c.write? = none)
    (henters : ¬c.EntersContext) : Allows plan c s :=
  ⟨h, fun w hw => absurd (hwrite.symm.trans hw) (by simp), fun he => absurd he henters⟩

/-- A coroutine that makes the changes of a plan, followed from here on. -/
abbrev Followed {α : Type} (rt : LocalCogneeRuntime) (plan : List SdkWrite) (p : LocalProgram α)
    (Q : α → SdkProgress → Prop) (s : SdkProgress) : Prop :=
  Monitored (add rt) (Allows plan) p Q Raised s

/-- A quiet call, whose error is raised. -/
theorem followed_quiet {c : LocalCall} {Q : c.Response → SdkProgress → Prop} (hc : c.Quiet)
    (hs : Opening ws s) (huses : c.UsesData → s.sdkMode ∧ s.ownRoots ∧ s.ready)
    (hready : c = .setSetupDone → s.ready = true)
    (hQ : ∀ v, Opening ws (add rt s ⟨c, .ok v⟩) → Q v (add rt s ⟨c, .ok v⟩)) :
    Followed rt plan (sdk c) Q s := by
  have hnone : c.write? = none := by cases c <;> first | exact hc | exact hc.elim
  refine monitored_call ⟨⟨.inl hs.failed, huses, ?_⟩, by simp [hnone], fun _ => hs.entered⟩
    (fun v => hQ v ?_) fun e => ?_
  · cases c <;> first | trivial | exact hready rfl
  · refine ⟨?_, ?_, ?_, ?_, ?_⟩
    · cases c <;> exact hs.failed
    · cases c <;> first | exact hs.context | cases hc
    · cases c <;> first | exact hs.entered | cases hc
    · cases c <;> first | exact hs.pipelined | rfl | cases hc
    · exact (congrArg (s.writes ++ ·) (congrArg Option.toList hnone)).trans
        ((List.append_nil _).trans hs.writes)
  · refine ⟨fun e' he' => ?_, ?_⟩
    · cases c <;> first | exact Option.some.inj he' | cases hc
    · cases c <;> first | exact hs.context | cases hc

/-- The roots are read, and are those of the instance if nothing is raised. -/
theorem followed_assertStorageRoots (hs : Opening ws s) : Followed rt plan rt.assertStorageRoots
    (fun _ t => Opening ws t ∧ t.ownRoots = true ∧ t.sdkMode = s.sdkMode ∧ t.ready = s.ready) s :=
  monitored_bind.2 (followed_quiet rfl hs (fun h => h.elim) (fun h => by cases h) fun roots ht =>
    monitored_ite (fun _ => ht.raised _) fun hroots =>
      ⟨ht, decide_eq_true (not_not.1 hroots), rfl, rfl⟩)

theorem followed_ensureReady (hs : Opening ws s) :
    Followed rt plan rt.ensureReady (fun _ => Opened ws) s := by
  refine monitored_bind.2 (followed_quiet rfl hs (fun h => h.elim) (fun h => by cases h)
    fun _ ht => ?_)
  refine monitored_bind.2 ((followed_assertStorageRoots ht).mono ?_ fun _ _ => id)
  rintro - t ⟨ht, hroots, hmode, -⟩
  refine monitored_bind.2 (followed_quiet rfl ht (fun h => h.elim) (fun h => by cases h)
    fun setupDone hu => ?_)
  cases setupDone with
  | true => exact ⟨hu, hmode, hroots, rfl⟩
  | false =>
    refine monitored_bind.2 (followed_quiet rfl hu (fun h => h.elim) (fun h => by cases h)
      fun _ hv => ?_)
    exact followed_quiet rfl hv (fun h => h.elim) (fun _ => rfl) fun _ hw =>
      ⟨hw, hmode, hroots, rfl⟩

theorem followed_validateHandle {handle : DatasetHandle} (hs : Opening ws s) :
    Followed rt plan (rt.validateHandle handle) (fun _ t =>
      Opening ws t ∧ t.ownRoots = true ∧ t.sdkMode = s.sdkMode ∧ t.ready = s.ready) s := by
  refine monitored_bind.2 (monitored_ofExcept.2 ⟨fun _ _ => ?_, fun _ _ => hs.raised _⟩)
  refine monitored_bind.2 (monitored_ofExcept.2 ⟨fun _ _ => ?_, fun _ _ => hs.raised _⟩)
  refine monitored_bind.2 (followed_quiet rfl hs (fun h => h.elim) (fun h => by cases h)
    fun pinned ht => ?_)
  cases pinned with
  | none => exact ht.raised _
  | some pinned =>
    exact monitored_ite (fun _ => ht.raised _) fun _ => followed_assertStorageRoots ht

/-- A handle is validated again once the databases may be used. -/
theorem followed_validateHandle_opened {handle : DatasetHandle} (hs : Opened ws s) :
    Followed rt plan (rt.validateHandle handle) (fun _ => Opened ws) s := by
  refine (followed_validateHandle hs.toOpening).mono ?_ fun _ _ => id
  rintro - t ⟨ht, hroots, hmode, hready⟩
  exact ⟨ht, hmode.trans hs.sdkMode, hroots, hready.trans hs.ready⟩

/-- A quiet call leaves the databases open. -/
theorem followed_opened {c : LocalCall} {Q : c.Response → SdkProgress → Prop} (hc : c.Quiet)
    (hs : Opened ws s) (hopened : ∀ v, (add rt s ⟨c, .ok v⟩).sdkMode = s.sdkMode ∧
      (add rt s ⟨c, .ok v⟩).ownRoots = s.ownRoots ∧ (add rt s ⟨c, .ok v⟩).ready = s.ready)
    (hQ : ∀ v, Opened ws (add rt s ⟨c, .ok v⟩) → Q v (add rt s ⟨c, .ok v⟩)) :
    Followed rt plan (sdk c) Q s := by
  refine followed_quiet hc hs.toOpening (fun _ => hs.uses) (fun _ => hs.ready) fun v ht => hQ v ?_
  obtain ⟨hmode, hroots, hready⟩ := hopened v
  exact ⟨ht, hmode.trans hs.sdkMode, hroots.trans hs.ownRoots, hready.trans hs.ready⟩

theorem followed_resolveActingUser (hs : Opened ws s) :
    Followed rt plan rt.resolveActingUser (fun _ => Opened ws) s := by
  have hcoordinates {t : SdkProgress} {user : SdkUser} (ht : Opened ws t) :
      Followed rt plan (do let _ ← ofExcept (userCoordinates user); return user)
        (fun _ => Opened ws) t :=
    monitored_bind.2 (monitored_ofExcept.2 ⟨fun _ _ => ht, fun _ _ => ht.raised _⟩)
  unfold LocalCogneeRuntime.resolveActingUser
  cases rt.user with
  | none =>
    exact monitored_bind.2 (followed_opened rfl hs (fun _ => ⟨rfl, rfl, rfl⟩) fun user ht =>
      hcoordinates ht)
  | some configured =>
    refine monitored_bind.2 (monitored_ofExcept.2 ⟨fun coordinates _ => ?_, fun _ _ => hs.raised _⟩)
    refine monitored_bind.2 (followed_opened rfl hs (fun _ => ⟨rfl, rfl, rfl⟩) fun user ht => ?_)
    exact monitored_bind.2 (monitored_ofExcept.2 ⟨fun _ _ => monitored_ite (fun _ => ht.raised _)
      fun _ => hcoordinates ht, fun _ _ => ht.raised _⟩)

theorem followed_bindRuntimeScope {identityScope : String} (hs : Opened ws s) :
    Followed rt plan (bindRuntimeScope identityScope) (fun _ => Opened ws) s := by
  refine monitored_bind.2 (followed_opened rfl hs (fun _ => ⟨rfl, rfl, rfl⟩) fun pinned ht => ?_)
  cases pinned with
  | none => exact followed_opened rfl ht (fun _ => ⟨rfl, rfl, rfl⟩) fun _ hu => hu
  | some pinned => exact monitored_ite (fun _ => ht.raised _) fun _ => ht

/-- The user of an operation has the scope of its handle. -/
theorem followed_bindUser {handle : DatasetHandle} (hs : Opened ws s) :
    Followed rt plan (rt.bindUser handle) (fun user t =>
      Opened ws t ∧ physicalIdentityScope user = .ok handle.identityScope) s := by
  refine monitored_bind.2 ((followed_resolveActingUser hs).mono (fun user t ht => ?_)
    fun _ _ => id)
  refine monitored_bind.2 (monitored_ofExcept.2 ⟨fun identityScope hscope => ?_,
    fun _ _ => ht.raised _⟩)
  exact monitored_bind.2 ((followed_bindRuntimeScope ht).mono (fun _ t ht => monitored_ite
    (fun _ => ht.raised _) fun heq => ⟨ht, not_not.1 heq ▸ hscope⟩) fun _ _ => id)

/-- No dataset id is found where no dataset is owned. -/
theorem ownedDatasetId_none {name : String} {coordinates : UUID × Option UUID}
    {datasets : List SdkDataset} (h : ownedDatasetId name coordinates datasets = .ok none) :
    ∀ dataset ∈ datasets, ¬dataset.Owned name coordinates := by
  rw [ownedDatasetId, bind_eq_ok] at h
  obtain ⟨found, hfound, h⟩ := h
  have hfilter := (ownedMatches_ok_iff.1 hfound).2
  cases found with
  | nil => simpa [List.filter_eq_nil_iff] using hfilter
  | cons dataset rest => cases rest <;> cases h

/-- A handle without a dataset id is returned only where the listing has no such dataset. -/
theorem followed_resolveDatasetForUser {name tenant identityScope : String} {user : SdkUser}
    (hs : Opened ws s) : Followed rt plan (resolveDatasetForUser name tenant user identityScope)
      (fun handle t => Opened ws t ∧ (handle.datasetId = none → ∃ datasets,
        t.listings.getLast? = some ⟨user, datasets, t.writes⟩ ∧ ∀ coordinates,
          userCoordinates user = .ok coordinates →
            ∀ dataset ∈ datasets, ¬dataset.Owned name coordinates)) s := by
  refine monitored_bind.2 (monitored_ofExcept.2 ⟨fun coordinates hcoordinates => ?_,
    fun _ _ => hs.raised _⟩)
  refine monitored_bind.2 (followed_opened rfl hs (fun _ => ⟨rfl, rfl, rfl⟩) fun datasets ht => ?_)
  refine monitored_bind.2 (monitored_ofExcept.2 ⟨fun datasetId hid => ?_, fun _ _ => ht.raised _⟩)
  refine monitored_ofExcept.2 ⟨fun handle hinit => ⟨ht, fun hnone => ?_⟩, fun _ _ => ht.raised _⟩
  obtain rfl : datasetId = none := (datasetHandle_init hinit).2.2.symm.trans hnone
  have hlisting : (add rt s ⟨.listDatasets user, .ok datasets⟩).listings.getLast? =
      some ⟨user, datasets, s.writes ++ []⟩ := by
    rw [List.append_nil]
    exact List.getLast?_concat
  refine ⟨datasets, hlisting, fun coordinates' hcoordinates' => ?_⟩
  obtain rfl := Except.ok.inj (hcoordinates.symm.trans hcoordinates')
  exact ownedDatasetId_none hid

/-- A handle resolves to one without a dataset id only where its dataset does not exist. -/
theorem followed_ensureResolved {handle : DatasetHandle} {user : SdkUser} (hs : Opened ws s)
    (hscope : physicalIdentityScope user = .ok handle.identityScope) :
    Followed rt plan (rt.ensureResolved handle user)
      (fun handle' t => Opened ws t ∧ (handle'.datasetId = none → Lacks handle t)) s := by
  refine monitored_bind.2 ((followed_validateHandle_opened hs).mono (fun _ t ht => ?_)
    fun _ _ => id)
  cases hid : handle.datasetId with
  | some datasetId => exact ⟨ht, fun h => by cases hid.symm.trans h⟩
  | none =>
    refine (followed_resolveDatasetForUser ht).mono (fun _ t ht => ⟨ht.1, fun h => ?_⟩)
      fun _ _ => id
    obtain ⟨datasets, hlisting, howned⟩ := ht.2 h
    exact ⟨hid, _, hlisting, rfl, hscope, howned⟩

/-- What an operation does with the user and the resolved dataset, after its handle was checked. -/
theorem followed_bound {α : Type} {handle : DatasetHandle} {Q : α → SdkProgress → Prop}
    {f : SdkUser → DatasetHandle → LocalProgram α} (hs : Opening ws s)
    (hf : ∀ user handle' t, Opened ws t → (handle'.datasetId = none → Lacks handle t) →
      Followed rt plan (f user handle') Q t) :
    Followed rt plan (do
      rt.ensureReady
      let user ← rt.bindUser handle
      let handle' ← rt.ensureResolved handle user
      f user handle') Q s := by
  refine monitored_bind.2 ((followed_ensureReady hs).mono (fun _ t ht => ?_) fun _ _ => id)
  refine monitored_bind.2 ((followed_bindUser ht).mono (fun user t ht => ?_) fun _ _ => id)
  exact monitored_bind.2 ((followed_ensureResolved ht.1 ht.2).mono (fun handle' t ht =>
    hf user handle' t ht.1 ht.2) fun _ _ => id)

/-! ## Pipelines -/

/-- A pipeline between two validations of the embedding dimensions. -/
theorem followed_pipeline {c : LocalCall} {w : SdkWrite} {check : c.Response → Except PyError Unit}
    (hc : match c with
      | .add _ _ | .cognify _ _ _ => True
      | _ => False) (hw : c.write? = some w) (hs : Opened ws s) (hplan : ws ++ [w] <+: plan) :
    Followed rt plan (do
      let () ← sdk .validateEmbeddingDimensions
      let result ← sdk c
      ofExcept (check result)
      sdk .validateEmbeddingDimensions) (fun _ => Opened (ws ++ [w])) s := by
  refine monitored_bind.2 (followed_opened rfl hs (fun _ => ⟨rfl, rfl, rfl⟩) fun _ ht => ?_)
  have hvalidated : (add rt s ⟨.validateEmbeddingDimensions, .ok ()⟩).validated = true := rfl
  revert ht hvalidated
  generalize add rt s ⟨.validateEmbeddingDimensions, .ok ()⟩ = t
  intro ht hvalidated
  have hallows : Allows plan c t := by
    refine ⟨?_, fun w' hw' => ?_, fun _ => ht.entered⟩
    · cases c <;> first | exact hc.elim | exact ⟨.inl ht.failed, fun _ => ht.uses, hvalidated⟩
    · rw [hw] at hw'
      exact Option.some.inj hw' ▸ ht.writes.symm ▸ hplan
  -- The changes are made, but for the second validation.
  have hrun (v : c.Response) :
      Opened (ws ++ [w]) { add rt t ⟨c, .ok v⟩ with pipelined := false } := by
    cases c <;> first | exact hc.elim | skip
    all_goals
      cases hw
      exact ⟨⟨ht.failed, ht.context, ht.entered, rfl, congrArg (· ++ _) ht.writes⟩, ht.sdkMode,
        ht.ownRoots, ht.ready⟩
  refine monitored_bind.2 (monitored_call hallows (fun result => ?_) fun e => ?_)
  · have hu := hrun result
    revert hu
    generalize add rt t ⟨c, .ok result⟩ = u
    intro hu
    refine monitored_bind.2 (monitored_ofExcept.2 ⟨fun _ _ => ?_, fun e _ =>
      ⟨(hu.raised e).failed, hu.context⟩⟩)
    exact monitored_call (Permits.allows ⟨.inl hu.failed, fun h => h.elim, trivial⟩ rfl id)
      (fun _ => ⟨⟨hu.failed, hu.context, hu.entered, rfl, (List.append_nil _).trans hu.writes⟩,
        hu.sdkMode, hu.ownRoots, hu.ready⟩)
      fun e => ⟨fun e' he' => Option.some.inj he', hu.context⟩
  · cases c <;> first | exact hc.elim | exact ⟨fun e' he' => Option.some.inj he', ht.context⟩

theorem followed_addGroups {handle : DatasetHandle} {user : SdkUser}
    (groups : List (GroupKey × List DocumentPayload)) (hs : Opened ws s)
    (hplan : ws ++ groups.map (fun group => .add (groupRequest handle group)) <+: plan) :
    Followed rt plan (addGroups handle user groups)
      (fun _ => Opened (ws ++ groups.map fun group => .add (groupRequest handle group))) s := by
  induction groups generalizing ws s with
  | nil =>
    rw [List.map_nil, List.append_nil]
    exact hs
  | cons group groups ih =>
    rw [List.map_cons, List.append_cons] at hplan ⊢
    exact monitored_bind.2 ((followed_pipeline (c := .add (groupRequest handle group) user) trivial
      rfl hs ((List.prefix_append _ _).trans hplan)).mono (fun _ t ht => ih ht hplan) fun _ _ => id)

/-! ## Forgetting -/

/-- Documents are forgotten in a database context. -/
structure Forgetting (datasetId userId : UUID) (ws : List SdkWrite) (s : SdkProgress) : Prop where
  failed : s.failed = none
  context : s.context = some (datasetId, userId)
  pipelined : s.pipelined = false
  uses : s.sdkMode ∧ s.ownRoots ∧ s.ready
  writes : s.writes = ws

/-- A document is forgotten, unless the call fails. -/
theorem followed_forgetEach {datasetId userId : UUID} {memoryOnly : Bool} {user : SdkUser}
    (dataIds : List UUID) (hs : Forgetting datasetId userId ws s)
    (hplan : ws ++ dataIds.map (.forget · memoryOnly) <+: plan) :
    Monitored (add rt) (Allows plan) (forgetEach datasetId memoryOnly user dataIds)
      (fun _ => Forgetting datasetId userId (ws ++ dataIds.map (.forget · memoryOnly)))
      (fun e t => t.failed = some e ∧ t.context = some (datasetId, userId)) s := by
  induction dataIds generalizing ws s with
  | nil =>
    rw [List.map_nil, List.append_nil]
    exact hs
  | cons dataId dataIds ih =>
    rw [List.map_cons, List.append_cons] at hplan ⊢
    have hallows : Allows plan (.forget dataId datasetId memoryOnly user) s := by
      refine ⟨⟨.inl hs.failed, fun _ => hs.uses, userId, hs.context⟩, fun w hw => ?_,
        fun h => h.elim⟩
      obtain rfl := Option.some.inj hw
      exact hs.writes ▸ (List.prefix_append _ _).trans hplan
    have hnext (r : Except PyError Unit)
        (hr : LocalCall.failure (.forget dataId datasetId memoryOnly user) r = none) :
        Forgetting datasetId userId (ws ++ [.forget dataId memoryOnly])
          (add rt s ⟨.forget dataId datasetId memoryOnly user, r⟩) := by
      refine ⟨?_, hs.context, hs.pipelined, hs.uses, congrArg (· ++ _) hs.writes⟩
      simp only [add, hr, hs.failed, Option.or_none]
    refine monitored_bind.2 (monitored_handle.2 (monitored_call hallows
      (fun _ => ih (hnext (.ok ()) rfl) hplan) fun e => ?_))
    by_cases he : e.kind = .datasetNotFound
    · rw [if_pos he]
      exact ih (hnext (.error e) (if_pos he)) hplan
    · rw [if_neg he]
      refine ⟨?_, hs.context⟩
      simp only [add, LocalCall.failure, if_neg he, Option.some_or]

theorem followed_forgetDocuments {handle : DatasetHandle} {dataIds : List UUID} {memoryOnly : Bool}
    (hs : Opening [] s) :
    Followed rt (dataIds.map (.forget · memoryOnly)) (rt.forgetDocuments handle dataIds memoryOnly)
      (fun _ => Returned (dataIds.map (.forget · memoryOnly)) (Lacks handle)) s := by
  refine monitored_bind.2 ((followed_validateHandle hs).mono (fun _ t ht => ?_) fun _ _ => id)
  replace ht := ht.1
  refine monitored_ite (fun hempty => ?_) fun _ => ?_
  · rw [List.isEmpty_iff.1 hempty]
    exact ht.returned
  refine followed_bound ht fun user handle' t ht hlacks => ?_
  cases hid : handle'.datasetId with
  | none => exact ht.idle (hlacks hid)
  | some datasetId =>
    refine monitored_bind.2 (monitored_ofExcept.2 ⟨fun coordinates _ => ?_,
      fun _ _ => ht.raised _⟩)
    refine monitored_bind.2 (monitored_call
      ⟨⟨.inl ht.failed, fun _ => ht.uses, ht.context⟩, fun _ h => (by cases h), fun _ => ht.entered⟩
      (fun _ => ?_) fun e => ⟨fun e' he' => Option.some.inj he', ht.context⟩)
    have hentered : Forgetting datasetId coordinates.1 []
        (add rt t ⟨.enterDatabaseContext datasetId coordinates.1, .ok ()⟩) :=
      ⟨ht.failed, rfl, ht.pipelined, ht.uses, (List.append_nil _).trans ht.writes⟩
    -- The context is left on every path, and a failure to leave it is the last one.
    refine monitored_finally.2 ((followed_forgetEach dataIds hentered List.prefix_rfl).mono
      (fun _ t ht => ?_) fun e t ht => ?_)
    · exact monitored_call (Permits.allows ⟨.inl ht.failed, fun h => h.elim, ht.context⟩ rfl id)
        (fun _ => ⟨ht.failed, rfl, ht.pipelined, .inl ((List.append_nil _).trans ht.writes)⟩)
        fun e => ⟨fun e' he' => Option.some.inj he', rfl⟩
    · exact monitored_call (Permits.allows ⟨.inr trivial, fun h => h.elim, ht.2⟩ rfl id)
        (fun _ => ⟨fun e' he' => Option.some.inj (ht.1.symm.trans he'), rfl⟩)
        fun e => ⟨fun e' he' => Option.some.inj he', rfl⟩

/-! ## Operations -/

/-- An add of any payloads returns a handle that knows its dataset. -/
theorem followed_addDocuments {handle : DatasetHandle} {payloads : List DocumentPayload}
    (hs : Opening [] s) :
    Followed rt (Operation.addDocuments handle payloads).writes (rt.addDocuments handle payloads)
      (fun handle' t => Returned (Operation.addDocuments handle payloads).writes lacks t ∧
        (payloads ≠ [] → handle'.datasetId ≠ none)) s := by
  refine monitored_bind.2 ((followed_validateHandle hs).mono (fun _ t ht => ?_) fun _ _ => id)
  replace ht := ht.1
  refine monitored_ite (fun hempty => ?_) fun _ => ?_
  · have hnone : payloadGroups [] = [] := by simp [payloadGroups]
    rw [List.isEmpty_iff.1 hempty, Operation.writes, hnone]
    exact ⟨ht.returned, fun h => absurd rfl h⟩
  refine monitored_bind.2 ((followed_ensureReady ht).mono (fun _ t ht => ?_) fun _ _ => id)
  refine monitored_bind.2 ((followed_bindUser ht).mono (fun user t ht => ?_) fun _ _ => id)
  refine monitored_bind.2 ((followed_addGroups _ ht.1 List.prefix_rfl).mono (fun _ t ht => ?_)
    fun _ _ => id)
  cases hid : handle.datasetId with
  | some datasetId => exact ⟨ht.returned, fun _ h => by rw [hid] at h; cases h⟩
  | none =>
    refine monitored_bind.2 ((followed_resolveDatasetForUser ht).mono (fun handle' t ht => ?_)
      fun _ _ => id)
    replace ht := ht.1
    exact monitored_ite (fun _ => ht.raised _) fun hsome =>
      ⟨ht.returned, fun _ h => hsome (Option.isNone_iff_eq_none.2 h)⟩

theorem followed_cognifyDataset {handle : DatasetHandle} {profile : CognifyProfile}
    (hs : Opening [] s) :
    Followed rt [.cognify (cognifyKwargs profile)] (rt.cognifyDataset handle profile)
      (fun _ => Returned [.cognify (cognifyKwargs profile)] (Lacks handle)) s := by
  refine monitored_bind.2 ((followed_validateHandle hs).mono (fun _ t ht => ?_) fun _ _ => id)
  refine followed_bound ht.1 fun user handle' t ht hlacks => ?_
  cases hid : handle'.datasetId with
  | none => exact ht.idle (hlacks hid)
  | some datasetId =>
    exact (followed_pipeline (c := .cognify _ _ user) trivial rfl ht List.prefix_rfl).mono
      (fun _ t ht => ht.returned) fun _ _ => id

theorem followed_teardownDataset {handle : DatasetHandle} (hs : Opening [] s) :
    Followed rt [.forgetDataset] (rt.teardownDataset handle)
      (fun _ => Returned [.forgetDataset] (Lacks handle)) s := by
  refine monitored_bind.2 ((followed_validateHandle hs).mono (fun _ t ht => ?_) fun _ _ => id)
  refine followed_bound ht.1 fun user handle' t ht hlacks => ?_
  cases hid : handle'.datasetId with
  | none => exact ht.idle (hlacks hid)
  | some datasetId =>
    have hallows : Allows [.forgetDataset] (.forgetDataset datasetId user) t := by
      refine ⟨⟨.inl ht.failed, fun _ => ht.uses, trivial⟩, fun w hw => ?_, fun h => h.elim⟩
      obtain rfl := Option.some.inj hw
      rw [ht.writes]
      exact List.prefix_rfl
    have hwrites : t.writes ++ [.forgetDataset] = [.forgetDataset] := congrArg (· ++ _) ht.writes
    refine monitored_handle.2 (monitored_call hallows
      (fun _ => ⟨ht.failed, ht.context, ht.pipelined, .inl hwrites⟩) fun e => ?_)
    by_cases he : e.kind = .datasetNotFound
    · rw [if_pos he]
      refine ⟨?_, ht.context, ht.pipelined, .inl hwrites⟩
      simp only [add, LocalCall.failure, if_pos he, ht.failed, Option.or_none]
    · rw [if_neg he]
      refine ⟨fun e' he' => ?_, ht.context⟩
      simp only [add, LocalCall.failure, if_neg he, Option.some_or] at he'
      exact Option.some.inj he'

theorem followed_listDocuments {handle : DatasetHandle} (hs : Opening [] s) :
    Followed rt [] (rt.listDocuments handle) (fun _ => Returned [] lacks) s := by
  refine monitored_bind.2 ((followed_validateHandle hs).mono (fun _ t ht => ?_) fun _ _ => id)
  refine followed_bound ht.1 fun user handle' t ht _ => ?_
  cases handle'.datasetId with
  | none => exact ht.returned
  | some datasetId =>
    exact monitored_bind.2 (followed_opened rfl ht (fun _ => ⟨rfl, rfl, rfl⟩)
      fun _ ht => ht.returned)

theorem followed_resolveDataset {name tenant : String} (hs : Opening [] s) :
    Followed rt [] (rt.resolveDataset name tenant) (fun _ => Returned [] lacks) s := by
  refine monitored_bind.2 (monitored_ofExcept.2 ⟨fun _ _ => ?_, fun _ _ => hs.raised _⟩)
  refine monitored_bind.2 (monitored_ofExcept.2 ⟨fun _ _ => ?_, fun _ _ => hs.raised _⟩)
  refine monitored_bind.2 ((followed_ensureReady hs).mono (fun _ t ht => ?_) fun _ _ => id)
  refine monitored_bind.2 ((followed_resolveActingUser ht).mono (fun user t ht => ?_)
    fun _ _ => id)
  refine monitored_bind.2 (monitored_ofExcept.2 ⟨fun identityScope _ => ?_,
    fun _ _ => ht.raised _⟩)
  refine monitored_bind.2 ((followed_bindRuntimeScope ht).mono (fun _ t ht => ?_) fun _ _ => id)
  exact (followed_resolveDatasetForUser ht).mono (fun _ t ht => ht.1.returned) fun _ _ => id

theorem followed_datasetLock {handle : DatasetHandle} (hs : Opening [] s) :
    Followed rt [] (rt.datasetLock handle)
      (fun scope t => Returned [] lacks t ∧ scope = lockScope handle) s :=
  monitored_bind.2 ((followed_validateHandle hs).mono (fun _ _ ht => ⟨ht.1.returned, rfl⟩)
    fun _ _ => id)

end SdkProgress

end

end Cogindex
