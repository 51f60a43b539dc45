import Cogindex.PipelineRuns
import Cogindex.Runtime

/-!
# The in-process runtime

`LocalCogneeRuntime` acts as one Cognee user. Cognee decides who that user is
each time it is asked, so every operation resolves the user anew, pins the
physical scope of the first one, and passes that very user on.

The operations are coroutines over the calls into the SDK and over the two
attributes of an instance that change (`LocalCall`). A `LocalStep` answers an
access to an attribute from the state of the instance, and a call into the SDK
in any way whatsoever.
-/

namespace Cogindex

section

variable [Platform]

/-! ## Objects of the SDK -/

/-- An attribute of an object: it may be missing, `None`, a UUID, or anything else. -/
inductive SdkAttribute
  | missing
  | none
  | uuid (u : UUID)
  | other
  deriving DecidableEq

/-- A `User` of Cognee. -/
structure SdkUser where
  id : SdkAttribute
  tenantId : SdkAttribute

/-- A `Dataset` of Cognee. -/
structure SdkDataset where
  id : UUID
  name : String
  ownerId : SdkAttribute
  tenantId : SdkAttribute

/-- A `Data` row of Cognee: whether the pipeline completed for the dataset that was listed. -/
structure SdkData where
  id : UUID
  label : Option String
  externalMetadata : Metadata
  cognifyComplete : Bool

/-- A `DataItem`, with its upload: a file name and bytes. -/
structure DataItem where
  filename : String
  data : List UInt8
  label : Option String
  externalMetadata : Metadata
  dataId : UUID

/-- The arguments of `cognee.add` but for the user. -/
structure AddRequest where
  items : List DataItem
  datasetName : String
  incrementalLoading : Bool
  dataCache : Bool
  nodeSet : Option (List String)
  importanceWeight : Option PyFloat
  datasetId : Option UUID

/-- The id and the active tenant of a user. -/
def userCoordinates (user : SdkUser) : Except PyError (UUID × Option UUID) :=
  match user.id, user.tenantId with
  | .uuid userId, .none => .ok (userId, none)
  | .uuid userId, .uuid tenantId => .ok (userId, some tenantId)
  | .uuid _, .missing => .error ⟨.runtimeError, "the acting Cognee User has no tenant_id attribute"⟩
  | .uuid _, .other =>
    .error ⟨.runtimeError, "the acting Cognee User tenant_id is neither UUID nor None"⟩
  | _, _ => .error ⟨.runtimeError, "the acting Cognee User has no UUID id"⟩

/-- The physical scope of the coordinates of a user. -/
def identityScopeOf (coordinates : UUID × Option UUID) : String := canonicalJoin
  ["cognee-user-tenant-v1", Platform.uuidStr coordinates.1,
    coordinates.2.elim "none" Platform.uuidStr]

/-- The physical scope of a user. -/
def physicalIdentityScope (user : SdkUser) : Except PyError String :=
  return identityScopeOf (← userCoordinates user)

/-- The tenant of a dataset. -/
def datasetTenantId (dataset : SdkDataset) : Except PyError (Option UUID) :=
  match dataset.tenantId with
  | .missing => .error ⟨.runtimeError, "Cognee returned a Dataset without tenant_id"⟩
  | .none => .ok none
  | .uuid tenantId => .ok (some tenantId)
  | .other => .error ⟨.runtimeError, "Cognee returned a Dataset with an invalid tenant_id"⟩

/-- The `repr` of a tuple or a list, from those of its items. -/
def sequenceRepr (opening closing : String) (items : List String) : String :=
  opening ++ String.intercalate ", " items ++ closing

/-- The dataset has a name, and the user owns it in its active tenant. -/
def isOwnedMatch (name : String) (coordinates : UUID × Option UUID) (dataset : SdkDataset) :
    Except PyError Bool :=
  match dataset.ownerId with
  | .uuid ownerId =>
    if dataset.name = name ∧ ownerId = coordinates.1 then do
      return decide ((← datasetTenantId dataset) = coordinates.2)
    else .ok false
  | _ => .ok false

/-- The datasets with a name that the user owns in its active tenant. -/
def ownedMatches (name : String) (coordinates : UUID × Option UUID) :
    List SdkDataset → Except PyError (List SdkDataset)
  | [] => .ok []
  | dataset :: datasets => do
    let owned ← isOwnedMatch name coordinates dataset
    let rest ← ownedMatches name coordinates datasets
    return if owned then dataset :: rest else rest

/-- The id of the one dataset with a name that the user owns, if there is one. -/
def ownedDatasetId (name : String) (coordinates : UUID × Option UUID)
    (datasets : List SdkDataset) : Except PyError (Option UUID) := do
  match ← ownedMatches name coordinates datasets with
  | [] => return none
  | [dataset] => return some dataset.id
  | found => throw ⟨.runtimeError, "multiple Cognee datasets named " ++ Platform.strRepr name ++
      " are owned by the acting user in its active tenant: " ++ sequenceRepr "[" "]"
        (((found.map fun dataset => Platform.uuidStr dataset.id).insertionSort (· ≤ ·)).map
          Platform.strRepr)⟩

/-! ## Calls -/

/-- The arguments of `cognee.cognify()` that a profile sets; `none` for one that
    is omitted. -/
structure CognifyKwargs where
  graphModel : Option PyType
  chunker : Option PyType
  chunkSize : Option ℕ
  customPrompt : Option String
  temporalCognify : Option Bool

/-- The arguments that are passed for a profile: those that are not `None`, and
    the temporal mode if it is on. -/
def cognifyKwargs (profile : CognifyProfile) : CognifyKwargs where
  graphModel := profile.graphModel
  chunker := profile.chunker
  chunkSize := profile.chunkSize
  customPrompt := profile.customPrompt
  temporalCognify := if profile.temporalCognify then some true else none

/-- What an instance does outside itself, and its accesses to the attributes
    that change. -/
inductive LocalCall
  | getIdentityScope
  | setIdentityScope (identityScope : String)
  | getSetupDone
  | setSetupDone
  /-- `ensure_local_sdk_mode`. -/
  | ensureLocalSdkMode
  /-- The effective data and system roots. -/
  | storageRoots
  | ensureDatabasesReady
  | validateEmbeddingDimensions
  | resolveDefaultUser
  | resolveUser (userId : UUID)
  | listDatasets (user : SdkUser)
  | add (request : AddRequest) (user : SdkUser)
  | cognify (datasetId : UUID) (kwargs : CognifyKwargs) (user : SdkUser)
  /-- `cognee.forget` of a document. -/
  | forget (dataId datasetId : UUID) (memoryOnly : Bool) (user : SdkUser)
  /-- `cognee.forget` of a dataset. -/
  | forgetDataset (datasetId : UUID) (user : SdkUser)
  | listData (datasetId : UUID) (user : SdkUser)
  /-- Entering the database context of a dataset. -/
  | enterDatabaseContext (datasetId userId : UUID)
  | exitDatabaseContext (datasetId userId : UUID)

namespace LocalCall

/-- What a call returns. -/
@[reducible] def Response : LocalCall → Type
  | getIdentityScope => Option String
  | getSetupDone => Bool
  | storageRoots => Option String × Option String
  | resolveDefaultUser => SdkUser
  | resolveUser _ => SdkUser
  | listDatasets _ => List SdkDataset
  | add _ _ => RunInfo
  | cognify _ _ _ => RunInfo
  | listData _ _ => List SdkData
  | _ => Unit

end LocalCall

/-- A coroutine of an instance. -/
abbrev LocalProgram : Type → Type := Coroutine LocalCall LocalCall.Response PyError

/-- Awaiting a call. -/
abbrev sdk (c : LocalCall) : LocalProgram c.Response := Coroutine.call c

/-- What never changes in an instance. -/
structure LocalCogneeRuntime where
  dataRoot : String
  systemRoot : String
  /-- The explicit user; nothing for the default user of Cognee. -/
  user : Option SdkUser

/-! ## Checks -/

/-- The name of a dataset. -/
def validateDatasetName (name : String) : Except PyError Unit :=
  if name = "" then .error ⟨.valueError, "dataset name must be non-empty"⟩
  else if '\x00' ∈ name.toList then
    .error ⟨.valueError, "dataset name must not contain NUL characters"⟩
  else .ok ()

/-- The only connector tenant of this runtime. -/
def validateTenant (tenant : String) : Except PyError Unit :=
  if tenant = "default" then .ok ()
  else .error ⟨.valueError, "LocalCogneeRuntime supports only tenant " ++
    Platform.strRepr "default" ++ ", got " ++ Platform.strRepr tenant⟩

namespace LocalCogneeRuntime

open Coroutine

variable (rt : LocalCogneeRuntime)

/-- The roots of the process are those of the instance. -/
def assertStorageRoots : LocalProgram Unit := do
  let effective ← sdk .storageRoots
  if effective ≠ (some rt.dataRoot, some rt.systemRoot) then
    let optionRepr (root : Option String) : String := root.elim "None" Platform.strRepr
    raise ⟨.runtimeError,
      "Cognee's process-global storage roots changed after runtime construction: expected " ++
        sequenceRepr "(" ")" [Platform.strRepr rt.dataRoot, Platform.strRepr rt.systemRoot] ++
        ", found " ++ sequenceRepr "(" ")" [optionRepr effective.1, optionRepr effective.2]⟩

/-- The database structures, created once. -/
def ensureReady : LocalProgram Unit := do
  let () ← sdk .ensureLocalSdkMode
  rt.assertStorageRoots
  if !(← sdk .getSetupDone) then
    let () ← sdk .ensureDatabasesReady
    sdk .setSetupDone

/-- A handle of this instance. -/
def validateHandle (handle : DatasetHandle) : LocalProgram Unit := do
  ofExcept (validateDatasetName handle.name)
  ofExcept (validateTenant handle.tenant)
  match ← sdk .getIdentityScope with
  | none => raise ⟨.runtimeError,
      "dataset handle must come from resolve_dataset() on this runtime"⟩
  | some identityScope =>
    if handle.identityScope ≠ identityScope then
      raise ⟨.valueError, "dataset handle identity_scope does not match this LocalCogneeRuntime"⟩
    else rt.assertStorageRoots

/-- The user as it is now. -/
def resolveActingUser : LocalProgram SdkUser := do
  let user ← match rt.user with
    | none => sdk .resolveDefaultUser
    | some configured => do
      let coordinates ← ofExcept (userCoordinates configured)
      let user ← sdk (.resolveUser coordinates.1)
      if (← ofExcept (userCoordinates user)) ≠ coordinates then
        raise ⟨.runtimeError, "the configured Cognee user's active tenant changed; " ++
          "construct a new LocalCogneeRuntime with a freshly resolved User"⟩
      else ret user
  let _ ← ofExcept (userCoordinates user)
  return user

/-- Pinning the scope of the first user; another scope is rejected. -/
def bindRuntimeScope (identityScope : String) : LocalProgram Unit := do
  match ← sdk .getIdentityScope with
  | none => sdk (.setIdentityScope identityScope)
  | some pinned =>
    if pinned ≠ identityScope then
      raise ⟨.runtimeError, "the acting Cognee user or active tenant changed after this " ++
        "runtime first resolved a dataset"⟩
    else ret ()

/-- The user as it is now, if it is the one of the handle. -/
def bindUser (handle : DatasetHandle) : LocalProgram SdkUser := do
  let user ← rt.resolveActingUser
  let identityScope ← ofExcept (physicalIdentityScope user)
  bindRuntimeScope identityScope
  if identityScope ≠ handle.identityScope then
    raise ⟨.runtimeError, "the acting Cognee user or active tenant changed after dataset " ++
      "resolution; no SDK operation was attempted"⟩
  else ret user

/-- A handle for the dataset with a name that the user owns. -/
def resolveDatasetForUser (name tenant : String) (user : SdkUser) (identityScope : String) :
    LocalProgram DatasetHandle := do
  let coordinates ← ofExcept (userCoordinates user)
  let datasets ← sdk (.listDatasets user)
  let datasetId ← ofExcept (ownedDatasetId name coordinates datasets)
  ofExcept (DatasetHandle.init name tenant identityScope datasetId)

/-- A handle with a dataset id, if there is one. -/
def ensureResolved (handle : DatasetHandle) (user : SdkUser) : LocalProgram DatasetHandle := do
  rt.validateHandle handle
  match handle.datasetId with
  | some _ => ret handle
  | none => resolveDatasetForUser handle.name handle.tenant user handle.identityScope

/-! ## Operations -/

def resolveDataset (name tenant : String) : LocalProgram DatasetHandle := do
  ofExcept (validateDatasetName name)
  ofExcept (validateTenant tenant)
  rt.ensureReady
  let user ← rt.resolveActingUser
  let identityScope ← ofExcept (physicalIdentityScope user)
  bindRuntimeScope identityScope
  resolveDatasetForUser name tenant user identityScope

/-- The parameters of an add that are not those of a document. -/
abbrev GroupKey : Type := Option (List String) × Option PyFloat

/-- Equality of keys of a dict. -/
def groupKeyEq (k k' : GroupKey) : Bool :=
  decide (k.1 = k'.1) && (match k.2, k'.2 with
    | none, none => true
    | some x, some y => Platform.floatEq x y
    | _, _ => false)

/-- The `repr` of the key of a group. -/
def groupKeyRepr (k : GroupKey) : String :=
  let nodes := k.1.elim "None" fun
    | [node] => "(" ++ Platform.strRepr node ++ ",)"
    | nodes => sequenceRepr "(" ")" (nodes.map Platform.strRepr)
  sequenceRepr "(" ")" [nodes, k.2.elim "None" Platform.floatRepr]

/-- A payload joins the first group of its key, or starts one. -/
def joinGroup (payload : DocumentPayload) :
    List (GroupKey × List DocumentPayload) → List (GroupKey × List DocumentPayload)
  | [] => [((payload.nodeSet, payload.importanceWeight), [payload])]
  | group :: groups =>
    if groupKeyEq group.1 (payload.nodeSet, payload.importanceWeight) then
      (group.1, group.2 ++ [payload]) :: groups
    else group :: joinGroup payload groups

/-- The groups of an add, in the order of the `repr` of their keys. -/
def payloadGroups (payloads : List DocumentPayload) : List (GroupKey × List DocumentPayload) :=
  (payloads.foldl (fun groups payload => joinGroup payload groups) []).mergeSort
    fun g g' => decide (groupKeyRepr g.1 ≤ groupKeyRepr g'.1)

/-- The item of a payload: its content as an explicit upload. -/
def dataItem (payload : DocumentPayload) : DataItem where
  filename := "cogindex-" ++ Platform.uuidStr payload.dataId ++ ".txt"
  data := match payload.content with
    | .str s => utf8 s
    | .bytes b => b
  label := payload.label
  externalMetadata := payload.externalMetadata
  dataId := payload.dataId

/-- The add of one group. -/
def addGroup (handle : DatasetHandle) (user : SdkUser) (group : GroupKey × List DocumentPayload) :
    LocalProgram Unit := do
  let () ← sdk .validateEmbeddingDimensions
  let result ← sdk (.add
    { items := group.2.map dataItem
      datasetName := handle.name
      incrementalLoading := false
      dataCache := false
      nodeSet := group.1.1
      importanceWeight := group.1.2
      datasetId := handle.datasetId } user)
  ofExcept (raiseOnErroredRuns result "add" handle.name (some group.2.length) handle.datasetId)
  sdk .validateEmbeddingDimensions

/-- The adds of groups, one after the other. -/
def addGroups (handle : DatasetHandle) (user : SdkUser) :
    List (GroupKey × List DocumentPayload) → LocalProgram Unit
  | [] => ret ()
  | group :: groups => do
    addGroup handle user group
    addGroups handle user groups

def addDocuments (handle : DatasetHandle) (payloads : List DocumentPayload) :
    LocalProgram DatasetHandle := do
  rt.validateHandle handle
  if payloads.isEmpty then return handle
  rt.ensureReady
  let user ← rt.bindUser handle
  addGroups handle user (payloadGroups payloads)
  match handle.datasetId with
  | some _ => return handle
  | none =>
    -- The dataset materialized on the first add; its id is learnt now.
    let handle ← resolveDatasetForUser handle.name handle.tenant user handle.identityScope
    if handle.datasetId.isNone then
      raise ⟨.cogneePipelineError, "cognee add on dataset " ++ Platform.strRepr handle.name ++
        " reported completion without materializing the dataset"⟩
    else return handle

/-- Forgetting documents one after the other; a missing dataset is no error. -/
def forgetEach (datasetId : UUID) (memoryOnly : Bool) (user : SdkUser) :
    List UUID → LocalProgram Unit
  | [] => ret ()
  | dataId :: dataIds => do
    (sdk (.forget dataId datasetId memoryOnly user)).handle fun e =>
      if e.kind = .datasetNotFound then ret () else raise e
    forgetEach datasetId memoryOnly user dataIds

def forgetDocuments (handle : DatasetHandle) (dataIds : List UUID) (memoryOnly : Bool) :
    LocalProgram Unit := do
  rt.validateHandle handle
  if dataIds.isEmpty then return
  rt.ensureReady
  let user ← rt.bindUser handle
  let handle ← rt.ensureResolved handle user
  match handle.datasetId with
  | none => return
  | some datasetId =>
    let coordinates ← ofExcept (userCoordinates user)
    let () ← sdk (.enterDatabaseContext datasetId coordinates.1)
    (forgetEach datasetId memoryOnly user dataIds).finally'
      (sdk (.exitDatabaseContext datasetId coordinates.1))

def purgeDocumentMemory (handle : DatasetHandle) (dataIds : List UUID) : LocalProgram Unit :=
  rt.forgetDocuments handle dataIds true

def deleteDocuments (handle : DatasetHandle) (dataIds : List UUID) : LocalProgram Unit :=
  rt.forgetDocuments handle dataIds false

def cognifyDataset (handle : DatasetHandle) (profile : CognifyProfile) : LocalProgram Unit := do
  rt.validateHandle handle
  rt.ensureReady
  let user ← rt.bindUser handle
  let handle ← rt.ensureResolved handle user
  match handle.datasetId with
  | none => return
  | some datasetId =>
    let () ← sdk .validateEmbeddingDimensions
    let result ← sdk (.cognify datasetId (cognifyKwargs profile) user)
    ofExcept (raiseOnErroredRuns result "cognify" handle.name none (some datasetId))
    sdk .validateEmbeddingDimensions

def teardownDataset (handle : DatasetHandle) : LocalProgram Unit := do
  rt.validateHandle handle
  rt.ensureReady
  let user ← rt.bindUser handle
  let handle ← rt.ensureResolved handle user
  match handle.datasetId with
  | none => return
  | some datasetId =>
    (sdk (.forgetDataset datasetId user)).handle fun e =>
      if e.kind = .datasetNotFound then ret () else raise e

def listDocuments (handle : DatasetHandle) : LocalProgram (List StoredDocument) := do
  rt.validateHandle handle
  rt.ensureReady
  let user ← rt.bindUser handle
  let handle ← rt.ensureResolved handle user
  match handle.datasetId with
  | none => return []
  | some datasetId =>
    let rows ← sdk (.listData datasetId user)
    let documents := rows.map fun row : SdkData =>
      (⟨row.id, row.label, row.externalMetadata, row.cognifyComplete⟩ : StoredDocument)
    return documents.mergeSort fun d d' => decide (d.dataId ≤ d'.dataId)

/-- The scope of the lock of a dataset. -/
def lockScope (handle : DatasetHandle) : String :=
  canonicalJoin ["cogindex", handle.identityScope, handle.tenant, handle.name]

/-- The scope that the lock provider is asked for. -/
def datasetLock (handle : DatasetHandle) : LocalProgram String := do
  rt.validateHandle handle
  return lockScope handle

end LocalCogneeRuntime

end

end Cogindex
