import Cogindex.Runtime

/-!
# The in-memory Cognee

`FakeCogneeRuntime` emulates what the connector relies on in Cognee: datasets
that come into being with the first add, rows keyed by their `data_id`,
derivatives that stay when the content of a row changes, a weight that an add
does not update, and an incremental `cognify` that looks at nothing but the
completion of a row.

`FakeCogneeRuntime.perform` answers a call, with a `Fault` or without: a fault
raises before the call did anything, or after it took effect on a prefix of
its items. A failing hard delete may be torn, so that the derivatives of an
item are gone while its row stays, complete.
-/

namespace Cogindex

section

variable [Platform]

/-! ## Documents -/

/-- A stored document and the state of its derivatives: the fingerprints of the
    contents they were derived from, and the profile. -/
structure FakeDocument where
  payload : DocumentPayload
  cognifyComplete : Bool := false
  derivedFragments : Finset String := ∅
  derivedProfile : Option CognifyProfile := none

namespace FakeDocument

/-- Without derivatives, and to be cognified again. -/
def purge (d : FakeDocument) : FakeDocument :=
  { d with derivedFragments := ∅, derivedProfile := none, cognifyComplete := false }

/-- Without derivatives, but still complete: a torn hard delete. -/
def tear (d : FakeDocument) : FakeDocument :=
  { d with derivedFragments := ∅, derivedProfile := none }

/-- Cognifying derives the current content, and removes nothing; a complete
    document is skipped. -/
def cognify (profile : CognifyProfile) (d : FakeDocument) : FakeDocument :=
  if d.cognifyComplete then d
  else { d with
    derivedFragments := insert (fingerprintContent d.payload.content) d.derivedFragments
    derivedProfile := some profile
    cognifyComplete := true }

/-- Adding a payload, over a row or not. The weight of a row is not updated,
    and only a changed content makes it incomplete. -/
def add (payload : DocumentPayload) : Option FakeDocument → FakeDocument
  | none => { payload }
  | some existing =>
    { existing with
      payload := { payload with importanceWeight := existing.payload.importanceWeight }
      cognifyComplete := existing.cognifyComplete &&
        decide (fingerprintContent existing.payload.content = fingerprintContent payload.content) }

/-- The derivatives are absent, stale, or, where a profile is given, of another one. -/
def unconverged (profile : Option CognifyProfile) (d : FakeDocument) : Bool :=
  !d.cognifyComplete || decide (d.derivedFragments ≠ {fingerprintContent d.payload.content}) ||
    profile.any fun profile => d.derivedProfile ≠ some profile

end FakeDocument

/-! ## Datasets -/

/-- The rows of a dataset, by their `data_id`. -/
abbrev Documents : Type := Std.ExtTreeMap UUID FakeDocument

/-- A dataset. -/
structure FakeDataset where
  datasetId : UUID
  name : String
  tenant : String
  documents : Documents := ∅

/-- What a failing call did to an item. -/
inductive ItemEffect
  | done
  /-- For a hard delete, that the derivatives are gone; otherwise as `done`. -/
  | torn
  deriving DecidableEq

namespace Documents

/-- `_add_one`. -/
def addOne (ds : Documents) (payload : DocumentPayload) : Documents :=
  ds.insert payload.dataId (FakeDocument.add payload ds[payload.dataId]?)

/-- Adding payloads in their order. -/
def addAll (ds : Documents) (payloads : List DocumentPayload) : Documents :=
  payloads.foldl addOne ds

/-- Purging the derivatives of rows; those that do not exist are skipped. -/
def purgeAll (ds : Documents) (dataIds : List UUID) : Documents :=
  dataIds.foldl (fun ds i => ds.modify i FakeDocument.purge) ds

/-- What a hard delete does to a row. -/
def deleteOne (ds : Documents) (i : UUID) : ItemEffect → Documents
  | .done => ds.erase i
  | .torn => ds.modify i FakeDocument.tear

/-- Deleting rows, each completely or only its derivatives. -/
def deleteAll (ds : Documents) (items : List (UUID × ItemEffect)) : Documents :=
  items.foldl (fun ds item => ds.deleteOne item.1 item.2) ds

/-- Cognifying rows. -/
def cognifyAll (ds : Documents) (profile : CognifyProfile) (dataIds : List UUID) : Documents :=
  dataIds.foldl (fun ds i => ds.modify i (FakeDocument.cognify profile)) ds

end Documents

/-! ## The runtime -/

/-- The connector tenant and the name of a dataset. -/
abbrev TenantName : Type := String ×ₗ String

instance : Std.LawfulEqOrd TenantName := ⟨compare_eq_iff_eq.1⟩

/-- An entry of the log of calls. -/
structure CallEntry where
  op : String
  dataset : String
  detail : List String
  deriving DecidableEq

/-- The in-memory runtime. Its lock provider is a separate object. -/
structure FakeCogneeRuntime where
  datasets : Std.ExtTreeMap TenantName FakeDataset
  calls : List CallEntry
  identityScope : String
  identityScope_ok : Coordinate identityScope

/-- A scripted fault: the error it raises, and what the call did before, which
    is nothing at all (`none`), or what it does on the first of its items. -/
structure Fault where
  error : PyError
  effects : Option (List ItemEffect)

namespace FakeCogneeRuntime

/-- `FakeCogneeRuntime(identity_scope=...)`. -/
def init (identityScope : String) : Except PyError FakeCogneeRuntime := do
  let valid ← attachOk (validateCoordinate identityScope "identity_scope")
  return { datasets := ∅, calls := [], identityScope,
           identityScope_ok := validateCoordinate_ok_iff.1 valid.2 }

/-- The dataset of a connector tenant with a name. -/
def dataset (s : FakeCogneeRuntime) (tenant name : String) : Option FakeDataset :=
  s.datasets[toLex (tenant, name)]?

/-- A row of a dataset. -/
def document (s : FakeCogneeRuntime) (tenant name : String) (i : UUID) : Option FakeDocument :=
  (s.dataset tenant name).bind fun d => d.documents[i]?

/-- The ids of the documents that have not converged, in their order. -/
def unconvergedDocuments (s : FakeCogneeRuntime) (tenant name : String)
    (profile : Option CognifyProfile) : List UUID :=
  ((s.dataset tenant name).map fun d =>
    (d.documents.toList.filter fun e => e.2.unconverged profile).map Prod.fst).getD []

/-- The key of the dataset of a handle. -/
def keyOf (handle : DatasetHandle) : TenantName := toLex (handle.tenant, handle.name)

/-- Handles of another physical owner are rejected. -/
def validateHandle (s : FakeCogneeRuntime) (handle : DatasetHandle) : Except PyError Unit :=
  if handle.identityScope = s.identityScope then .ok ()
  else .error ⟨.valueError, "dataset handle identity_scope does not match this fake runtime"⟩

/-- Appending to the log. -/
def log (op : String) (handle : DatasetHandle) (detail : List String) (s : FakeCogneeRuntime) :
    FakeCogneeRuntime :=
  { s with calls := s.calls ++ [⟨op, handle.name, detail⟩] }

/-- Changing the rows of the dataset of a handle, if it exists. -/
def modifyRows (handle : DatasetHandle) (f : Documents → Documents) (s : FakeCogneeRuntime) :
    FakeCogneeRuntime :=
  { s with datasets := s.datasets.modify (keyOf handle) fun d =>
      { d with documents := f d.documents } }

/-- The dataset that the first add materializes, with a deterministic id. -/
def freshDataset (handle : DatasetHandle) : FakeDataset where
  datasetId := Platform.uuid5 Platform.namespaceOid
    (canonicalJoin ["fake-dataset", handle.tenant, handle.name])
  name := handle.name
  tenant := handle.tenant

/-- The dataset of a handle, or a new one. -/
def ensureDataset (handle : DatasetHandle) (s : FakeCogneeRuntime) : FakeDataset :=
  (s.datasets[keyOf handle]?).getD (freshDataset handle)

/-- A handle for the dataset with a name, whether it exists or not. -/
def resolveDataset (fault : Option Fault) (name tenant : String) (s : FakeCogneeRuntime) :
    Except PyError DatasetHandle × FakeCogneeRuntime :=
  match fault with
  | some f => (.error f.error, s)
  | none => (.ok { name, tenant, identityScope := s.identityScope,
                   datasetId := (s.dataset tenant name).map FakeDataset.datasetId,
                   identityScope_ok := s.identityScope_ok }, s)

/-- Adding payloads; the log has those that were applied. -/
def addDocuments (fault : Option Fault) (handle : DatasetHandle) (payloads : List DocumentPayload)
    (s : FakeCogneeRuntime) : Except PyError DatasetHandle × FakeCogneeRuntime :=
  match s.validateHandle handle with
  | .error e => (.error e, s)
  | .ok () =>
    if payloads.isEmpty then (.ok handle, s) else
    let dataset := s.ensureDataset handle
    let after (applied : List DocumentPayload) : FakeCogneeRuntime :=
      { s with datasets := s.datasets.insert (keyOf handle)
                 { dataset with documents := dataset.documents.addAll applied } }.log
        "add_documents" handle (applied.map fun p : DocumentPayload => Platform.uuidStr p.dataId)
    match fault with
    | some ⟨e, none⟩ => (.error e, s)
    | some ⟨e, some effects⟩ => (.error e, after (payloads.take effects.length))
    | none => (.ok { handle with datasetId := some dataset.datasetId }, after payloads)

/-- Removing the derivatives of documents. -/
def purgeDocumentMemory (fault : Option Fault) (handle : DatasetHandle) (dataIds : List UUID)
    (s : FakeCogneeRuntime) : Except PyError Unit × FakeCogneeRuntime :=
  match s.validateHandle handle with
  | .error e => (.error e, s)
  | .ok () =>
    let after (ids : List UUID) : FakeCogneeRuntime :=
      (s.log "purge_document_memory" handle (dataIds.map Platform.uuidStr)).modifyRows handle
        fun ds => ds.purgeAll ids
    match fault with
    | some ⟨e, none⟩ => (.error e, s)
    | some ⟨e, some effects⟩ => (.error e, after (dataIds.take effects.length))
    | none => (.ok (), after dataIds)

/-- Deleting documents. -/
def deleteDocuments (fault : Option Fault) (handle : DatasetHandle) (dataIds : List UUID)
    (s : FakeCogneeRuntime) : Except PyError Unit × FakeCogneeRuntime :=
  match s.validateHandle handle with
  | .error e => (.error e, s)
  | .ok () =>
    let after (items : List (UUID × ItemEffect)) : FakeCogneeRuntime :=
      (s.log "delete_documents" handle (dataIds.map Platform.uuidStr)).modifyRows handle
        fun ds => ds.deleteAll items
    match fault with
    | some ⟨e, none⟩ => (.error e, s)
    | some ⟨e, some effects⟩ => (.error e, after (dataIds.zip effects))
    | none => (.ok (), after (dataIds.map fun i => (i, .done)))

/-- Cognifying every incomplete row of a dataset, in the order of their ids. -/
def cognifyDataset (fault : Option Fault) (handle : DatasetHandle) (profile : CognifyProfile)
    (s : FakeCogneeRuntime) : Except PyError Unit × FakeCogneeRuntime :=
  match s.validateHandle handle with
  | .error e => (.error e, s)
  | .ok () =>
    let after (take : List UUID → List UUID) : FakeCogneeRuntime :=
      (s.log "cognify_dataset" handle []).modifyRows handle
        fun ds => ds.cognifyAll profile (take ds.keys)
    match fault with
    | some ⟨e, none⟩ => (.error e, s)
    | some ⟨e, some effects⟩ => (.error e, after (List.take effects.length))
    | none => (.ok (), after id)

/-- Removing a dataset and its rows. -/
def teardownDataset (fault : Option Fault) (handle : DatasetHandle) (s : FakeCogneeRuntime) :
    Except PyError Unit × FakeCogneeRuntime :=
  match s.validateHandle handle with
  | .error e => (.error e, s)
  | .ok () =>
    let logged := s.log "teardown_dataset" handle []
    let after : FakeCogneeRuntime := { logged with datasets := s.datasets.erase (keyOf handle) }
    match fault with
    | some ⟨e, none⟩ => (.error e, s)
    | some ⟨e, some []⟩ => (.error e, logged)
    | some ⟨e, some (_ :: _)⟩ => (.error e, after)
    | none => (.ok (), after)

/-- The rows of a dataset, in the order of their ids. -/
def listDocuments (fault : Option Fault) (handle : DatasetHandle) (s : FakeCogneeRuntime) :
    Except PyError (List StoredDocument) × FakeCogneeRuntime :=
  match s.validateHandle handle with
  | .error e => (.error e, s)
  | .ok () =>
    match fault with
    | some f => (.error f.error, s)
    | none =>
      (.ok (((s.dataset handle.tenant handle.name).map fun d => d.documents.toList.map fun e =>
        { dataId := e.1, label := e.2.payload.label,
          externalMetadata := e.2.payload.externalMetadata,
          cognifyComplete := e.2.cognifyComplete }).getD []), s)

/-- Entering the lock of a dataset, once the lock provider grants it. -/
def lockEnter (fault : Option Fault) (handle : DatasetHandle) (s : FakeCogneeRuntime) :
    Except PyError Unit × FakeCogneeRuntime :=
  match s.validateHandle handle with
  | .error e => (.error e, s)
  | .ok () =>
    match fault with
    | some f => (.error f.error, s)
    | none => (.ok (), s.log "lock_acquire" handle [])

/-- The scope of the lock of a dataset. -/
def lockScope (handle : DatasetHandle) : String :=
  canonicalJoin ["cogindex", handle.identityScope, handle.tenant, handle.name]

/-- The answer of the runtime to a call. Leaving a lock does not fail. -/
def perform (fault : Option Fault) :
    (c : RuntimeCall) → FakeCogneeRuntime → Except PyError c.Response × FakeCogneeRuntime
  | .resolveDataset name tenant => resolveDataset fault name tenant
  | .addDocuments handle payloads => addDocuments fault handle payloads
  | .purgeDocumentMemory handle dataIds => purgeDocumentMemory fault handle dataIds
  | .deleteDocuments handle dataIds => deleteDocuments fault handle dataIds
  | .cognifyDataset handle profile => cognifyDataset fault handle profile
  | .teardownDataset handle => teardownDataset fault handle
  | .listDocuments handle => listDocuments fault handle
  | .lockEnter handle => lockEnter fault handle
  | .lockExit handle => fun s => (.ok (), s.log "lock_release" handle [])

end FakeCogneeRuntime

end

theorem coordinate_fakeDefault : Coordinate "fake-default" := by decide

/-- An empty runtime on the sample platform. -/
def FakeCogneeRuntime.sample : @FakeCogneeRuntime .sample :=
  @FakeCogneeRuntime.mk .sample ∅ [] "fake-default" coordinate_fakeDefault

end Cogindex
