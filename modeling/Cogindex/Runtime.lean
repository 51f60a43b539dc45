import Cogindex.Spec
import Cogindex.Library.Coroutine

/-!
# Runtimes

What the connector needs from a Cognee deployment: the calls of a runtime
(`RuntimeCall`) and what they return. The connector's code is a coroutine over
these calls (`Program`); entering and leaving the lock of a dataset are calls
too, and `withLock` is `async with runtime.dataset_lock(handle)`.
-/

namespace Cogindex

variable [Platform]

/-- A reference to a dataset that may not be materialized yet. -/
structure DatasetHandle where
  name : String
  tenant : String
  /-- The physical ownership coordinates of the rows of the dataset. -/
  identityScope : String
  /-- Nothing until the dataset exists. -/
  datasetId : Option UUID
  identityScope_ok : Coordinate identityScope
  deriving DecidableEq

/-- `DatasetHandle(...)`. -/
def DatasetHandle.init (name tenant identityScope : String) (datasetId : Option UUID) :
    Except PyError DatasetHandle := do
  let ⟨_, h⟩ ← attachOk (validateCoordinate identityScope "identity_scope")
  return { name, tenant, identityScope, datasetId,
           identityScope_ok := validateCoordinate_ok_iff.1 h }

/-- Everything needed to ingest a document. -/
structure DocumentPayload where
  dataId : UUID
  content : Content
  label : Option String
  externalMetadata : Metadata
  nodeSet : Option (List String)
  importanceWeight : Option PyFloat

/-- What drift verification sees of a stored document. -/
structure StoredDocument where
  dataId : UUID
  label : Option String
  externalMetadata : Metadata
  cognifyComplete : Bool

/-- The calls of a runtime. -/
inductive RuntimeCall
  | resolveDataset (name tenant : String)
  | addDocuments (handle : DatasetHandle) (payloads : List DocumentPayload)
  | purgeDocumentMemory (handle : DatasetHandle) (dataIds : List UUID)
  | deleteDocuments (handle : DatasetHandle) (dataIds : List UUID)
  | cognifyDataset (handle : DatasetHandle) (profile : CognifyProfile)
  | teardownDataset (handle : DatasetHandle)
  | listDocuments (handle : DatasetHandle)
  /-- Entering `runtime.dataset_lock(handle)`. -/
  | lockEnter (handle : DatasetHandle)
  /-- Leaving it. -/
  | lockExit (handle : DatasetHandle)

/-- What the calls of a runtime return. -/
@[reducible] def RuntimeCall.Response : RuntimeCall → Type
  | resolveDataset _ _ => DatasetHandle
  | addDocuments _ _ => DatasetHandle
  | listDocuments _ => List StoredDocument
  | _ => Unit

/-- A coroutine over the calls of a runtime. -/
abbrev Program : Type → Type := Coroutine RuntimeCall RuntimeCall.Response PyError

/-- Awaiting a call of the runtime. -/
abbrev await (c : RuntimeCall) : Program c.Response := Coroutine.call c

/-- `async with runtime.dataset_lock(handle): body`. -/
def withLock {α : Type} (handle : DatasetHandle) (body : Program α) : Program α := do
  let () ← await (.lockEnter handle)
  body.finally' (await (.lockExit handle))

end Cogindex
