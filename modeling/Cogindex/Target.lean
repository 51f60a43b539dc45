import Cogindex.Runtime

/-!
# Documents as targets

Reconciling a document compares its specification with what the tracking store
says it may be, and decides on a write operation (`DocumentHandler.reconcile`);
the actions of many documents are applied as one batch under the lock of their
dataset (`DocumentHandler.apply`): hard deletes and recreations, then purges,
then one add, then one `cognify`.

Reconciling is parameterized by the derivation of identities
(`DocumentHandler.reconcileWith`), which changes with the identity schema;
`reconcile` uses `documentDataId`.
-/

namespace Cogindex

section

variable [Platform]

/-- The write operations on a document. -/
inductive DocumentOp
  | upsert
  | replace
  | recreate
  | updateMetadata
  | delete
  deriving DecidableEq

/-- The name of an operation. -/
def DocumentOp.name : DocumentOp → String
  | upsert => "upsert"
  | replace => "replace"
  | recreate => "recreate"
  | updateMetadata => "update_metadata"
  | delete => "delete"

/-- What to do with a document; only deletes have no payload. -/
structure DocumentAction where
  op : DocumentOp
  externalKey : String
  dataId : UUID
  /-- The recorded ids that are no longer derived. -/
  staleDataIds : List UUID
  payload : Option DocumentPayload

/-- Ids in the order of their texts. -/
def ordered (dataIds : Finset UUID) : List UUID := dataIds.sort (· ≤ ·)

/-! ## Reconciling -/

/-- The same weight. -/
def DocumentRecord.SameWeight (r desired : DocumentRecord) : Prop :=
  r.importanceWeightFingerprint = desired.importanceWeightFingerprint

/-- The same fields that shape derivatives, but for the weight. -/
def DocumentRecord.SameDerivatives (r desired : DocumentRecord) : Prop :=
  r.dataId = desired.dataId ∧ r.contentFingerprint = desired.contentFingerprint ∧
    r.annotationsFingerprint = desired.annotationsFingerprint ∧
    r.processingFingerprint = desired.processingFingerprint ∧
    r.schemaVersion = desired.schemaVersion

instance (r desired : DocumentRecord) : Decidable (r.SameWeight desired) :=
  inferInstanceAs (Decidable (_ = _))

instance (r desired : DocumentRecord) : Decidable (r.SameDerivatives desired) :=
  inferInstanceAs (Decidable (_ ∧ _))

/-- The write operation for a difference: a changed weight needs a new row; a
    missing or different derivative needs a purge; a label does not. -/
def classifyWrite (diffAction : DiffAction) (desired : DocumentRecord)
    (prevRecords : List DocumentRecord) (prevMayBeMissing : Bool) : DocumentOp :=
  if prevRecords ≠ [] ∧ ∃ r ∈ prevRecords, ¬r.SameWeight desired then .recreate
  else if diffAction = .insert ∨ diffAction = .upsert then
    if prevMayBeMissing ∧ prevRecords ≠ [] then .replace else .upsert
  else if prevMayBeMissing = false ∧ ∀ r ∈ prevRecords, r.SameDerivatives desired then
    .updateMetadata
  else .replace

/-- The handler of the documents of a dataset. -/
structure DocumentHandler where
  runtimeKey : String
  handle : DatasetHandle
  profile : CognifyProfile
  processingFingerprint : String

/-- What reconciling a document asks for: an action, and the record to track
    (nothing for a document that is not to exist). -/
structure ReconcileOutput where
  action : DocumentAction
  trackingRecord : Option DocumentRecord

/-- A derivation of a `data_id` from the runtime key, the identity scope, the
    tenant, the dataset name and the external key. -/
abbrev Derivation : Type := String → String → String → String → String → Except PyError UUID

namespace DocumentHandler

/-- The recorded ids that are not `dataId`. -/
def staleDataIds (dataId : UUID) (prevRecords : List DocumentRecord) : List UUID :=
  ordered ((prevRecords.map DocumentRecord.dataId).toFinset.erase dataId)

/-- The payload of a specification. -/
def payloadFor (spec : CogneeDocumentSpec) (dataId : UUID) : DocumentPayload where
  dataId := dataId
  content := spec.content
  label := spec.label
  externalMetadata := spec.externalMetadata
  nodeSet := spec.nodeSet
  importanceWeight := spec.importanceWeight

/-- Reconciling a document under its `data_id`. A document that may exist without
    any record is deleted, as its id is known. -/
def reconcileId (h : DocumentHandler) (externalKey : String) (dataId : UUID)
    (desiredState : Option CogneeDocumentSpec) (prevRecords : List DocumentRecord)
    (prevMayBeMissing : Bool) : Option ReconcileOutput :=
  let stale := staleDataIds dataId prevRecords
  match desiredState with
  | none =>
    if prevRecords = [] ∧ prevMayBeMissing = false then none
    else some ⟨⟨.delete, externalKey, dataId, stale, none⟩, none⟩
  | some spec =>
    let desired := documentRecordFor spec dataId h.processingFingerprint
    (Platform.diff (some desired) prevRecords prevMayBeMissing).map fun diffAction =>
      ⟨⟨classifyWrite diffAction desired prevRecords prevMayBeMissing, externalKey, dataId, stale,
        some (payloadFor spec dataId)⟩, some desired⟩

/-- The `data_id` of an external key under a derivation. -/
def dataIdWith (derive : Derivation) (h : DocumentHandler) (externalKey : String) :
    Except PyError UUID :=
  derive h.runtimeKey h.handle.identityScope h.handle.tenant h.handle.name externalKey

/-- Reconciling a document under a derivation of identities. -/
def reconcileWith (derive : Derivation) (h : DocumentHandler) (key : PyKey)
    (desiredState : Option CogneeDocumentSpec) (prevRecords : List DocumentRecord)
    (prevMayBeMissing : Bool) : Except PyError (Option ReconcileOutput) :=
  match key with
  | .other typeName => .error ⟨.typeError, "document key must be str, got " ++ typeName⟩
  | .str key => do
    let externalKey ← normalizeExternalKey key
    let dataId ← h.dataIdWith derive externalKey
    return h.reconcileId externalKey dataId desiredState prevRecords prevMayBeMissing

/-- Reconciling a document. -/
def reconcile (h : DocumentHandler) : PyKey → Option CogneeDocumentSpec → List DocumentRecord →
    Bool → Except PyError (Option ReconcileOutput) :=
  h.reconcileWith documentDataId

end DocumentHandler

/-! ## Applying a batch -/

/-- The actions of a batch, by what has to be done. -/
structure Batch where
  deleteIds : Finset UUID := ∅
  purgeIds : Finset UUID := ∅
  recreateIds : Finset UUID := ∅
  payloads : Std.ExtTreeMap UUID DocumentPayload := ∅
  needsCognify : Bool := false

namespace Batch

/-- An action joins the batch. -/
def add (b : Batch) (action : DocumentAction) : Except PyError Batch :=
  let deleteIds := b.deleteIds ∪ action.staleDataIds.toFinset
  if action.op = .delete then .ok { b with deleteIds := insert action.dataId deleteIds }
  else match action.payload with
    | none => .error ⟨.runtimeError,
        "invariant violation: " ++ action.op.name ++ " action without payload"⟩
    | some payload => .ok
      { deleteIds
        purgeIds := if action.op = .replace then insert action.dataId b.purgeIds else b.purgeIds
        recreateIds :=
          if action.op = .recreate then insert action.dataId b.recreateIds else b.recreateIds
        payloads := b.payloads.insert action.dataId payload
        needsCognify := b.needsCognify ||
          decide (action.op = .upsert ∨ action.op = .replace ∨ action.op = .recreate) }

/-- An id that is written is not deleted, unless it is recreated; one that is
    recreated is not purged. -/
def finish (b : Batch) : Batch :=
  { b with
    deleteIds := (b.deleteIds.filter fun i => i ∉ b.payloads) ∪ b.recreateIds
    purgeIds := b.purgeIds \ b.recreateIds }

/-- The batch of a list of actions. -/
def collect (actions : List DocumentAction) : Except PyError Batch := do
  return (← actions.foldlM add {}).finish

/-- The payloads in the order of their ids. -/
def orderedPayloads (b : Batch) : List DocumentPayload := b.payloads.toList.map Prod.snd

end Batch

namespace DocumentHandler

/-- Hard removals and recreations. -/
def deletePhase (h : DocumentHandler) (b : Batch) : Program Unit :=
  if b.deleteIds.Nonempty then await (.deleteDocuments h.handle (ordered b.deleteIds)) else pure ()

/-- Purges of derivatives. -/
def purgePhase (h : DocumentHandler) (b : Batch) : Program Unit :=
  if b.purgeIds.Nonempty then await (.purgeDocumentMemory h.handle (ordered b.purgeIds))
  else pure ()

/-- One add, which returns the handle of the dataset. -/
def addPhase (h : DocumentHandler) (b : Batch) : Program DatasetHandle :=
  if b.payloads.isEmpty then pure h.handle else await (.addDocuments h.handle b.orderedPayloads)

/-- One incremental cognify. -/
def cognifyPhase (h : DocumentHandler) (b : Batch) (handle : DatasetHandle) : Program Unit :=
  if b.needsCognify then await (.cognifyDataset handle h.profile) else pure ()

/-- The calls of a batch: removals first, so that stale state cannot linger if
    a later phase fails. -/
def applyBatch (h : DocumentHandler) (b : Batch) : Program Unit := do
  h.deletePhase b
  h.purgePhase b
  let handle ← h.addPhase b
  h.cognifyPhase b handle

/-- Applying actions as a batch, under the lock of the dataset. -/
def apply (h : DocumentHandler) (actions : List DocumentAction) : Program Unit := do
  let b ← Coroutine.ofExcept (Batch.collect actions)
  withLock h.handle (h.applyBatch b)

end DocumentHandler

end

/-- A handler on the sample platform. -/
def DocumentHandler.sample : @DocumentHandler .sample :=
  letI : Platform := .sample
  { runtimeKey := "rt"
    handle := ⟨"ds", "default", "fake-default", none, by decide⟩
    profile := { chunkSize := some 100 }
    processingFingerprint := "pfp-A" }

theorem DocumentHandler.sample_dataIdWith {key : String} (hkey : Coordinate key) :
    letI : Platform := .sample
    DocumentHandler.sample.dataIdWith documentDataId key = .ok (canonicalJoin
      [IDENTITY_SCHEMA_VERSION.repr, "rt", "fake-default", "default", "ds", key]) := by
  let : Platform := .sample
  exact documentDataId_ok_iff.2
    ⟨⟨⟨by decide, by decide⟩, by decide, by decide, by decide, hkey⟩, rfl⟩

/-- A replacement by a text on the sample platform. -/
def DocumentAction.sample : @DocumentAction .sample :=
  letI : Platform := .sample
  { op := .replace
    externalKey := "a.md"
    dataId := "a"
    staleDataIds := []
    payload := some ⟨"a", .str "alpha", none, none, none, none⟩ }

end Cogindex
