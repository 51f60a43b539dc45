import Cogindex.Batch
import Cogindex.Declaring

/-!
# Updates

An update of a dataset that an application has mounted, from reconciling the
dataset to the commit of its documents (`MountedDataset.update`), as a coroutine
over the calls of the sinks and over what the engine stores of the documents.

What was accepted when the dataset and its documents were declared does not fail
here, whatever was tracked before: reconciling the dataset, handing out the
handler of its documents, reconciling them and collecting their actions only ever
raise what a call was answered with (`accepted_dataset_updates`).
-/

namespace Cogindex

open Coroutine

section

variable [Platform] {ρ α : Type}

/-! ## The calls of an update -/

/-- The calls of an update: those of the sinks, and the storing of what is
    tracked of the documents. -/
inductive EngineCall (ρ : Type)
  | sink (c : DatasetCall ρ)
  | save (tracking : Tracking)

/-- What the calls return. -/
@[reducible] def EngineCall.Response : EngineCall ρ → Type
  | sink c => c.Response
  | save _ => Unit

/-- A coroutine over the calls of an update. -/
abbrev UpdateProgram (ρ : Type) : Type → Type :=
  Coroutine (EngineCall ρ) EngineCall.Response PyError

/-- Storing what is tracked. -/
def save (tracking : Tracking) : UpdateProgram ρ Unit :=
  Coroutine.call (EngineCall.save tracking)

/-- Serving a call of a sink. -/
def serveSink (c : DatasetCall ρ) : UpdateProgram ρ c.Response :=
  Coroutine.call (EngineCall.sink c)

/-- A coroutine over the calls of a sink. -/
def onSink (p : DatasetProgram ρ α) : UpdateProgram ρ α := interpret serveSink p

/-- The calls of one runtime are served by the sink. -/
theorem onRuntime_eq (r : ρ) (p : Program α) :
    onRuntime r p = interpret (fun c => Coroutine.call (DatasetCall.runtime r c)) p := by
  induction p with
  | ret a => rfl
  | raise e => rfl
  | await c k ih =>
    refine congrArg (Coroutine.await (DatasetCall.runtime r c)) (funext fun response => ?_)
    cases response <;> exact ih _

/-! ## Updates -/

/-- What is tracked of a dataset and of its documents. -/
structure DatasetRecords where
  prevRecords : List DatasetTrackingRecord
  prevMayBeMissing : Bool
  documents : Tracking

/-- The documents after their dataset has been reconciled. -/
def DatasetRecords.invalidated (records : DatasetRecords) (root : DatasetReconcileOutput) :
    Tracking :=
  if root.childInvalidation = some .lossy then records.documents.invalidateLossy
  else records.documents

theorem DatasetRecords.invalidated_or (records : DatasetRecords) (root : DatasetReconcileOutput) :
    records.invalidated root = records.documents ∨
      records.invalidated root = records.documents.invalidateLossy := by
  rw [DatasetRecords.invalidated]
  split_ifs
  exacts [.inr rfl, .inl rfl]

namespace MountedDataset

/-- The documents of a dataset whose handler has been handed out. -/
def updateDocuments (m : MountedDataset) (tracking : Tracking) (child : ChildTargetDef ρ) :
    UpdateProgram ρ Outputs := do
  let outputs ← ofExcept (tracking.reconcileRound documentDataId child.handler m.declared)
  -- What is intended becomes possible before anything is written.
  save (tracking.precommit outputs)
  onSink (onRuntime child.runtime (child.handler.applyOutputs outputs))
  save ((tracking.precommit outputs).commit outputs)
  return outputs

/-- An update: the dataset is reconciled, its action is applied, and the documents
    are reconciled and applied by the handler that is handed out. -/
def update (resolve : SystemTransition) (m : MountedDataset) (records : DatasetRecords) :
    UpdateProgram ρ Outputs := do
  let root ← ofExcept (DatasetHandler.reconcile resolve m.key.toStableKey (some m.spec)
    records.prevRecords records.prevMayBeMissing)
  match ← onSink (applyDatasetActions [root.action]) with
  | [some child] => m.updateDocuments (records.invalidated root) child
  | _ => raise ⟨.external, "a declared dataset has one handler of its documents"⟩

end MountedDataset

/-- The handler of the documents of a dataset. -/
structure MountedDataset.HandledBy (m : MountedDataset) (h : DocumentHandler) : Prop where
  runtimeKey : h.runtimeKey = m.key.runtimeKey
  name : h.handle.name = m.key.datasetName
  tenant : h.handle.tenant = m.key.tenant
  profile : h.profile = m.spec.profile
  processing : m.spec.processing.fingerprint = .ok h.processingFingerprint

namespace MountedDataset.HandledBy

variable {m : MountedDataset} {h : DocumentHandler} (hm : m.HandledBy h)

include hm

/-- Every key has a `data_id`. -/
theorem exists_dataId (key : DocumentKey) :
    ∃ i, h.dataIdWith documentDataId key.text = .ok i := by
  rw [DocumentHandler.dataIdWith, hm.runtimeKey, hm.name, hm.tenant]
  exact ⟨_, documentDataId_ok_iff.2 ⟨⟨m.key.runtimeKey_ok, h.handle.identityScope_ok,
    m.key.tenant_ok, m.key.datasetName_ok, key.coordinate⟩, rfl⟩⟩

/-- The documents can be reconciled, whatever is tracked of them. -/
theorem exists_round (tracking : Tracking) :
    ∃ outputs, tracking.reconcileRound documentDataId h m.declared = .ok outputs :=
  Tracking.exists_reconcileRound fun key _ => by
    obtain ⟨i, hi⟩ := hm.exists_dataId key
    exact ⟨_, Tracking.reconcileKey_eq_ok_iff.2 ⟨i, hi, rfl⟩⟩

end MountedDataset.HandledBy

/-- The actions of a round can be collected. -/
theorem Tracking.exists_collect {tracking : Tracking} {derive : Derivation} {h : DocumentHandler}
    {declared : Declared} {outputs : Outputs}
    (hround : tracking.reconcileRound derive h declared = .ok outputs) :
    ∃ b, Batch.collect (outputs.map (·.2.action)) = .ok b := by
  refine Batch.exists_collect fun a ha hop => ?_
  obtain ⟨⟨key, o⟩, ho, rfl⟩ := List.mem_map.1 ha
  obtain ⟨i, -, hreconcile⟩ :=
    Tracking.reconcileKey_eq_ok_iff.1 ((Tracking.mem_outputs hround).1 ho).2
  obtain ⟨-, -, hdelete, hpayload, -⟩ := DocumentHandler.reconcileId_action hreconcile
  obtain ⟨spec, hspec⟩ := Option.ne_none_iff_exists'.1 (mt hdelete.2 hop)
  rw [hpayload, hspec]
  rfl

/-- Reconciling a dataset whose configuration has a fingerprint. -/
theorem MountedDataset.exists_reconcile {m : MountedDataset} {f : String}
    (hf : m.spec.processing.fingerprint = .ok f) (resolve : SystemTransition)
    (prev : List DatasetTrackingRecord) (missing : Bool) : ∃ root,
      DatasetHandler.reconcile resolve m.key.toStableKey (some m.spec) prev missing = .ok root ∧
        root.action.key = m.key ∧ root.action.spec = some m.spec ∧
          root.action.processingFingerprint = some f := by
  have htracked : DatasetHandler.trackingRecordFor (some m.spec) =
      .ok (some f, some ⟨⟨f, RECORD_SCHEMA_VERSION⟩, m.spec.managedBy⟩) := by
    rw [DatasetHandler.trackingRecordFor, hf]
    rfl
  exact ⟨_, DatasetHandler.reconcile_eq htracked, rfl, rfl, rfl⟩

/-- The steps of the action of a declared dataset. -/
theorem applyDatasetActions_declared {action : DatasetAction} {spec : CogneeDatasetSpec}
    (hspec : action.spec = some spec) :
    (applyDatasetActions [action] : DatasetProgram ρ _) =
      boundRuntime action.key.runtimeKey >>= fun r =>
        Coroutine.call (DatasetCall.runtime r
          (.resolveDataset action.key.datasetName action.key.tenant)) >>= fun handle =>
          ofExcept (childFor action spec r handle) >>= fun child => pure [some child] := by
  rw [applyDatasetActions, List.mapM_cons, List.mapM_nil, applyDatasetAction, hspec]
  simp only [bind_assoc, pure_bind]

/-! ## Failures -/

/-- The answers of a runtime, as far as its protocol promises something: the
    handle of a dataset is for the name and the tenant that were asked for. -/
def RuntimeCall.Documented : (c : RuntimeCall) → Except PyError c.Response → Prop
  | .resolveDataset name tenant, answer =>
    ∀ handle, answer = .ok handle → handle.name = name ∧ handle.tenant = tenant
  | _, _ => True

/-- The answers to the calls of the sink. -/
def DatasetCall.Documented : (c : DatasetCall ρ) → Except PyError c.Response → Prop
  | .getRuntime _, _ => True
  | .runtime _ c, answer => c.Documented answer

/-- The answers to the calls of an update. -/
def EngineCall.Documented : (c : EngineCall ρ) → Except PyError c.Response → Prop
  | .sink c, answer => c.Documented answer
  | .save _, _ => True

/-- What fails in a call of the sink: also a context key that is bound to
    something else than a runtime. -/
def DatasetCall.failure : DatasetRecord ρ → Option PyError
  | ⟨.getRuntime _, .ok (.other typeName)⟩ => some ⟨.typeError,
      "the dataset runtime ContextKey must provide " ++ "a CogneeRuntime, got " ++ typeName⟩
  | ⟨.getRuntime _, .ok (.runtime _)⟩ => none
  | ⟨.getRuntime _, .error e⟩ => some e
  | ⟨.runtime _ _, .ok _⟩ => none
  | ⟨.runtime _ _, .error e⟩ => some e

/-- What fails in a call of an update. -/
def EngineCall.failure : Event (EngineCall ρ) EngineCall.Response PyError → Option PyError
  | ⟨.sink c, answer⟩ => DatasetCall.failure ⟨c, answer⟩
  | ⟨.save _, .ok _⟩ => none
  | ⟨.save _, .error e⟩ => some e

/-- A call of a runtime fails with its own error. -/
theorem candid_await (c : RuntimeCall) {G : c.Response → Prop}
    (h : ∀ v, c.Documented (.ok v) → G v) :
    Candid RuntimeCall.Documented Event.error? (await c) G :=
  candid_call (fun _ => rfl) (fun _ => rfl) h

/-- Nothing of a batch fails by itself, once its actions could be collected. -/
theorem candid_applyOutputs {h : DocumentHandler} {outputs : Outputs}
    (hcollect : ∃ b, Batch.collect (outputs.map (·.2.action)) = .ok b) :
    Candid RuntimeCall.Documented Event.error? (h.applyOutputs outputs) fun _ => True := by
  obtain ⟨b, hb⟩ := hcollect
  have hcall : ∀ c : RuntimeCall,
      Candid RuntimeCall.Documented Event.error? (await c) fun _ => True :=
    fun c => candid_await c fun _ _ => trivial
  refine .ite (fun _ => candid_ret trivial) fun _ =>
    (candid_ofExcept (G := fun _ => True) hb trivial).bind fun _ _ => ?_
  refine (hcall (.lockEnter h.handle)).bind fun _ _ => .finally' ?_ (hcall (.lockExit h.handle))
  -- The four phases, each of which makes its call or none.
  refine (Candid.ite (fun _ => hcall _) fun _ => candid_ret trivial).bind fun _ _ => ?_
  refine (Candid.ite (fun _ => hcall _) fun _ => candid_ret trivial).bind fun _ _ => ?_
  refine (Candid.ite (fun _ => candid_ret trivial) fun _ => hcall _).bind fun _ _ => ?_
  exact .ite (fun _ => hcall _) fun _ => candid_ret trivial

/-- What fails of the calls of one runtime is what fails of them in the sink. -/
theorem candid_onRuntime {r : ρ} {p : Program α} {G : α → Prop}
    (h : Candid RuntimeCall.Documented Event.error? p G) :
    Candid DatasetCall.Documented DatasetCall.failure (onRuntime r p) G := by
  rw [onRuntime_eq]
  exact h.interpret fun c fs => wp_call.2 ⟨fun _ _ => id, fun _ _ => id⟩

/-- What fails of the calls of a sink is what fails of them in the update. -/
theorem candid_onSink {p : DatasetProgram ρ α} {G : α → Prop}
    (h : Candid DatasetCall.Documented DatasetCall.failure p G) :
    Candid EngineCall.Documented EngineCall.failure (onSink p) G :=
  h.interpret fun _ _ => wp_call.2 ⟨fun _ _ => id, fun _ _ => id⟩

theorem candid_save (tracking : Tracking) :
    Candid EngineCall.Documented EngineCall.failure (save tracking : UpdateProgram ρ Unit)
      fun _ => True :=
  candid_call (fun _ => rfl) (fun _ => rfl) fun _ _ => trivial

/-- A context key that is bound to something else than a runtime is a failure. -/
theorem candid_boundRuntime (runtimeKey : String) :
    Candid DatasetCall.Documented DatasetCall.failure
      (boundRuntime runtimeKey : DatasetProgram ρ ρ) fun _ => True := by
  intro fs
  rw [boundRuntime, wp_bind]
  refine wp_call.2 ⟨?_, ?_⟩
  · rintro (r | typeName) _ ⟨-, rfl⟩
    · exact ⟨List.append_nil fs, trivial⟩
    · exact List.mem_append_right fs (List.mem_singleton.2 rfl)
  · rintro e _ ⟨-, rfl⟩
    exact List.mem_append_right fs (List.mem_singleton.2 rfl)

namespace MountedDataset

variable {m : MountedDataset}

/-- The handler that is handed out for a declared dataset. -/
theorem candid_applyDatasetActions {action : DatasetAction} {f : String} (hkey : action.key = m.key)
    (hspec : action.spec = some m.spec) (hf : action.processingFingerprint = some f)
    (hprocessing : m.spec.processing.fingerprint = .ok f) :
    Candid DatasetCall.Documented DatasetCall.failure
      (applyDatasetActions [action] : DatasetProgram ρ _)
      fun children => ∃ child : ChildTargetDef ρ, children = [some child] ∧
        m.HandledBy child.handler := by
  rw [applyDatasetActions_declared hspec]
  refine (candid_boundRuntime _).bind fun r _ => ?_
  refine (candid_call (G := fun handle => handle.name = m.key.datasetName ∧
    handle.tenant = m.key.tenant) (fun _ => rfl) (fun _ => rfl) fun handle hhandle => ?_).bind
      fun handle hhandle => ?_
  · rw [← hkey]
    exact hhandle handle rfl
  · refine Candid.bind (G := fun child : ChildTargetDef ρ => m.HandledBy child.handler)
      (candid_ofExcept (by rw [childFor, hf]) ?_) fun child h => candid_ret ⟨child, rfl, h⟩
    exact ⟨congrArg DatasetKey.runtimeKey hkey, hhandle.1, hhandle.2, rfl, hprocessing⟩

/-- Once the handler is there, only the calls can fail. -/
theorem candid_updateDocuments {child : ChildTargetDef ρ} (h : m.HandledBy child.handler)
    (tracking : Tracking) :
    Candid EngineCall.Documented EngineCall.failure (m.updateDocuments tracking child)
      fun _ => True := by
  obtain ⟨outputs, hround⟩ := h.exists_round tracking
  refine (candid_ofExcept (G := (· = outputs)) hround rfl).bind ?_
  rintro _ rfl
  refine (candid_save _).bind fun _ _ => ?_
  refine (candid_onSink (candid_onRuntime
    (candid_applyOutputs (Tracking.exists_collect hround)))).bind fun _ _ => ?_
  exact (candid_save _).bind fun _ _ => candid_ret trivial

/-- An update of a dataset whose configuration has a fingerprint. -/
theorem candid_update {f : String} (hf : m.spec.processing.fingerprint = .ok f)
    (resolve : SystemTransition) (records : DatasetRecords) :
    Candid EngineCall.Documented EngineCall.failure
      (m.update resolve records : UpdateProgram ρ Outputs) fun _ => True := by
  obtain ⟨root, hroot, hkey, hspec, hfingerprint⟩ :=
    m.exists_reconcile hf resolve records.prevRecords records.prevMayBeMissing
  refine (candid_ofExcept (G := (· = root)) hroot rfl).bind ?_
  rintro _ rfl
  refine (candid_onSink (candid_applyDatasetActions hkey hspec hfingerprint hf)).bind ?_
  rintro _ ⟨child, rfl, hchild⟩
  exact candid_updateDocuments hchild _

end MountedDataset

/-! ## Main result -/

/-- **What is accepted does not fail.** An update of a dataset that was mounted by
    accepted arguments that have a fingerprint, with documents that were accepted,
    returns exactly when none of its calls failed, and otherwise raises the error
    of one of them, whatever was tracked before and whatever the calls were answered. -/
theorem accepted_dataset_updates {cognee : CogneeInstallation} {hnfc : NfcLaws}
    {args : DatasetArguments} {documents : List DocumentArguments} {m : MountedDataset}
    (hmount : mountDataset cognee hnfc args documents = .ok m) (hargs : args.Fingerprinted cognee)
    (resolve : SystemTransition) (records : DatasetRecords) {outcome : Except PyError Outputs}
    {failures : List PyError}
    (hrun : Runs (Tallies EngineCall.Documented EngineCall.failure)
      (m.update resolve records : UpdateProgram ρ Outputs) [] (ofExcept outcome) failures) :
    ((∃ outputs, outcome = .ok outputs) ↔ failures = []) ∧
      ∀ e, outcome = .error e → e ∈ failures := by
  obtain ⟨-, -, -, f, hf⟩ := datasetTarget_ok (mountDataset_ok hmount).1 hargs
  have hend := (m.candid_update hf resolve records).runs hrun
  simpa only [and_true] using hend

/-- Every call may be answered without a failure. -/
theorem EngineCall.exists_answer (c : EngineCall Unit) :
    ∃ v, c.Documented (.ok v) ∧ EngineCall.failure ⟨c, .ok v⟩ = none := by
  cases c with
  | save tracking => exact ⟨(), trivial, rfl⟩
  | sink c =>
    cases c with
    | getRuntime runtimeKey => exact ⟨.runtime (), trivial, rfl⟩
    | runtime r c =>
      cases c with
      | resolveDataset name tenant =>
        refine ⟨⟨name, tenant, "scope", none, by decide⟩, ?_, rfl⟩
        rintro _ ⟨⟩
        exact ⟨rfl, rfl⟩
      | addDocuments handle payloads => exact ⟨handle, trivial, rfl⟩
      | listDocuments handle => exact ⟨[], trivial, rfl⟩
      | _ => exact ⟨(), trivial, rfl⟩

end

/-- An update of an accepted dataset in which nothing fails, so that it returns. -/
theorem accepted_dataset_updates_sample :
    letI : Platform := .sample
    ∃ m, mountDataset .sample Platform.sample_nfc .sample [.sample] = .ok m ∧
      ∃ outputs : Outputs, Runs (Tallies EngineCall.Documented EngineCall.failure)
        (m.update (fun _ => none) ⟨[], true, ∅⟩ : UpdateProgram Unit Outputs) [] (.ret outputs)
        [] := by
  let _ : Platform := .sample
  obtain ⟨m, hm⟩ := exists_mountDataset_sample
  obtain ⟨outcome, hrun⟩ := exists_runs_tallies EngineCall.exists_answer
    (m.update (fun _ => none) ⟨[], true, ∅⟩) []
  have hargs := DatasetArguments.sample_fingerprinted
  obtain ⟨outputs, rfl⟩ := (accepted_dataset_updates hm hargs _ _ hrun).1.2 rfl
  exact ⟨m, hm, outputs, hrun⟩

end Cogindex
