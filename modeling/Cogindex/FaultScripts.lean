import Cogindex.LocalRuntime
import Cogindex.Rows
import Mathlib.Algebra.Order.BigOperators.Group.Finset

/-!
# Fault scripts

A test scripts the faults of `FakeCogneeRuntime` ahead: `inject_fault` queues a
fault for an operation, with how often it fires and, for an add or a hard
delete, where, and a call of this operation takes the next one. An operation
validates, logs and takes its fault in an order of its own, so each is modelled
as it is.

The results about the connector are about a runtime that may take any fault at
any call (`FakeCogneeRuntime.perform`).

* `ScriptedRuntime.answersAs`: what a scripted runtime answers is what this one
  answers under some fault, for which the scripts pay;
* `ScriptedRuntime.exists_run`: the same of the runs of programs.
-/

namespace Cogindex

open Function FakeCogneeRuntime

section

variable [Platform]

/-! ## Scripts -/

/-- `_Fault`: a scripted fault, and how often it is still to fire. -/
structure ScriptedFault where
  remaining : ℤ
  afterItems : Option ℤ
  error : PyError
  torn : Bool

/-- The operations that may be made to fail, sorted. -/
def faultOps : List String :=
  ["add_documents", "cognify_dataset", "dataset_lock", "delete_documents",
    "purge_document_memory", "resolve_dataset", "teardown_dataset"]

/-- The in-memory runtime with its scripts, by operation. -/
structure ScriptedRuntime where
  fake : FakeCogneeRuntime
  faults : String → List ScriptedFault

/-- A computation on the runtime, which an error leaves as it is by then. -/
abbrev ScriptedM : Type → Type := EStateM PyError ScriptedRuntime

namespace ScriptedFault

/-- How often a fault fires at most: at least once, however often it is to. -/
def shots (fault : ScriptedFault) : ℕ := max 1 fault.remaining.toNat

/-- A fault that fired once more. -/
def fire (fault : ScriptedFault) : ScriptedFault :=
  { fault with remaining := fault.remaining - 1 }

/-- The scripts of an operation after the first of them fired: it goes with its last time. -/
def advance (fault : ScriptedFault) (scripts : List ScriptedFault) : List ScriptedFault :=
  if fault.fire.remaining ≤ 0 then scripts else fault.fire :: scripts

omit [Platform] in
theorem shots_advance (fault : ScriptedFault) (scripts : List ScriptedFault) :
    ((fault.advance scripts).map shots).sum < ((fault :: scripts).map shots).sum := by
  rw [advance]
  split_ifs with hdone
  · simp [shots]
  · simp only [List.map_cons, List.sum_cons, shots, fire] at hdone ⊢
    omega

end ScriptedFault

namespace ScriptedRuntime

/-- `self._faults.setdefault(op, []).append(fault)`. -/
def queue (s : ScriptedRuntime) (op : String) (fault : ScriptedFault) : ScriptedRuntime :=
  { s with faults := update s.faults op (s.faults op ++ [fault]) }

/-- `inject_fault`. -/
def injectFault (op : String) (times : ℤ) (afterItems : Option ℤ) (torn : Bool)
    (exc : Option PyError) : ScriptedM Unit := do
  if op ∉ faultOps then
    throw ⟨.valueError, "unknown op " ++ Platform.strRepr op ++ "; valid: " ++
      sequenceRepr "[" "]" (faultOps.map Platform.strRepr)⟩
  if afterItems.isSome ∧ op ≠ "add_documents" then
    throw ⟨.valueError, "after_items only applies to add_documents"⟩
  if torn ∧ op ≠ "delete_documents" then
    throw ⟨.valueError, "torn only applies to delete_documents"⟩
  let error := exc.getD ⟨.external, "injected fault in " ++ op⟩
  modify fun s => s.queue op ⟨times, afterItems, error, torn⟩

/-- `clear_faults`. -/
def clearFaults : ScriptedM Unit := modify fun s => { s with faults := fun _ => [] }

/-- `_next_fault`. -/
def nextFault (op : String) : ScriptedM (Option ScriptedFault) := do
  match (← get).faults op with
  | [] => return none
  | fault :: scripts =>
    modify fun s => { s with faults := update s.faults op (fault.advance scripts) }
    return some fault.fire

/-- `_fire`. -/
def fire (op : String) : ScriptedM Unit := do
  match ← nextFault op with
  | some fault => throw fault.error
  | none => return

/-! ## Operations -/

/-- Changing the datasets or the log. -/
def onFake (f : FakeCogneeRuntime → FakeCogneeRuntime) : ScriptedM Unit :=
  modify fun s => { s with fake := f s.fake }

/-- `_validate_handle`. -/
def validateHandle (handle : DatasetHandle) : ScriptedM Unit := do
  ofExcept ((← get).fake.validateHandle handle)

def resolveDataset (name tenant : String) : ScriptedM DatasetHandle := do
  fire "resolve_dataset"
  let s := (← get).fake
  return { name, tenant, identityScope := s.identityScope,
           datasetId := (s.dataset tenant name).map FakeDataset.datasetId,
           identityScope_ok := s.identityScope_ok }

/-- What a fault raises before the payload with an index. -/
def raisedAt (index : ℕ) : Option ScriptedFault → Option PyError
  | none => none
  | some fault =>
    match fault.afterItems with
    | some afterItems => if afterItems ≤ index then some fault.error else none
    | none => some fault.error

/-- The loop of `add_documents`: its outcome, the rows, and the payloads that were applied. -/
def addLoop (fault : Option ScriptedFault) :
    ℕ → List DocumentPayload → Documents → List DocumentPayload →
      Except PyError Unit × Documents × List DocumentPayload
  | _, [], documents, applied => (.ok (), documents, applied)
  | index, payload :: payloads, documents, applied =>
    match raisedAt index fault with
    | some e => (.error e, documents, applied)
    | none => addLoop fault (index + 1) payloads (documents.addOne payload) (applied ++ [payload])

def addDocuments (handle : DatasetHandle) (payloads : List DocumentPayload) :
    ScriptedM DatasetHandle := do
  validateHandle handle
  if payloads.isEmpty then return handle
  let fault ← nextFault "add_documents"
  let dataset := (← get).fake.ensureDataset handle
  let (outcome, documents, applied) := addLoop fault 0 payloads dataset.documents []
  onFake fun s => { s with
    datasets := s.datasets.insert (keyOf handle) { dataset with documents } }
  -- The log is written on every way out of the loop.
  onFake (log "add_documents" handle
    (applied.map fun p : DocumentPayload => Platform.uuidStr p.dataId))
  ofExcept outcome
  return { handle with datasetId := some dataset.datasetId }

def purgeDocumentMemory (handle : DatasetHandle) (dataIds : List UUID) : ScriptedM Unit := do
  validateHandle handle
  onFake (log "purge_document_memory" handle (dataIds.map Platform.uuidStr))
  fire "purge_document_memory"
  onFake (modifyRows handle fun ds => ds.purgeAll dataIds)

def deleteDocuments (handle : DatasetHandle) (dataIds : List UUID) : ScriptedM Unit := do
  validateHandle handle
  onFake (log "delete_documents" handle (dataIds.map Platform.uuidStr))
  match ← nextFault "delete_documents" with
  | some fault =>
    if fault.torn then
      onFake (modifyRows handle fun ds =>
        dataIds.foldl (fun ds i => ds.modify i FakeDocument.tear) ds)
    throw fault.error
  | none =>
    onFake (modifyRows handle fun ds => dataIds.foldl (fun ds i => ds.erase i) ds)

def cognifyDataset (handle : DatasetHandle) (profile : CognifyProfile) : ScriptedM Unit := do
  validateHandle handle
  onFake (log "cognify_dataset" handle [])
  fire "cognify_dataset"
  onFake (modifyRows handle fun ds => ds.cognifyAll profile ds.keys)

def teardownDataset (handle : DatasetHandle) : ScriptedM Unit := do
  validateHandle handle
  onFake (log "teardown_dataset" handle [])
  fire "teardown_dataset"
  onFake fun s => { s with datasets := s.datasets.erase (keyOf handle) }

/-- A listing does not fail. -/
def listDocuments (handle : DatasetHandle) : ScriptedM (List StoredDocument) := do
  validateHandle handle
  return (((← get).fake.dataset handle.tenant handle.name).map fun d =>
    d.documents.toList.map fun e =>
      { dataId := e.1, label := e.2.payload.label,
        externalMetadata := e.2.payload.externalMetadata,
        cognifyComplete := e.2.cognifyComplete }).getD []

/-- Entering the lock of a dataset, once the lock provider grants it. -/
def lockEnter (handle : DatasetHandle) : ScriptedM Unit := do
  validateHandle handle
  fire "dataset_lock"
  onFake (log "lock_acquire" handle [])

/-- The calls of a runtime. -/
def perform : (c : RuntimeCall) → ScriptedM c.Response
  | .resolveDataset name tenant => resolveDataset name tenant
  | .addDocuments handle payloads => addDocuments handle payloads
  | .purgeDocumentMemory handle dataIds => purgeDocumentMemory handle dataIds
  | .deleteDocuments handle dataIds => deleteDocuments handle dataIds
  | .cognifyDataset handle profile => cognifyDataset handle profile
  | .teardownDataset handle => teardownDataset handle
  | .listDocuments handle => listDocuments handle
  | .lockEnter handle => lockEnter handle
  | .lockExit handle => onFake (log "lock_release" handle [])

/-- The answer of the runtime to a call. -/
def answer (c : RuntimeCall) (s : ScriptedRuntime) :
    Except PyError c.Response × ScriptedRuntime :=
  match (perform c).run s with
  | .ok v s' => (.ok v, s')
  | .error e s' => (.error e, s')

/-! ## What the scripts pay for -/

/-- How many faults the scripts are good for at most. -/
def budget (s : ScriptedRuntime) : ℕ :=
  ∑ op ∈ faultOps.toFinset, ((s.faults op).map ScriptedFault.shots).sum

/-- A fault that was taken from the scripts, and what is left of them. -/
structure Takes (s : ScriptedRuntime) (fault : Option ScriptedFault) (s' : ScriptedRuntime) :
    Prop where
  fake : s'.fake = s.fake
  budget_le : s'.budget ≤ s.budget
  budget_lt : fault ≠ none → s'.budget < s.budget

theorem run_nextFault (op : String) (hop : op ∈ faultOps) (s : ScriptedRuntime) :
    ∃ fault s', (nextFault op).run s = .ok fault s' ∧ Takes s fault s' := by
  simp only [nextFault, EStateM.run_bind, EStateM.run_get]
  cases hscripts : s.faults op with
  | nil => exact ⟨none, s, rfl, rfl, le_rfl, fun h => absurd rfl h⟩
  | cons fault scripts =>
    refine ⟨_, _, rfl, ?_⟩
    have hlt : budget { s with faults := update s.faults op (fault.advance scripts) } <
        s.budget := by
      refine Finset.sum_lt_sum (fun op' _ => ?_) ⟨op, List.mem_toFinset.2 hop, ?_⟩
      · by_cases hop' : op' = op
        · subst hop'
          simp only [update_self, hscripts]
          exact (fault.shots_advance scripts).le
        · simp only [update_of_ne hop', le_refl]
      · simp only [update_self, hscripts]
        exact fault.shots_advance scripts
    exact ⟨rfl, hlt.le, fun _ => hlt⟩

theorem budget_queue (s : ScriptedRuntime) (op : String) (fault : ScriptedFault) :
    (s.queue op fault).budget ≤ s.budget + fault.shots := by
  have hscripts (op' : String) : (((s.queue op fault).faults op').map ScriptedFault.shots).sum =
      ((s.faults op').map ScriptedFault.shots).sum + if op' = op then fault.shots else 0 := by
    by_cases hop' : op' = op
    · subst hop'
      simp [queue]
    · simp [queue, hop']
  simp only [budget, hscripts, Finset.sum_add_distrib, Finset.sum_ite_eq']
  split_ifs <;> omega

theorem budget_clear (fake : FakeCogneeRuntime) : budget ⟨fake, fun _ => []⟩ = 0 := by
  simp [budget]

/-- A fault is queued, or rejected. -/
theorem run_injectFault (op : String) (times : ℤ) (afterItems : Option ℤ) (torn : Bool)
    (exc : Option PyError) (s : ScriptedRuntime) :
    (∃ e, (injectFault op times afterItems torn exc).run s = .error e s) ∨
      ∃ fault, fault.shots = max 1 times.toNat ∧
        (injectFault op times afterItems torn exc).run s = .ok () (s.queue op fault) := by
  by_cases hop : op ∈ faultOps
  · by_cases hafter : afterItems.isSome ∧ op ≠ "add_documents"
    · exact .inl ⟨_, by simp [injectFault, hop, hafter]; rfl⟩
    · by_cases htorn : torn ∧ op ≠ "delete_documents"
      · exact .inl ⟨_, by simp [injectFault, hop, hafter, htorn]; rfl⟩
      · let error := exc.getD ⟨.external, "injected fault in " ++ op⟩
        exact .inr ⟨⟨times, afterItems, error, torn⟩, rfl,
          by simp [injectFault, hop, hafter, htorn, error]⟩
  · exact .inl ⟨_, by simp [injectFault, hop]; rfl⟩

theorem run_fire (op : String) (hop : op ∈ faultOps) (s : ScriptedRuntime) :
    ∃ s', (fire op).run s = .ok () s' ∧ Takes s none s' ∨
      ∃ fault, (fire op).run s = .error fault.error s' ∧ Takes s (some fault) s' := by
  obtain ⟨fault, s', hnext, htakes⟩ := run_nextFault op hop s
  simp only [fire, EStateM.run_bind, hnext]
  cases fault with
  | none => exact ⟨s', .inl ⟨rfl, htakes⟩⟩
  | some fault => exact ⟨s', .inr ⟨fault, rfl, htakes⟩⟩

/-- The answer to a call is that under a fault, for which the scripts paid. -/
def AnswersAs (c : RuntimeCall) (s : ScriptedRuntime)
    (answer : Except PyError c.Response × ScriptedRuntime) : Prop :=
  ∃ fault, FakeCogneeRuntime.perform fault c s.fake = (answer.1, answer.2.fake) ∧
    answer.2.budget ≤ s.budget ∧ (fault ≠ none → answer.2.budget < s.budget)

variable {s : ScriptedRuntime} {handle : DatasetHandle}

/-- A call that fails before it takes a fault, or does not fail. -/
theorem AnswersAs.free {c : RuntimeCall} {r : Except PyError c.Response} {fake : FakeCogneeRuntime}
    (h : FakeCogneeRuntime.perform none c s.fake = (r, fake)) :
    AnswersAs c s (r, { s with fake }) :=
  ⟨none, h, le_rfl, fun hne => absurd rfl hne⟩

/-- A call that took a fault, or none. -/
theorem AnswersAs.paid {c : RuntimeCall} {r : Except PyError c.Response}
    {s₁ s₂ s' : ScriptedRuntime} {fault : Option ScriptedFault} {f : Option Fault}
    (ht : Takes s₁ fault s₂) (hs₁ : s₁.faults = s.faults) (hs' : s'.faults = s₂.faults)
    (hf : f ≠ none → fault ≠ none) (h : FakeCogneeRuntime.perform f c s.fake = (r, s'.fake)) :
    AnswersAs c s (r, s') := by
  have hle := ht.budget_le
  have hlt := ht.budget_lt
  simp only [budget, hs₁, ← hs'] at hle hlt
  exact ⟨f, h, hle, fun hne => hlt (hf hne)⟩

theorem run_validateHandle (s : ScriptedRuntime) (handle : DatasetHandle) :
    (validateHandle handle).run s = match s.fake.validateHandle handle with
      | .ok () => .ok () s
      | .error e => .error e s := by
  simp only [validateHandle, EStateM.run_bind, EStateM.run_get]
  cases s.fake.validateHandle handle <;> rfl

@[simp] theorem run_onFake (f : FakeCogneeRuntime → FakeCogneeRuntime) (s : ScriptedRuntime) :
    (onFake f).run s = .ok () { s with fake := f s.fake } := rfl

/-- Changing no row changes nothing. -/
theorem modifyRows_of_id {f : Documents → Documents} (hf : ∀ ds, f ds = ds)
    (fake : FakeCogneeRuntime) : modifyRows handle f fake = fake := by
  have hdatasets : fake.datasets.modify (keyOf handle) (fun d =>
      { d with documents := f d.documents }) = fake.datasets := by
    refine Std.ExtTreeMap.ext_getElem? fun k => ?_
    simp only [Std.ExtTreeMap.getElem?_modify, hf]
    split_ifs with hk
    · rw [compare_eq_iff_eq.1 hk]
      simp
    · rfl
  rw [modifyRows, hdatasets]

/-- How a call ends that validates its handle, logs, and fires before it does anything. -/
inductive Ends (op : String) (detail : List String) (handle : DatasetHandle)
    (f : FakeCogneeRuntime → FakeCogneeRuntime) (s : ScriptedRuntime) :
    EStateM.Result PyError ScriptedRuntime Unit → Prop
  | rejected {e : PyError} (hvalid : s.fake.validateHandle handle = .error e) :
    Ends op detail handle f s (.error e s)
  | failed {fault : ScriptedFault} {s' : ScriptedRuntime}
    (hvalid : s.fake.validateHandle handle = .ok ())
    (ht : Takes { s with fake := log op handle detail s.fake } (some fault) s') :
    Ends op detail handle f s (.error fault.error s')
  | done {s' : ScriptedRuntime} (hvalid : s.fake.validateHandle handle = .ok ())
    (ht : Takes { s with fake := log op handle detail s.fake } none s') :
    Ends op detail handle f s (.ok () { s' with fake := f s'.fake })

theorem run_logged (op : String) (hop : op ∈ faultOps) (detail : List String)
    (handle : DatasetHandle) (f : FakeCogneeRuntime → FakeCogneeRuntime) (s : ScriptedRuntime) :
    Ends op detail handle f s ((do
      validateHandle handle
      onFake (log op handle detail)
      fire op
      onFake f : ScriptedM Unit).run s) := by
  simp only [EStateM.run_bind, run_validateHandle]
  cases hvalid : s.fake.validateHandle handle with
  | error e => exact .rejected hvalid
  | ok u =>
    obtain ⟨s', ⟨hfire, ht⟩ | ⟨fault, hfire, ht⟩⟩ :=
      run_fire op hop { s with fake := log op handle detail s.fake }
    · simp only [run_onFake, hfire]
      exact .done hvalid ht
    · simp only [run_onFake, hfire]
      exact .failed hvalid ht

theorem answersAs_purgeDocumentMemory (handle : DatasetHandle) (dataIds : List UUID)
    (s : ScriptedRuntime) : AnswersAs (.purgeDocumentMemory handle dataIds) s
      (answer (.purgeDocumentMemory handle dataIds) s) := by
  have hends := run_logged "purge_document_memory" (by decide)
    (dataIds.map Platform.uuidStr) handle (modifyRows handle fun ds => ds.purgeAll dataIds) s
  simp only [answer, perform, purgeDocumentMemory]
  revert hends
  generalize EStateM.run _ s = result
  intro hends
  cases hends with
  | rejected hvalid =>
    exact .free (by simp [FakeCogneeRuntime.perform, FakeCogneeRuntime.purgeDocumentMemory, hvalid])
  | @failed fault s' hvalid ht =>
    refine AnswersAs.paid (s := s) (f := some ⟨fault.error, some []⟩) ht rfl rfl (by simp) ?_
    simp only [FakeCogneeRuntime.perform, FakeCogneeRuntime.purgeDocumentMemory, hvalid, ht.fake,
      List.length_nil, List.take_zero]
    rw [modifyRows_of_id (f := fun ds => ds.purgeAll []) fun ds => rfl]
  | done hvalid ht =>
    refine AnswersAs.paid (s := s) (f := none) ht rfl rfl (by simp) ?_
    simp only [FakeCogneeRuntime.perform, FakeCogneeRuntime.purgeDocumentMemory, hvalid, ht.fake]

theorem answersAs_cognifyDataset (handle : DatasetHandle) (profile : CognifyProfile)
    (s : ScriptedRuntime) : AnswersAs (.cognifyDataset handle profile) s
      (answer (.cognifyDataset handle profile) s) := by
  have hends := run_logged "cognify_dataset" (by decide) [] handle
    (modifyRows handle fun ds => ds.cognifyAll profile ds.keys) s
  simp only [answer, perform, cognifyDataset]
  revert hends
  generalize EStateM.run _ s = result
  intro hends
  cases hends with
  | rejected hvalid =>
    exact .free (by simp [FakeCogneeRuntime.perform, FakeCogneeRuntime.cognifyDataset, hvalid])
  | @failed fault s' hvalid ht =>
    refine AnswersAs.paid (s := s) (f := some ⟨fault.error, some []⟩) ht rfl rfl (by simp) ?_
    simp only [FakeCogneeRuntime.perform, FakeCogneeRuntime.cognifyDataset, hvalid, ht.fake,
      List.length_nil, List.take_zero]
    rw [modifyRows_of_id (f := fun ds => ds.cognifyAll profile []) fun ds => rfl]
  | done hvalid ht =>
    refine AnswersAs.paid (s := s) (f := none) ht rfl rfl (by simp) ?_
    simp only [FakeCogneeRuntime.perform, FakeCogneeRuntime.cognifyDataset, hvalid, ht.fake, id]

theorem answersAs_teardownDataset (handle : DatasetHandle) (s : ScriptedRuntime) :
    AnswersAs (.teardownDataset handle) s (answer (.teardownDataset handle) s) := by
  have hends := run_logged "teardown_dataset" (by decide) [] handle
    (fun s => { s with datasets := s.datasets.erase (keyOf handle) }) s
  simp only [answer, perform, teardownDataset]
  revert hends
  generalize EStateM.run _ s = result
  intro hends
  cases hends with
  | rejected hvalid =>
    exact .free (by simp [FakeCogneeRuntime.perform, FakeCogneeRuntime.teardownDataset, hvalid])
  | @failed fault s' hvalid ht =>
    refine AnswersAs.paid (s := s) (f := some ⟨fault.error, some []⟩) ht rfl rfl (by simp) ?_
    simp only [FakeCogneeRuntime.perform, FakeCogneeRuntime.teardownDataset, hvalid, ht.fake]
  | done hvalid ht =>
    refine AnswersAs.paid (s := s) (f := none) ht rfl rfl (by simp) ?_
    simp only [FakeCogneeRuntime.perform, FakeCogneeRuntime.teardownDataset, hvalid, ht.fake, log]

theorem answersAs_lockEnter (handle : DatasetHandle) (s : ScriptedRuntime) :
    AnswersAs (.lockEnter handle) s (answer (.lockEnter handle) s) := by
  simp only [answer, perform, lockEnter, EStateM.run_bind, run_validateHandle]
  cases hvalid : s.fake.validateHandle handle with
  | error e =>
    exact .free (by simp [FakeCogneeRuntime.perform, FakeCogneeRuntime.lockEnter, hvalid])
  | ok u =>
    obtain ⟨s', ⟨hfire, ht⟩ | ⟨fault, hfire, ht⟩⟩ := run_fire "dataset_lock" (by decide) s
    · simp only [hfire, run_onFake]
      refine AnswersAs.paid (s := s) (f := none) ht rfl rfl (by simp) ?_
      simp only [FakeCogneeRuntime.perform, FakeCogneeRuntime.lockEnter, hvalid, ht.fake]
    · simp only [hfire]
      refine AnswersAs.paid (s := s) (f := some ⟨fault.error, none⟩) ht rfl rfl (by simp) ?_
      simp only [FakeCogneeRuntime.perform, FakeCogneeRuntime.lockEnter, hvalid, ht.fake]

theorem answersAs_resolveDataset (name tenant : String) (s : ScriptedRuntime) :
    AnswersAs (.resolveDataset name tenant) s (answer (.resolveDataset name tenant) s) := by
  simp only [answer, perform, resolveDataset, EStateM.run_bind]
  obtain ⟨s', ⟨hfire, ht⟩ | ⟨fault, hfire, ht⟩⟩ := run_fire "resolve_dataset" (by decide) s
  · simp only [hfire, EStateM.run_get, EStateM.run_pure]
    refine AnswersAs.paid (s := s) (f := none) ht rfl rfl (by simp) ?_
    simp only [FakeCogneeRuntime.perform, FakeCogneeRuntime.resolveDataset, ht.fake]
  · simp only [hfire]
    refine AnswersAs.paid (s := s) (f := some ⟨fault.error, none⟩) ht rfl rfl (by simp) ?_
    simp only [FakeCogneeRuntime.perform, FakeCogneeRuntime.resolveDataset, ht.fake]

theorem answersAs_listDocuments (handle : DatasetHandle) (s : ScriptedRuntime) :
    AnswersAs (.listDocuments handle) s (answer (.listDocuments handle) s) := by
  simp only [answer, perform, listDocuments, EStateM.run_bind, run_validateHandle]
  cases hvalid : s.fake.validateHandle handle with
  | error e =>
    exact .free (by simp [FakeCogneeRuntime.perform, FakeCogneeRuntime.listDocuments, hvalid])
  | ok u =>
    exact .free (by simp [FakeCogneeRuntime.perform, FakeCogneeRuntime.listDocuments, hvalid])

/-- A torn delete tears every row. -/
theorem deleteAll_torn (ds : Documents) (dataIds : List UUID) :
    dataIds.foldl (fun ds i => ds.modify i FakeDocument.tear) ds =
      ds.deleteAll (dataIds.zip (dataIds.map fun _ => .torn)) := by
  induction dataIds generalizing ds with
  | nil => rfl
  | cons i dataIds ih => exact ih _

theorem deleteAll_done (ds : Documents) (dataIds : List UUID) :
    dataIds.foldl (fun ds i => ds.erase i) ds = ds.deleteAll (dataIds.map fun i => (i, .done)) := by
  rw [Documents.deleteAll, List.foldl_map]
  rfl

theorem answersAs_deleteDocuments (handle : DatasetHandle) (dataIds : List UUID)
    (s : ScriptedRuntime) : AnswersAs (.deleteDocuments handle dataIds) s
      (answer (.deleteDocuments handle dataIds) s) := by
  simp only [answer, perform, deleteDocuments, EStateM.run_bind, run_validateHandle]
  cases hvalid : s.fake.validateHandle handle with
  | error e =>
    exact .free (by simp [FakeCogneeRuntime.perform, FakeCogneeRuntime.deleteDocuments, hvalid])
  | ok u =>
    obtain ⟨fault, s', hnext, ht⟩ := run_nextFault "delete_documents" (by decide)
      { s with fake := log "delete_documents" handle (dataIds.map Platform.uuidStr) s.fake }
    simp only [run_onFake, hnext]
    cases fault with
    | none =>
      refine AnswersAs.paid (s := s) (f := none) ht rfl rfl (by simp) ?_
      simp only [FakeCogneeRuntime.perform, FakeCogneeRuntime.deleteDocuments, hvalid, ht.fake,
        deleteAll_done]
    | some fault =>
      cases htorn : fault.torn with
      | true =>
        simp only [htorn, if_true, EStateM.run_bind, run_onFake, EStateM.run_throw]
        refine AnswersAs.paid (s := s)
          (f := some ⟨fault.error, some (dataIds.map fun _ => .torn)⟩) ht rfl rfl (by simp) ?_
        simp only [FakeCogneeRuntime.perform, FakeCogneeRuntime.deleteDocuments, hvalid, ht.fake,
          deleteAll_torn]
      | false =>
        simp only [htorn, Bool.false_eq_true, if_false, EStateM.run_throw]
        refine AnswersAs.paid (s := s) (f := some ⟨fault.error, some []⟩) ht rfl rfl (by simp) ?_
        simp only [FakeCogneeRuntime.perform, FakeCogneeRuntime.deleteDocuments, hvalid, ht.fake,
          List.zip_nil_right]
        rw [modifyRows_of_id (f := fun ds => ds.deleteAll []) fun ds => rfl]

/-- The loop of `add_documents` applies a prefix of the payloads: all of them,
    or those before its fault. -/
theorem addLoop_cases (fault : Option ScriptedFault) (index : ℕ)
    (payloads : List DocumentPayload) (documents : Documents) (applied : List DocumentPayload) :
    ∃ n, addLoop fault index payloads documents applied =
        (.ok (), documents.addAll payloads, applied ++ payloads) ∨
      ∃ f ∈ fault, addLoop fault index payloads documents applied =
        (.error f.error, documents.addAll (payloads.take n), applied ++ payloads.take n) := by
  induction payloads generalizing index documents applied with
  | nil => exact ⟨0, .inl (by simp [addLoop, Documents.addAll])⟩
  | cons payload payloads ih =>
    rw [addLoop]
    cases hraised : raisedAt index fault with
    | some e =>
      obtain ⟨f, hf, rfl⟩ : ∃ f ∈ fault, f.error = e := by
        cases fault with
        | none => cases hraised
        | some f =>
          simp only [raisedAt] at hraised
          refine ⟨f, rfl, ?_⟩
          split at hraised
          · split_ifs at hraised
            exact Option.some.inj hraised
          · exact Option.some.inj hraised
      exact ⟨0, .inr ⟨f, hf, by simp [Documents.addAll]⟩⟩
    | none =>
      obtain ⟨n, h | ⟨f, hf, h⟩⟩ := ih (index + 1) (documents.addOne payload) (applied ++ [payload])
      · exact ⟨n, .inl (by simp [h, Documents.addAll])⟩
      · exact ⟨n + 1, .inr ⟨f, hf, by simp [h, Documents.addAll]⟩⟩

theorem answersAs_addDocuments (handle : DatasetHandle) (payloads : List DocumentPayload)
    (s : ScriptedRuntime) : AnswersAs (.addDocuments handle payloads) s
      (answer (.addDocuments handle payloads) s) := by
  simp only [answer, perform, addDocuments, EStateM.run_bind, run_validateHandle]
  cases hvalid : s.fake.validateHandle handle with
  | error e =>
    exact .free (by simp [FakeCogneeRuntime.perform, FakeCogneeRuntime.addDocuments, hvalid])
  | ok u =>
    simp only []
    cases hempty : payloads.isEmpty with
    | true =>
      exact .free (by
        simp [FakeCogneeRuntime.perform, FakeCogneeRuntime.addDocuments, hvalid, hempty])
    | false =>
      obtain ⟨fault, s', hnext, ht⟩ := run_nextFault "add_documents" (by decide) s
      simp only [Bool.false_eq_true, if_false, EStateM.run_bind, hnext, EStateM.run_get]
      obtain ⟨n, h | ⟨f, hf, h⟩⟩ :=
        addLoop_cases fault 0 payloads (s'.fake.ensureDataset handle).documents []
      · -- The fault, if there is one, was for a later payload.
        simp only [h]
        refine AnswersAs.paid (s := s) (f := none) ht rfl rfl (by simp) ?_
        simp only [FakeCogneeRuntime.perform, FakeCogneeRuntime.addDocuments, hvalid, ht.fake,
          hempty, Bool.false_eq_true, if_false, List.nil_append]
      · simp only [h]
        refine AnswersAs.paid (s := s) (f := some ⟨f.error, some (List.replicate n .done)⟩) ht rfl
          rfl (fun _ => by simp [Option.mem_def.1 hf]) ?_
        simp only [FakeCogneeRuntime.perform, FakeCogneeRuntime.addDocuments, hvalid, ht.fake,
          hempty, Bool.false_eq_true, if_false, List.nil_append, List.length_replicate]

/-- A scripted runtime answers every call as the in-memory one does under some fault. -/
theorem answersAs (c : RuntimeCall) (s : ScriptedRuntime) : AnswersAs c s (answer c s) := by
  cases c with
  | resolveDataset name tenant => exact answersAs_resolveDataset name tenant s
  | addDocuments handle payloads => exact answersAs_addDocuments handle payloads s
  | purgeDocumentMemory handle dataIds => exact answersAs_purgeDocumentMemory handle dataIds s
  | deleteDocuments handle dataIds => exact answersAs_deleteDocuments handle dataIds s
  | cognifyDataset handle profile => exact answersAs_cognifyDataset handle profile s
  | teardownDataset handle => exact answersAs_teardownDataset handle s
  | listDocuments handle => exact answersAs_listDocuments handle s
  | lockEnter handle => exact answersAs_lockEnter handle s
  | lockExit handle => exact .free rfl

/-- A program runs on a scripted runtime as it does under some script of
    faults, which are paid for. -/
theorem exists_run {α : Type} (p : Program α) (s : ScriptedRuntime) : ∃ faults,
    Coroutine.run FakeCogneeRuntime.perform p faults s.fake =
      ((Coroutine.exec answer p s).1, (Coroutine.exec answer p s).2.fake) ∧
    (Coroutine.exec answer p s).2.budget ≤ s.budget ∧
    (faults ≠ [] → (Coroutine.exec answer p s).2.budget < s.budget) :=
  Coroutine.exists_run_of_exec _ answersAs p s

end ScriptedRuntime

end

end Cogindex
