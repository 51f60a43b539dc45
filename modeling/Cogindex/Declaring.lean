import Cogindex.Datasets
import Cogindex.Processing
import Cogindex.Tracking

/-!
# Declaring datasets and documents

The public interface. `datasetTarget` builds the target state of a dataset from
the arguments of an application, and `declareDocument` hands the specification
of a document to the engine, under the normal form of its external key. Both
raise for what they do not accept. What they accept is a `MountedDataset`: a key
with valid coordinates, a specification, and the documents by their keys.

* `datasetTarget_ok`: a target that is built has a processing fingerprint, unless
  JSON does not have the values of its configuration (`Fingerprinted`);
* `getElem?_declareDocuments`, `mem_declareDocuments`: which documents are declared.
-/

namespace Cogindex

open Coroutine

section

variable [Platform]

/-! ## Fingerprints -/

/-- A value that JSON has, with strings as keys at every depth. -/
def PyValue.Writable (v : PyValue PyFloat) : Prop :=
  validateJsonObjectKeys v = .ok () ∧ ∃ j, toJson v = .ok j

/-- A mapping of such values has a fingerprint. -/
theorem exists_fingerprintJson_dict {es : List (PyKey × PyValue PyFloat)}
    (h : ∀ e ∈ es, (∃ k, e.1 = .str k) ∧ e.2.Writable) :
    ∃ f, fingerprintJson (.dict es) = .ok f := by
  have hkeys : validateJsonEntries es = .ok () := by
    induction es with
    | nil => rfl
    | cons e es ih =>
      obtain ⟨⟨k, hk⟩, hv, -⟩ := h e List.mem_cons_self
      obtain ⟨key, v⟩ := e
      subst hk
      rw [validateJsonEntries, hv, ok_bind]
      exact ih fun e he => h e (List.mem_cons_of_mem _ he)
  have hjson : ∀ fs : List (PyKey × PyValue PyFloat), (∀ e ∈ fs, e ∈ es) →
      ∃ js, List.Forall₂ WritesEntry fs js := by
    intro fs hfs
    induction fs with
    | nil => exact ⟨[], .nil⟩
    | cons e fs ih =>
      obtain ⟨⟨k, hk⟩, -, j, hj⟩ := h e (hfs e List.mem_cons_self)
      obtain ⟨js, hjs⟩ := ih fun e he => hfs e (List.mem_cons_of_mem _ he)
      exact ⟨(k, j) :: js, .cons ⟨hk, hj⟩ hjs⟩
  obtain ⟨js, hjs⟩ := hjson (es.insertionSort entryLE)
    fun e he => (List.mem_insertionSort _).1 he
  exact ⟨_, fingerprintJson_ok_iff.2 ⟨hkeys, _, toJson_dict_ok_iff.2 ⟨js, hjs, rfl⟩, rfl⟩⟩

theorem optionalText_writable (s : Option String) : (optionalText s).Writable := by
  cases s with
  | none => exact ⟨rfl, _, rfl⟩
  | some s => exact ⟨rfl, _, rfl⟩

/-- The twin of a profile has a fingerprint, unless its chunks are too large. -/
theorem ProcessingConfig.Twin.exists_fingerprint {cognee : CogneeInstallation}
    {profile : CognifyProfile} {includeRuntimeModels : Bool} {config : ProcessingConfig}
    (h : config.Twin cognee profile includeRuntimeModels)
    (htext : ∀ i ∈ cognee.effectiveChunkSize profile, HasText i) :
    ∃ f, config.fingerprint = .ok f := by
  obtain ⟨schema, hschema, -⟩ := h.graphModelSchemaFingerprint
  obtain ⟨runtime, hruntime, -⟩ := h.runtimeConfigFingerprint
  have hsize : (config.chunkSize.elim .none fun n => .int n : PyValue PyFloat).Writable := by
    cases hsize : config.chunkSize with
    | none => exact ⟨rfl, _, rfl⟩
    | some n =>
      have hn : HasText n := htext n (by rw [← h.chunkSize, hsize]; rfl)
      exact ⟨rfl, _, if_pos hn⟩
  refine exists_fingerprintJson_dict ?_
  rw [h.graphModelId, hschema, h.chunkerId, h.customPromptFingerprint, h.temporalCognify, hruntime,
    h.extras]
  simp only [List.forall_mem_cons]
  exact ⟨⟨⟨_, rfl⟩, optionalText_writable _⟩, ⟨⟨_, rfl⟩, optionalText_writable _⟩,
    ⟨⟨_, rfl⟩, optionalText_writable _⟩, ⟨⟨_, rfl⟩, hsize⟩,
    ⟨⟨_, rfl⟩, optionalText_writable _⟩, ⟨⟨_, rfl⟩, rfl, _, rfl⟩,
    ⟨⟨_, rfl⟩, optionalText_writable _⟩, ⟨⟨_, rfl⟩, rfl, _, rfl⟩,
    fun _ h => absurd h List.not_mem_nil⟩

/-! ## Datasets -/

/-- The argument `runtime`: a context key, or another object. -/
inductive RuntimeArgument
  | contextKey (key : String)
  | other (typeName : String)

/-- The key of a context key. -/
def RuntimeArgument.key : RuntimeArgument → Except PyError String
  | contextKey key => .ok key
  | other _ => .error ⟨.typeError, "runtime must be a ContextKey; its non-secret key is persisted"⟩

/-- An argument that has to be of a class, unless it is `None`. -/
inductive ClassArgument (α : Type)
  | none
  | given (a : α)
  | other (typeName : String)

/-- The argument, if one is given. -/
def ClassArgument.given? {α : Type} : ClassArgument α → Option α
  | given a => some a
  | _ => Option.none

/-- The argument, once its type has been checked. -/
def ClassArgument.check {α : Type} (name className : String) :
    ClassArgument α → Except PyError (Option α)
  | none => .ok Option.none
  | given a => .ok (some a)
  | other typeName =>
    .error ⟨.typeError, name ++ " must be " ++ className ++ ", got " ++ typeName⟩

/-- `ManagedBy(managed_by)`, of a member or of the text of one. -/
def ManagedBy.ofArgument : ManagedBy ⊕ String → Except PyError ManagedBy
  | .inl managedBy => .ok managedBy
  | .inr value =>
    if value = "system" then .ok .system
    else if value = "user" then .ok .user
    else .error ⟨.valueError, Platform.strRepr value ++ " is not a valid ManagedBy"⟩

/-- The arguments of `dataset_target`. -/
structure DatasetArguments where
  runtime : RuntimeArgument
  name : String
  profile : ClassArgument CognifyProfile := .none
  processing : ClassArgument ProcessingConfig := .none
  tenant : String := "default"
  managedBy : ManagedBy ⊕ String := .inl .system

/-- The configuration that is given, or the twin of the profile. -/
def CogneeInstallation.resolvedProcessing (cognee : CogneeInstallation) (profile : CognifyProfile) :
    Option ProcessingConfig → Except PyError ProcessingConfig
  | some config => .ok config
  | none => cognee.processingConfigFromProfile profile true

/-- The target state of a dataset: its key and its specification. -/
def datasetTarget (cognee : CogneeInstallation) (args : DatasetArguments) :
    Except PyError (DatasetKey × CogneeDatasetSpec) := do
  let runtimeKey ← args.runtime.key
  let profile ← args.profile.check "profile" "CognifyProfile"
  let processing ← args.processing.check "processing" "ProcessingConfig"
  let hr ← attachOk (validateRuntimeKey runtimeKey)
  let ht ← attachOk (validateCoordinate args.tenant "tenant")
  let hn ← attachOk (validateCoordinate args.name "dataset_name")
  let profile := profile.getD {}
  let processing ← cognee.resolvedProcessing profile processing
  let managedBy ← ManagedBy.ofArgument args.managedBy
  return ({ runtimeKey, tenant := args.tenant, datasetName := args.name,
            runtimeKey_ok := validateRuntimeKey_ok_iff.1 hr.2,
            tenant_ok := validateCoordinate_ok_iff.1 ht.2,
            datasetName_ok := validateCoordinate_ok_iff.1 hn.2 },
    { profile, processing, managedBy })

/-- The arguments have a fingerprint: that of the configuration that is given, or
    one of the profile, whose chunks are not too large. -/
structure DatasetArguments.Fingerprinted (cognee : CogneeInstallation) (args : DatasetArguments) :
    Prop where
  given : ∀ config, args.processing = .given config → ∃ f, config.fingerprint = .ok f
  derived : args.processing = .none →
    ∀ i ∈ cognee.effectiveChunkSize (args.profile.given?.getD {}), HasText i

section

variable {cognee : CogneeInstallation} {args : DatasetArguments} {key : DatasetKey}
  {spec : CogneeDatasetSpec}

/-- A target that is built has the coordinates that were given, and a
    configuration with a fingerprint. -/
theorem datasetTarget_ok (h : datasetTarget cognee args = .ok (key, spec))
    (hargs : args.Fingerprinted cognee) :
    args.runtime = .contextKey key.runtimeKey ∧ key.datasetName = args.name ∧
      key.tenant = args.tenant ∧ ∃ f, spec.processing.fingerprint = .ok f := by
  simp only [datasetTarget, bind_eq_ok] at h
  obtain ⟨runtimeKey, hruntime, profile, hprofile, processing, hprocessing, hr, -, ht, -, hn, -,
    config, hconfig, managedBy, -, h⟩ := h
  have hgiven : args.profile.given? = profile := by
    cases hargument : args.profile <;> rw [hargument] at hprofile <;> cases hprofile <;> rfl
  cases pure_eq_ok.1 h
  refine ⟨?_, rfl, rfl, ?_⟩
  · cases hargument : args.runtime with
    | contextKey key =>
      rw [hargument] at hruntime
      cases hruntime
      rfl
    | other typeName =>
      rw [hargument] at hruntime
      cases hruntime
  · cases hargument : args.processing with
    | none =>
      rw [hargument] at hprocessing
      cases hprocessing
      exact (twin_of_ok hconfig).exists_fingerprint (hgiven ▸ hargs.derived hargument)
    | given given =>
      rw [hargument] at hprocessing
      cases hprocessing
      cases hconfig
      exact hargs.given _ hargument
    | other typeName =>
      rw [hargument] at hprocessing
      cases hprocessing

end

/-! ## Documents -/

/-- The arguments of `declare_document`. -/
structure DocumentArguments where
  externalKey : String
  content : PyValue PyFloat
  label : PyValue PyFloat := .none
  externalMetadata : PyValue PyFloat := .none
  nodeSet : PyValue PyFloat := .none
  importanceWeight : PyValue PyFloat := .none
  metadata_wf : externalMetadata.WellFormed

namespace DocumentArguments

/-- `tuple(node_set)`, unless it is `None`. -/
def nodeTuple (args : DocumentArguments) : Except PyError (PyValue PyFloat) :=
  match args.nodeSet with
  | .none => .ok .none
  | .str _ | .bytes _ =>
    .error ⟨.typeError, "node_set must be a sequence of strings, not str or bytes"⟩
  | nodeSet => do return .tuple (← nodeSet.iter)

/-- The specification that is declared. -/
def spec (args : DocumentArguments) : Except PyError CogneeDocumentSpec := do
  let nodeSet ← args.nodeTuple
  CogneeDocumentSpec.init args.content args.label args.externalMetadata args.metadata_wf nodeSet
    args.importanceWeight

end DocumentArguments

/-- `DatasetTarget.declare_document`: the specification joins what is declared,
    under the normal form of the key. -/
def declareDocument (hnfc : NfcLaws) (declared : Declared) (args : DocumentArguments) :
    Except PyError Declared := do
  let spec ← args.spec
  let ⟨_, hkey⟩ ← attachOk (normalizeExternalKey args.externalKey)
  return declared.insert (.ofExternalKey hnfc hkey) spec

/-- The documents of a dataset, declared one after the other. -/
def declareDocuments (hnfc : NfcLaws) (documents : List DocumentArguments) :
    Except PyError Declared :=
  documents.foldlM (declareDocument hnfc) ∅

section

variable {hnfc : NfcLaws} {declared declared' : Declared} {args : DocumentArguments}
  {documents : List DocumentArguments}

theorem declareDocument_ok (h : declareDocument hnfc declared args = .ok declared') :
    ∃ (key : DocumentKey) (spec : CogneeDocumentSpec), key.text = Platform.nfc args.externalKey ∧
      Coordinate args.externalKey ∧ args.spec = .ok spec ∧
      declared' = declared.insert key spec := by
  simp only [declareDocument, bind_eq_ok] at h
  obtain ⟨spec, hspec, ⟨text, htext⟩, -, h⟩ := h
  obtain ⟨hkey, rfl⟩ := normalizeExternalKey_ok_iff.1 htext
  exact ⟨_, spec, rfl, hkey, hspec, (pure_eq_ok.1 h).symm⟩

/-- Declaring documents leaves those of other keys alone. -/
theorem getElem?_foldlM_declareDocument
    (h : documents.foldlM (declareDocument hnfc) declared = .ok declared') {key : DocumentKey}
    (hkey : ∀ args ∈ documents, Platform.nfc args.externalKey ≠ key.text) :
    declared'[key]? = declared[key]? := by
  induction documents generalizing declared with
  | nil =>
    cases h
    rfl
  | cons args documents ih =>
    rw [List.foldlM_cons, bind_eq_ok] at h
    obtain ⟨declared₁, hargs, h⟩ := h
    obtain ⟨key₁, spec, htext, -, -, rfl⟩ := declareDocument_ok hargs
    rw [ih h fun args hargs => hkey args (List.mem_cons_of_mem _ hargs),
      Std.ExtTreeMap.getElem?_insert, if_neg]
    rw [compare_eq_iff_eq]
    rintro rfl
    exact hkey args List.mem_cons_self htext.symm

/-- The documents that have been declared. -/
theorem mem_foldlM_declareDocument
    (h : documents.foldlM (declareDocument hnfc) declared = .ok declared') {key : DocumentKey} :
    key ∈ declared' ↔
      (∃ args ∈ documents, key.text = Platform.nfc args.externalKey) ∨ key ∈ declared := by
  induction documents generalizing declared with
  | nil =>
    cases h
    simp
  | cons args documents ih =>
    rw [List.foldlM_cons, bind_eq_ok] at h
    obtain ⟨declared₁, hargs, h⟩ := h
    obtain ⟨key₁, spec, htext, -, -, rfl⟩ := declareDocument_ok hargs
    have hkey : compare key₁ key = .eq ↔ key.text = Platform.nfc args.externalKey := by
      rw [compare_eq_iff_eq, ← htext, eq_comm, DocumentKey.text_injective.eq_iff]
    rw [ih h, Std.ExtTreeMap.mem_insert, hkey, List.exists_mem_cons_iff, or_left_comm, or_assoc]

theorem mem_declareDocuments (h : declareDocuments hnfc documents = .ok declared)
    {key : DocumentKey} :
    key ∈ declared ↔ ∃ args ∈ documents, key.text = Platform.nfc args.externalKey :=
  (mem_foldlM_declareDocument h).trans (or_iff_left Std.ExtTreeMap.not_mem_empty)

/-- A document is declared as it was specified, if no other one has its key. -/
theorem getElem?_declareDocuments (h : declareDocuments hnfc documents = .ok declared)
    (hkeys : documents.Pairwise fun a b => Platform.nfc a.externalKey ≠ Platform.nfc b.externalKey)
    (hargs : args ∈ documents) :
    ∃ (key : DocumentKey) (spec : CogneeDocumentSpec), key.text = Platform.nfc args.externalKey ∧
      Coordinate args.externalKey ∧ args.spec = .ok spec ∧ declared[key]? = some spec := by
  rw [declareDocuments] at h
  generalize (∅ : Declared) = start at h
  induction documents generalizing start with
  | nil => exact absurd hargs List.not_mem_nil
  | cons first documents ih =>
    rw [List.foldlM_cons, bind_eq_ok] at h
    obtain ⟨declared₁, hfirst, h⟩ := h
    rw [List.pairwise_cons] at hkeys
    rcases List.mem_cons.1 hargs with rfl | hargs
    · -- The documents after it have other keys.
      obtain ⟨key, spec, htext, hcoordinate, hspec, rfl⟩ := declareDocument_ok hfirst
      refine ⟨key, spec, htext, hcoordinate, hspec, ?_⟩
      rw [getElem?_foldlM_declareDocument h fun args hargs heq =>
        hkeys.1 args hargs (htext.symm.trans heq.symm), Std.ExtTreeMap.getElem?_insert_self]
    · exact ih hkeys.2 hargs declared₁ h

end

/-! ## Mounted datasets -/

/-- A dataset that an application has mounted: what it is to be, and its documents. -/
structure MountedDataset where
  key : DatasetKey
  spec : CogneeDatasetSpec
  declared : Declared

/-- `mount_dataset_target`, and then a `declare_document` for each document. -/
def mountDataset (cognee : CogneeInstallation) (hnfc : NfcLaws) (args : DatasetArguments)
    (documents : List DocumentArguments) : Except PyError MountedDataset := do
  let (key, spec) ← datasetTarget cognee args
  let declared ← declareDocuments hnfc documents
  return { key, spec, declared }

theorem mountDataset_ok {cognee : CogneeInstallation} {hnfc : NfcLaws} {args : DatasetArguments}
    {documents : List DocumentArguments} {m : MountedDataset}
    (h : mountDataset cognee hnfc args documents = .ok m) :
    datasetTarget cognee args = .ok (m.key, m.spec) ∧
      declareDocuments hnfc documents = .ok m.declared := by
  simp only [mountDataset, bind_eq_ok] at h
  obtain ⟨⟨key, spec⟩, htarget, declared, hdeclared, h⟩ := h
  cases pure_eq_ok.1 h
  exact ⟨htarget, hdeclared⟩

end

/-- A dataset with a derived configuration. -/
def DatasetArguments.sample : @DatasetArguments .sample :=
  letI : Platform := .sample
  { runtime := .contextKey "rt", name := "docs", managedBy := .inr "user" }

theorem wellFormed_none_sample : @PyValue.WellFormed (@PyFloat .sample) .none := .none

/-- A document with a node set. -/
def DocumentArguments.sample : @DocumentArguments .sample :=
  letI : Platform := .sample
  { externalKey := "a.md", content := .str "alpha", nodeSet := .list [.str "n"],
    metadata_wf := wellFormed_none_sample }

/-- Nothing is given, and the chunks of the profile have no size. -/
theorem DatasetArguments.sample_fingerprinted :
    @DatasetArguments.Fingerprinted .sample .sample .sample := by
  let _ : Platform := .sample
  exact ⟨fun _ hconfig => (by cases hconfig), fun _ _ hi => (by cases hi)⟩

/-- Both of them are accepted. -/
theorem exists_mountDataset_sample :
    letI : Platform := .sample
    ∃ m, mountDataset .sample Platform.sample_nfc .sample [.sample] = .ok m := by
  let _ : Platform := .sample
  have hmount : (mountDataset .sample Platform.sample_nfc .sample [.sample]).toOption.isSome := by
    decide +kernel
  exact exists_ok_of_isSome hmount

end Cogindex
