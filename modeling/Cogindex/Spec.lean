import Cogindex.Fingerprint

/-!
# Specifications and tracking records

What a document of a dataset should be (`CogneeDocumentSpec`), what shapes the
derivatives that Cognee builds from it (`ProcessingConfig`, the declarative
twin of the `CognifyProfile` that Cognee is called with), and the record of
both that is kept in the tracking store (`DocumentRecord`).

Specifications are built by `CogneeDocumentSpec.init` from arbitrary values,
and carry the fingerprints of their fields: an invalid value is rejected when
it is declared, so that reconciling never computes a fingerprint that fails.
-/

namespace Cogindex

/-- Bumped when the layout of the records changes incompatibly. -/
def RECORD_SCHEMA_VERSION : ℕ := 2

/-- The characters that `str.strip` removes. -/
def isPySpace (c : Char) : Bool :=
  let n := c.toNat
  (9 ≤ n && n ≤ 13) || (28 ≤ n && n ≤ 32) || n = 0x85 || n = 0xa0 || n = 0x1680 ||
    (0x2000 ≤ n && n ≤ 0x200a) || n = 0x2028 || n = 0x2029 || n = 0x202f || n = 0x205f || n = 0x3000

/-- A text that is empty once stripped. -/
def isBlank (s : String) : Bool := s.toList.all isPySpace

/-- The items of an iterable. -/
def PyValue.iter {F : Type} : PyValue F → Except PyError (List (PyValue F))
  | .list xs => .ok xs
  | .tuple xs => .ok xs
  | .str s => .ok (s.toList.map fun c => .str c.toString)
  | .bytes b => .ok (b.map fun n => .int n.toNat)
  | .dict es => .ok (es.map fun e => match e.1 with
    | .str s => .str s
    | .other t => .other t)
  | v => .error ⟨.typeError, "'" ++ v.typeName ++ "' object is not iterable"⟩

/-- A string, or the error `e`. -/
def PyValue.asStr {F : Type} (e : PyError) : PyValue F → Except PyError String
  | .str s => .ok s
  | _ => .error e

/-- The items of a pair, or the error `e`. -/
def asPair {α : Type} (e : PyError) : List α → Except PyError (α × α)
  | [a, b] => .ok (a, b)
  | _ => .error e

/-- The result of a computation with the proof that it is its result. -/
def attachOk {α : Type} : (x : Except PyError α) → Except PyError {a // x = .ok a}
  | .ok a => .ok ⟨a, rfl⟩
  | .error e => .error e

theorem attachOk_eq {α : Type} {x : Except PyError α} {a : α} (h : x = .ok a) :
    attachOk x = .ok ⟨a, h⟩ := by
  subst h
  rfl

section

variable [Platform]

/-! ## Datasets -/

/-- The parameters of `cognee.cognify()` that are managed; `none` is Cognee's default. -/
structure CognifyProfile where
  graphModel : Option PyType := none
  chunker : Option PyType := none
  chunkSize : Option ℕ := none
  customPrompt : Option String := none
  temporalCognify : Bool := false
  deriving DecidableEq

/-- The declarative description of everything that shapes derivatives. Only
    `chunkSize` and `extras` are checked; the other fields are any values. -/
structure ProcessingConfig where
  graphModelId : PyValue PyFloat
  graphModelSchemaFingerprint : PyValue PyFloat
  chunkerId : PyValue PyFloat
  chunkSize : Option ℕ
  customPromptFingerprint : PyValue PyFloat
  temporalCognify : PyValue PyFloat
  runtimeConfigFingerprint : PyValue PyFloat
  extras : List (String × String)
  fields_wf : ∀ v ∈ [graphModelId, graphModelSchemaFingerprint, chunkerId, customPromptFingerprint,
    temporalCognify, runtimeConfigFingerprint], v.WellFormed
  /-- The extras are sorted, and their keys are unique. -/
  extras_sorted : extras.Pairwise fun e f => e.1 < f.1

namespace ProcessingConfig

/-- A positive integer, or nothing. -/
def checkChunkSize : PyValue PyFloat → Except PyError (Option ℕ)
  | .none => .ok none
  | .int i =>
    if 0 < i then .ok (some i.toNat)
    else .error ⟨.valueError, "chunk_size must be a positive integer or None"⟩
  | _ => .error ⟨.valueError, "chunk_size must be a positive integer or None"⟩

/-- The extras, as pairs of strings. -/
def checkExtras (extras : PyValue PyFloat) : Except PyError (List (String × String)) := do
  let pairs : PyError := ⟨.typeError, "extras must be key/value string pairs"⟩
  let strings : PyError := ⟨.typeError, "extras keys and values must be strings"⟩
  let items ← (extras.iter.mapError fun _ => pairs)
  let items ← (items.mapM PyValue.iter).mapError fun _ => pairs
  let items ← items.mapM (asPair ⟨.valueError, "extras must contain exactly two values per entry"⟩)
  let typed ← items.mapM fun item => return (← item.1.asStr strings, ← item.2.asStr strings)
  if typed.any fun e => isBlank e.1 || e.1.toList.contains '\x00' then
    throw ⟨.valueError, "extras keys must be non-blank and contain no NUL"⟩
  if typed.any fun e => e.2.toList.contains '\x00' then
    throw ⟨.valueError, "extras values must not contain NUL"⟩
  return typed

/-- Pairs of strings, ordered by their first components. -/
def extraLE (e f : String × String) : Prop := e.1 ≤ f.1

instance : DecidableRel extraLE := fun e f => inferInstanceAs (Decidable (e.1 ≤ f.1))

omit [Platform] in
theorem pairwise_sorted {extras : List (String × String)} (h : (extras.map Prod.fst).Nodup) :
    (extras.insertionSort extraLE).Pairwise fun e f => e.1 < f.1 := by
  have htotal : Std.Total extraLE := ⟨fun e f => le_total e.1 f.1⟩
  have htrans : IsTrans _ extraLE := ⟨fun _ _ _ => le_trans (α := String)⟩
  have hnodup : ((extras.insertionSort extraLE).map Prod.fst).Nodup :=
    ((List.perm_insertionSort extraLE extras).map Prod.fst).nodup_iff.2 h
  exact ((List.pairwise_insertionSort extraLE extras).and (List.pairwise_map.1 hnodup)).imp
    fun h => lt_of_le_of_ne h.1 h.2

/-- `ProcessingConfig(...)`. As keys are unique, extras are sorted by their keys. -/
def init (graphModelId graphModelSchemaFingerprint chunkerId chunkSize customPromptFingerprint
    temporalCognify runtimeConfigFingerprint extras : PyValue PyFloat)
    (fields_wf : ∀ v ∈ [graphModelId, graphModelSchemaFingerprint, chunkerId,
      customPromptFingerprint, temporalCognify, runtimeConfigFingerprint], v.WellFormed) :
    Except PyError ProcessingConfig := do
  let chunkSize ← checkChunkSize chunkSize
  let extras ← checkExtras extras
  if h : (extras.map Prod.fst).Nodup then
    return { graphModelId, graphModelSchemaFingerprint, chunkerId, chunkSize,
             customPromptFingerprint, temporalCognify, runtimeConfigFingerprint,
             extras := extras.insertionSort extraLE, fields_wf, extras_sorted := pairwise_sorted h }
  else throw ⟨.valueError, "extras keys must be unique"⟩

/-- `dataclasses.asdict`. -/
def asdict (c : ProcessingConfig) : PyValue PyFloat := .dict
  [(.str "graph_model_id", c.graphModelId),
   (.str "graph_model_schema_fingerprint", c.graphModelSchemaFingerprint),
   (.str "chunker_id", c.chunkerId),
   (.str "chunk_size", c.chunkSize.elim .none fun n => .int n),
   (.str "custom_prompt_fingerprint", c.customPromptFingerprint),
   (.str "temporal_cognify", c.temporalCognify),
   (.str "runtime_config_fingerprint", c.runtimeConfigFingerprint),
   (.str "extras", .tuple (c.extras.map fun e => .tuple [.str e.1, .str e.2]))]

/-- The fingerprint that is kept in the records of the documents. -/
def fingerprint (c : ProcessingConfig) : Except PyError String := fingerprintJson c.asdict

end ProcessingConfig

/-! ## Documents -/

/-- Metadata: the entries of a dict, or nothing. -/
abbrev Metadata : Type := Option (List (PyKey × PyValue PyFloat))

/-- Metadata as a value. -/
def Metadata.toPyValue (metadata : Metadata) : PyValue PyFloat := metadata.elim .none .dict

/-- The fingerprint of what shapes derivatives besides the content. The order
    of the node set is presentation only. -/
def annotationsFingerprint (metadata : Metadata) (nodeSet : Option (List String)) :
    Except PyError String :=
  fingerprintJson (.dict
    [(.str "external_metadata", metadata.toPyValue),
     (.str "node_set", nodeSet.elim .none fun nodes =>
       .list ((nodes.insertionSort (· ≤ ·)).map .str))])

/-- The fingerprint of a weight. -/
def importanceWeightFingerprint (weight : Option PyFloat) : Except PyError String :=
  fingerprintJson (weight.elim .none .float)

/-- The fingerprint of the metadata that shapes no derivative. -/
def metadataFingerprint (label : Option String) : Except PyError String :=
  fingerprintJson (.dict [(.str "label", label.elim .none .str)])

/-- The desired state of a document, with the fingerprints of its fields. -/
structure CogneeDocumentSpec where
  content : Content
  label : Option String
  externalMetadata : Metadata
  nodeSet : Option (List String)
  importanceWeight : Option PyFloat
  contentFingerprint : String
  annotationsFingerprint : String
  importanceWeightFingerprint : String
  metadataFingerprint : String
  metadata_wf : externalMetadata.toPyValue.WellFormed
  nodes_nodup : ∀ nodes ∈ nodeSet, nodes.Nodup
  weight_finite : ∀ w ∈ importanceWeight, Platform.floatIsFinite w = true
  content_eq : fingerprintContent content = contentFingerprint
  annotations_eq : Cogindex.annotationsFingerprint externalMetadata nodeSet =
    .ok annotationsFingerprint
  weight_eq : Cogindex.importanceWeightFingerprint importanceWeight =
    .ok importanceWeightFingerprint
  metadata_eq : Cogindex.metadataFingerprint label = .ok metadataFingerprint

namespace CogneeDocumentSpec

/-- A text or bytes. -/
def checkContent : PyValue PyFloat → Except PyError Content
  | .str s => .ok (.str s)
  | .bytes b => .ok (.bytes b)
  | v => .error ⟨.typeError, "content must be str or bytes, got " ++ v.typeName⟩

/-- A text, or nothing. -/
def checkLabel : PyValue PyFloat → Except PyError (Option String)
  | .none => .ok none
  | .str s => .ok (some s)
  | _ => .error ⟨.typeError, "label must be str or None"⟩

/-- A dict, or nothing. -/
def checkMetadata : (v : PyValue PyFloat) → v.WellFormed →
    Except PyError {m : Metadata // m.toPyValue.WellFormed}
  | .none, h => .ok ⟨none, h⟩
  | .dict es, h => .ok ⟨some es, h⟩
  | _, _ => .error ⟨.typeError, "external_metadata must be dict or None"⟩

/-- Distinct texts that are not blank, or nothing. -/
def checkNodeSet (nodeSet : PyValue PyFloat) :
    Except PyError {nodes : Option (List String) // ∀ ns ∈ nodes, ns.Nodup} :=
  match nodeSet with
  | .none => .ok ⟨none, nofun⟩
  | .str _ | .bytes _ =>
    .error ⟨.typeError, "node_set must be a sequence of strings, not str or bytes"⟩
  | v => do
    let nodes ← v.iter
    let nodes ← nodes.mapM (PyValue.asStr ⟨.typeError, "every node_set entry must be str"⟩)
    if nodes.any fun node => isBlank node || node.toList.contains '\x00' then
      throw ⟨.valueError, "node_set entries must be non-blank and contain no NUL"⟩
    if h : nodes.Nodup then return ⟨some nodes, fun _ hns => Option.some.inj hns ▸ h⟩
    else throw ⟨.valueError, "node_set entries must be unique"⟩

/-- A finite number as a float, or nothing. -/
def checkWeight (weight : PyValue PyFloat) :
    Except PyError {w : Option PyFloat // ∀ x ∈ w, Platform.floatIsFinite x = true} := do
  let finite (x : PyFloat) :
      Except PyError {w : Option PyFloat // ∀ x ∈ w, Platform.floatIsFinite x = true} :=
    if h : Platform.floatIsFinite x = true then
      .ok ⟨some x, fun _ hx => Option.some.inj hx ▸ h⟩
    else .error ⟨.valueError, "importance_weight must be a finite number or None"⟩
  match weight with
  | .none => .ok ⟨none, nofun⟩
  | .int i =>
    match Platform.floatOfInt i with
    | some x => finite x
    | none => .error ⟨.overflowError, "int too large to convert to float"⟩
  | .float x => finite x
  | _ => .error ⟨.typeError, "importance_weight must be a finite number or None"⟩

/-- `CogneeDocumentSpec(...)`. -/
def init (content label externalMetadata : PyValue PyFloat)
    (hmetadata : externalMetadata.WellFormed) (nodeSet importanceWeight : PyValue PyFloat) :
    Except PyError CogneeDocumentSpec := do
  let content ← checkContent content
  let label ← checkLabel label
  let ⟨metadata, metadata_wf⟩ ← checkMetadata externalMetadata hmetadata
  let _ ← fingerprintJson metadata.toPyValue
  let ⟨nodes, nodes_nodup⟩ ← checkNodeSet nodeSet
  let ⟨weight, weight_finite⟩ ← checkWeight importanceWeight
  let ⟨annotations, annotations_eq⟩ ← attachOk (Cogindex.annotationsFingerprint metadata nodes)
  let ⟨weightFingerprint, weight_eq⟩ ← attachOk (Cogindex.importanceWeightFingerprint weight)
  let ⟨labelFingerprint, metadata_eq⟩ ← attachOk (Cogindex.metadataFingerprint label)
  return { content, label, externalMetadata := metadata, nodeSet := nodes,
           importanceWeight := weight, contentFingerprint := fingerprintContent content,
           annotationsFingerprint := annotations,
           importanceWeightFingerprint := weightFingerprint,
           metadataFingerprint := labelFingerprint,
           metadata_wf, nodes_nodup, weight_finite, content_eq := rfl, annotations_eq, weight_eq,
           metadata_eq }

end CogneeDocumentSpec

/-! ## Records -/

/-- The tracking record of a document. Records from before the weight was
    recorded are decoded with an empty weight fingerprint. -/
structure DocumentRecord where
  dataId : UUID
  contentFingerprint : String
  annotationsFingerprint : String
  metadataFingerprint : String
  processingFingerprint : String
  importanceWeightFingerprint : String := ""
  schemaVersion : ℕ := RECORD_SCHEMA_VERSION
  deriving DecidableEq

/-- The tracking record of a converged document. -/
def documentRecordFor (spec : CogneeDocumentSpec) (dataId : UUID) (processingFingerprint : String) :
    DocumentRecord where
  dataId := dataId
  contentFingerprint := spec.contentFingerprint
  annotationsFingerprint := spec.annotationsFingerprint
  metadataFingerprint := spec.metadataFingerprint
  processingFingerprint := processingFingerprint
  importanceWeightFingerprint := spec.importanceWeightFingerprint

end

/-- A labelled text on the sample platform. -/
def CogneeDocumentSpec.sample (content label : String) : @CogneeDocumentSpec .sample :=
  letI : Platform := .sample
  { content := .str content
    label := some label
    externalMetadata := none
    nodeSet := none
    importanceWeight := none
    contentFingerprint := fingerprintContent (.str content)
    annotationsFingerprint := _
    importanceWeightFingerprint := _
    metadataFingerprint := _
    metadata_wf := .none
    nodes_nodup := nofun
    weight_finite := nofun
    content_eq := rfl
    annotations_eq := fingerprintJson_ok_iff.2
      ⟨rfl, .obj [("external_metadata", .null), ("node_set", .null)],
        by simp [toJson, entriesToJson, Metadata.toPyValue]; rfl, rfl⟩
    weight_eq := fingerprintJson_ok_iff.2 ⟨rfl, .null, rfl, rfl⟩
    metadata_eq := fingerprintJson_ok_iff.2
      ⟨rfl, .obj [("label", .str label)], by simp [toJson, entriesToJson]; rfl, rfl⟩ }

/-- Chunks of 100 on the sample platform. -/
def ProcessingConfig.sample : @ProcessingConfig .sample :=
  letI : Platform := .sample
  { graphModelId := .none
    graphModelSchemaFingerprint := .none
    chunkerId := .none
    chunkSize := some 100
    customPromptFingerprint := .none
    temporalCognify := .bool false
    runtimeConfigFingerprint := .none
    extras := []
    fields_wf := by
      simp only [List.forall_mem_cons]
      exact ⟨.none, .none, .none, .none, .bool _, .none, nofun⟩
    extras_sorted := .nil }

theorem ProcessingConfig.sample_fingerprint :
    letI : Platform := .sample
    ∃ f, ProcessingConfig.sample.fingerprint = .ok f := by
  let : Platform := .sample
  refine ⟨_, fingerprintJson_ok_iff.2 ⟨rfl, .obj [("chunk_size", .num (.inl 100)),
    ("chunker_id", .null), ("custom_prompt_fingerprint", .null), ("extras", .arr []),
    ("graph_model_id", .null), ("graph_model_schema_fingerprint", .null),
    ("runtime_config_fingerprint", .null), ("temporal_cognify", .bool false)], ?_, rfl⟩⟩
  have htext : HasText 100 := by decide
  simp [ProcessingConfig.asdict, ProcessingConfig.sample, toJson, entriesToJson, itemsToJson,
    htext]
  rfl

end Cogindex
