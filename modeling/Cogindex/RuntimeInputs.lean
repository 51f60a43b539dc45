import Cogindex.ModelArgs

/-!
# The runtime configuration of Cognee

What Cognee derives from a document also depends on settings that are no
arguments of `cognee.cognify()`: language models, embeddings, prompts and
ontologies. `configuredProcessingInputs` collects those that shape derivatives,
with digests in place of prompts, schemas and ontologies. It is fail-closed:
any setting that cannot be read is a `CompatibilityError`.

Everything that is read from the installed Cognee, the environment and the file
system is a field of `CogneeInstallation`; a read that raises is an error there.

* `configuredProcessingInputs_congr`: of `llm_args`, only the canonical value
  of the arguments matters.
-/

namespace Cogindex

section

variable [Platform]

/-! ## What is read -/

/-- A Python object: a class, or a value. -/
inductive PyObject
  | type (t : PyType)
  | value (v : PyValue PyFloat)

/-- An object with settings. -/
structure ConfigObject where
  /-- `type(config).__name__`. -/
  typeName : String
  /-- `getattr(config, field)`. -/
  attr : String → Except PyError (PyValue PyFloat)

/-- The defaults of the parameters of `cognee.cognify()`. -/
structure CogneeSignature where
  graphModel : PyObject
  chunker : PyObject
  chunkSize : PyObject
  customPrompt : Option String
  temporalCognify : Bool

/-- What is read from Cognee as it is installed and configured. -/
structure CogneeInstallation where
  version : String
  /-- The capabilities that are missing. -/
  problems : List String
  signature : CogneeSignature
  /-- `__module__` of a class. -/
  typeModule : PyType → String
  /-- `__qualname__` of a class. -/
  typeQualname : PyType → String
  /-- What `model_json_schema()` returns, for the classes that have it. -/
  modelJsonSchema : PyType → Option (Except PyError (PyValue PyFloat))
  modelJsonSchema_wf : ∀ t v, modelJsonSchema t = some (.ok v) → v.WellFormed
  /-- `get_llm_config()`. -/
  llmConfig : Except PyError ConfigObject
  /-- `str(getattr(llm_config, "llm_instructor_mode", ""))`. -/
  instructorMode : Except PyError String
  /-- `getattr(llm_config, "llm_args", None)`. -/
  llmArgs : ModelArg PyFloat
  /-- `llm_config.stage_config(stage)`. -/
  stageConfig : String → Except PyError ConfigObject
  /-- `get_model_max_completion_tokens(model)`. -/
  modelMaxCompletionTokens : String → Except PyError (PyValue PyFloat)
  /-- `get_embedding_config()`. -/
  embeddingConfig : Except PyError ConfigObject
  /-- The setting `EMBEDDING_DIMENSIONS` of the environment or a `.env` file. -/
  embeddingDimensionsSetting : Except PyError (Option String)
  /-- `_resolve_embedding_dimensions(provider, model)`. -/
  resolveEmbeddingDimensions : String → String → Except PyError (PyValue PyFloat)
  /-- `get_cognify_config()`. -/
  cognifyConfig : Except PyError ConfigObject
  /-- The models that the cognify configuration has under a field. -/
  cognifyModel : String → Except PyError PyObject
  /-- `get_ontology_env_config()`. -/
  ontologyConfig : Except PyError ConfigObject
  /-- `render_prompt` of a configured path. -/
  renderPrompt : String → Except PyError (PyValue PyFloat)
  /-- `read_query_prompt` of a file name. -/
  readPrompt : String → Except PyError (PyValue PyFloat)
  /-- `Path(path).read_bytes()`. -/
  readBytes : String → Except PyError (List UInt8)

/-! ## The installed version -/

/-- The version that is installed and the defaults of its `cognify()`. -/
structure CogneeCompat where
  version : String
  defaultGraphModel : Option PyType
  defaultChunker : Option PyType
  defaultChunkSize : Option ℤ

/-- A default that is a class. -/
def signatureDefaultType : PyObject → Option PyType
  | .type t => some t
  | .value _ => none

/-- A default that is an integer. -/
def signatureDefaultInt : PyObject → Option ℤ
  | .value (.int i) => some i
  | _ => none

namespace CogneeInstallation

/-- `_compat.load`. -/
def load (cognee : CogneeInstallation) : Except PyError CogneeCompat :=
  if cognee.problems = [] then
    .ok { version := cognee.version
          defaultGraphModel := signatureDefaultType cognee.signature.graphModel
          defaultChunker := signatureDefaultType cognee.signature.chunker
          defaultChunkSize := signatureDefaultInt cognee.signature.chunkSize }
  else .error ⟨.compatibilityError, "installed cognee " ++ cognee.version ++
    " is incompatible with cogindex:\n- " ++ "\n- ".intercalate cognee.problems⟩

/-- The qualified name of a class. -/
def qualifiedId (cognee : CogneeInstallation) (t : PyType) : String :=
  cognee.typeModule t ++ "." ++ cognee.typeQualname t

end CogneeInstallation

/-! ## Settings -/

namespace ConfigObject

variable (config : ConfigObject) (field : String)

/-- The error of a setting that is not what it must be. -/
def mustBe (kind : ErrorKind) (what : String) : PyError :=
  ⟨kind, config.typeName ++ "." ++ field ++ what⟩

/-- A non-empty text. -/
def requiredStr : Except PyError String := do
  match ← config.attr field with
  | .str s =>
    if s = "" then throw (config.mustBe field .typeError " must be non-empty text") else return s
  | _ => throw (config.mustBe field .typeError " must be non-empty text")

/-- A text, or nothing. -/
def requiredOptionalStr : Except PyError (Option String) := do
  match ← config.attr field with
  | .none => return none
  | .str s => return some s
  | _ => throw (config.mustBe field .typeError " must be text or None")

/-- A value that JSON has, other than a container. -/
def optionalScalar : Except PyError (PyValue PyFloat) := do
  let value ← config.attr field
  let error := config.mustBe field .typeError " is not a canonical scalar"
  match value with
  | .none | .str _ | .int _ | .bool _ => return value
  | .float x => if Platform.floatIsFinite x then return value else throw error
  | _ => throw error

/-- A finite number. -/
def finiteNumber : Except PyError (PyValue PyFloat) := do
  let value ← config.attr field
  match value with
  | .int _ => return value
  | .float x =>
    if Platform.floatIsFinite x then return value
    else throw (config.mustBe field .valueError " must be finite")
  | _ => throw (config.mustBe field .typeError " must be numeric")

/-- A positive integer. -/
def positiveInt : Except PyError ℤ := do
  let error := config.mustBe field .typeError " must be a positive integer"
  match ← config.attr field with
  | .int i => if 0 < i then return i else throw error
  | _ => throw error

/-- A Boolean. -/
def requiredBool : Except PyError Bool := do
  match ← config.attr field with
  | .bool b => return b
  | _ => throw (config.mustBe field .typeError " must be bool")

end ConfigObject

/-- The digest of bytes. -/
def digestBytes (data : List UInt8) : String := Platform.blake2b data

/-- The digest of a text. -/
def digestText (s : String) : String := digestBytes (utf8 s)

/-- The digest of a JSON value, as the schemas of models are. -/
def digestCanonical (v : PyValue PyFloat) : Except PyError String := do
  let payload ← toJson v
  return digestText (String.ofList (Json.write JsonNumber.text payload))

/-! ## Language models -/

/-- The settings of one language model. -/
structure LlmInputs where
  provider : String
  model : String
  apiVersion : PyValue PyFloat
  maxCompletionTokens : ℤ
  fallbackModel : PyValue PyFloat
  /-- The local model: the digest of its path, and the context and format of its chats. -/
  llamaCpp : Option (Option String × ℤ × String)

/-- The settings as a dict. -/
def LlmInputs.toPyValue (inputs : LlmInputs) : PyValue PyFloat := .dict <|
  [(.str "provider", .str inputs.provider),
   (.str "model", .str inputs.model),
   (.str "api_version", inputs.apiVersion),
   (.str "max_completion_tokens", .int inputs.maxCompletionTokens),
   (.str "fallback_model", inputs.fallbackModel)] ++
  inputs.llamaCpp.toList.map fun (path, tokens, format) => (.str "llama_cpp", .dict
    [(.str "model_path", path.elim .none .str),
     (.str "context_tokens", .int tokens),
     (.str "chat_format", .str format)])

/-- The settings of a language model, with its completions capped by the registry of models. -/
def llmDerivativeInputs (config : ConfigObject)
    (resolveModelMax : String → Except PyError (PyValue PyFloat)) : Except PyError LlmInputs := do
  let provider ← config.requiredStr "llm_provider"
  let model ← config.requiredStr "llm_model"
  let configuredMax ← config.positiveInt "llm_max_completion_tokens"
  let error : PyError := ⟨.typeError, "Cognee get_model_max_completion_tokens returned a " ++
    "non-positive integer for " ++ Platform.strRepr model⟩
  let effectiveMax ← match ← resolveModelMax model with
    | .none => pure configuredMax
    | .int i => if 0 < i then pure (min configuredMax i) else throw error
    | _ => throw error
  let apiVersion ← config.optionalScalar "llm_api_version"
  let fallbackModel ← config.optionalScalar "fallback_model"
  let llamaCpp ← if Platform.lower provider = "llama_cpp" then do
      let modelPath ← config.requiredOptionalStr "llama_cpp_model_path"
      let path := (modelPath.filter (· ≠ "")).map digestText
      let tokens ← config.positiveInt "llama_cpp_n_ctx"
      let format ← config.requiredStr "llama_cpp_chat_format"
      pure (some (path, tokens, format))
    else pure none
  return { provider, model, apiVersion, maxCompletionTokens := effectiveMax, fallbackModel,
           llamaCpp }

/-! ## Embeddings -/

/-- `int(raw)`, of a text in ASCII digits. -/
def parseInt (raw : String) : Option ℤ :=
  let digits (cs : List Char) : Option ℤ :=
    let groups := cs.splitOn '_'
    if groups.all fun g => g ≠ [] && g.all isAsciiDigit then
      some (groups.flatten.foldl (fun n c => 10 * n + (c.toNat - '0'.toNat : ℕ)) 0)
    else none
  match stripWhile isPySpace raw.toList with
  | '-' :: cs => (digits cs).map Neg.neg
  | '+' :: cs => digits cs
  | cs => digits cs

namespace CogneeInstallation

variable (cognee : CogneeInstallation)

/-- The width that is set explicitly. -/
def explicitEmbeddingDimensions : Except PyError (Option ℤ) := do
  let error : PyError := ⟨.valueError, "EMBEDDING_DIMENSIONS must be a positive integer"⟩
  match ← cognee.embeddingDimensionsSetting with
  | none => return none
  | some raw =>
    if isBlank raw then return none
    else match parseInt raw with
    | none => throw error
    | some i => if i ≤ 0 then throw error else return some i

/-- The configured width, once it agrees with the explicit one or the registry. -/
def resolvedEmbeddingDimensions (config : ConfigObject) (provider model : String) :
    Except PyError ℤ := do
  let configured ← config.positiveInt "embedding_dimensions"
  match ← cognee.explicitEmbeddingDimensions with
  | some explicit =>
    if configured ≠ explicit then
      throw ⟨.compatibilityError, "Cognee's live embedding dimensions disagree with explicit " ++
        "EMBEDDING_DIMENSIONS; restore the configured width before running a pipeline"⟩
    return configured
  | none =>
    match ← cognee.resolveEmbeddingDimensions provider model with
    | .none =>
      throw ⟨.compatibilityError, "Cognee embedding dimensions cannot be verified for " ++
        "unregistered model " ++ Platform.strRepr model ++ "; set EMBEDDING_DIMENSIONS to the " ++
        "model's actual vector width before constructing or running this target"⟩
    | .int registry =>
      if registry ≤ 0 then
        throw ⟨.typeError, "Cognee embedding dimension resolver returned an invalid value"⟩
      if configured ≠ registry then
        throw ⟨.compatibilityError, "Cognee's configured embedding dimensions disagree with its " ++
          "model registry for " ++ Platform.strRepr model ++ "; set EMBEDDING_DIMENSIONS " ++
          "explicitly to the model's actual vector width"⟩
      return configured
    | _ => throw ⟨.typeError, "Cognee embedding dimension resolver returned an invalid value"⟩

/-! ## Prompts, models and ontologies -/

/-- The digest of a rendered prompt. -/
def configuredPromptDigest (config : ConfigObject) (field : String) : Except PyError String := do
  let promptPath ← config.requiredStr field
  match ← cognee.renderPrompt promptPath with
  | .str s => return digestText s
  | _ => throw ⟨.typeError, "rendered prompt " ++ Platform.strRepr field ++ " is not text"⟩

/-- The digest of a prompt of Cognee itself. -/
def fixedPromptDigest (filename : String) : Except PyError String := do
  match ← cognee.readPrompt filename with
  | .str s => return digestText s
  | _ => throw ⟨.external, "could not read Cognee prompt " ++ Platform.strRepr filename⟩

/-- The digests of the ontologies. -/
def ontologyContentDigests (configuredPaths : Option String) : Except PyError (List String) := do
  match configuredPaths.filter (· ≠ "") with
  | none => return []
  | some configuredPaths =>
    let paths := (configuredPaths.toList.splitOn ',').map (stripWhile isPySpace)
    if paths.any (· = []) then
      throw ⟨.valueError, "ontology_file_path contains an empty path"⟩
    paths.mapM fun path => return digestBytes (← cognee.readBytes (String.ofList path))

/-- The id of a model and the digest of its schema. -/
def modelDescriptor : PyObject → Except PyError (PyValue PyFloat)
  | .value v =>
    throw ⟨.typeError, "configured cognify model must be a type, got " ++ v.typeName⟩
  | .type model => do
    let schema ← match cognee.modelJsonSchema model with
      | none => pure PyValue.none
      | some schema => pure (.str (← digestCanonical (← schema)))
    return .dict [(.str "id", .str (cognee.qualifiedId model)), (.str "schema", schema)]

/-! ## Inputs -/

/-- The settings of the language models. -/
def llmInputs (config : ConfigObject) (temporalCognify : Bool) :
    Except PyError (PyValue PyFloat) := do
  let framework ← config.requiredStr "structured_output_framework"
  let base ← llmDerivativeInputs config cognee.modelMaxCompletionTokens
  let instructorMode ← cognee.instructorMode
  let temperature ← config.finiteNumber "llm_temperature"
  let modelArgs ← canonicalModelArgs cognee.llmArgs
  let stages ← if temporalCognify then pure [] else do
    let extraction ← llmDerivativeInputs (← cognee.stageConfig "extraction")
      cognee.modelMaxCompletionTokens
    let summarization ← llmDerivativeInputs (← cognee.stageConfig "summarization")
      cognee.modelMaxCompletionTokens
    pure [(.str "extraction", extraction.toPyValue),
      (.str "summarization", summarization.toPyValue)]
  let baml ← if Platform.lower framework = "baml" then do
      let provider ← config.requiredStr "baml_llm_provider"
      let model ← config.requiredStr "baml_llm_model"
      let temperature ← config.finiteNumber "baml_llm_temperature"
      let apiVersion ← config.optionalScalar "baml_llm_api_version"
      pure [(PyKey.str "baml", PyValue.dict
        [(.str "provider", .str provider), (.str "model", .str model),
         (.str "temperature", temperature), (.str "api_version", apiVersion)])]
    else pure []
  return .dict <|
    [(.str "framework", .str (Platform.lower framework)),
     (.str "instructor_mode", .str (Platform.lower instructorMode)),
     (.str "temperature", temperature),
     (.str "model_args", modelArgs),
     (.str "base", base.toPyValue),
     -- The ceiling of the base client, also where a stage overrides the model.
     (.str "dynamic_chunk", .dict
       [(.str "provider", .str base.provider), (.str "model", .str base.model),
        (.str "max_completion_tokens", .int base.maxCompletionTokens)])] ++ stages ++ baml

/-- The settings of the embeddings. -/
def embeddingInputs (config : ConfigObject) : Except PyError (PyValue PyFloat) := do
  let provider ← config.requiredStr "embedding_provider"
  let model ← config.requiredStr "embedding_model"
  let dimensions ← cognee.resolvedEmbeddingDimensions config provider model
  let maxCompletionTokens ← config.positiveInt "embedding_max_completion_tokens"
  let tokenizer ← config.optionalScalar "huggingface_tokenizer"
  let apiVersion ← config.optionalScalar "embedding_api_version"
  return .dict
    [(.str "provider", .str provider), (.str "model", .str model),
     (.str "dimensions", .int dimensions),
     (.str "max_completion_tokens", .int maxCompletionTokens),
     (.str "tokenizer", tokenizer), (.str "api_version", apiVersion)]

/-- The prompts, the models and the ontology of a pipeline. -/
def pipelineInputs (llm cognify ontology : ConfigObject)
    (usesCustomGraphPrompt temporalCognify : Bool) :
    Except PyError (List (PyKey × PyValue PyFloat)) := do
  let classification ← cognee.fixedPromptDigest "classify_content.txt"
  let classificationModel ←
    cognee.modelDescriptor (← cognee.cognifyModel "classification_model")
  if temporalCognify then
    let temporalGraph ← cognee.configuredPromptDigest llm "temporal_graph_prompt_path"
    let eventEntity ← cognee.configuredPromptDigest llm "event_entity_prompt_path"
    return [(.str "cognify", .dict [(.str "classification_model", classificationModel)]),
      (.str "prompts", .dict
        [(.str "classification", .str classification), (.str "temporal_graph", .str temporalGraph),
         (.str "event_entity", .str eventEntity)])]
  else
    let graph ← if usesCustomGraphPrompt then pure [] else do
      pure [(.str "graph", .str (← cognee.configuredPromptDigest llm "graph_prompt_path"))]
    let summary ← cognee.fixedPromptDigest "summarize_content.txt"
    let summarizationModel ←
      cognee.modelDescriptor (← cognee.cognifyModel "summarization_model")
    let tripletEmbedding ← cognify.requiredBool "triplet_embedding"
    let resolver ← ontology.requiredStr "ontology_resolver"
    let matchingStrategy ← ontology.requiredStr "matching_strategy"
    let content ← cognee.ontologyContentDigests
      (← ontology.requiredOptionalStr "ontology_file_path")
    return [(.str "cognify", .dict
        [(.str "classification_model", classificationModel),
         (.str "summarization_model", summarizationModel),
         (.str "triplet_embedding", .bool tripletEmbedding)]),
      (.str "prompts", .dict <| [(.str "classification", .str classification)] ++ graph ++
        [(.str "summary", .str summary)]),
      (.str "ontology", .dict
        [(.str "resolver", .str resolver), (.str "matching_strategy", .str matchingStrategy),
         (.str "content", .list (content.map .str))])]

/-- An error that is no `CompatibilityError` already becomes one. -/
def asCompatibilityError (e : PyError) : PyError :=
  if e.kind = .compatibilityError then e
  else ⟨.compatibilityError, "could not read Cognee's derivative-affecting runtime " ++
    "configuration; pass an explicit ProcessingConfig to dataset_target() if automatic " ++
    "configuration invalidation cannot inspect this installation"⟩

/-- The settings that can change derivatives. -/
def configuredProcessingInputs (usesCustomGraphPrompt temporalCognify : Bool) :
    Except PyError (PyValue PyFloat) :=
  Except.mapError asCompatibilityError do
    let llmConfig ← cognee.llmConfig
    let embeddingConfig ← cognee.embeddingConfig
    let cognifyConfig ← cognee.cognifyConfig
    let ontologyConfig ← cognee.ontologyConfig
    let llm ← cognee.llmInputs llmConfig temporalCognify
    let embedding ← cognee.embeddingInputs embeddingConfig
    let pipeline ← cognee.pipelineInputs llmConfig cognifyConfig ontologyConfig
      usesCustomGraphPrompt temporalCognify
    let compat ← cognee.load
    let result : PyValue PyFloat := .dict <|
      [(.str "cognee_version", .str compat.version), (.str "llm", llm),
       (.str "embedding", embedding)] ++ pipeline
    let _ ← toJson result
    return result

/-- Of the arguments of the language models, only their canonical value matters. -/
theorem configuredProcessingInputs_congr {v : ModelArg PyFloat}
    (h : canonicalModelArgs cognee.llmArgs = canonicalModelArgs v)
    (usesCustomGraphPrompt temporalCognify : Bool) :
    cognee.configuredProcessingInputs usesCustomGraphPrompt temporalCognify =
      { cognee with llmArgs := v }.configuredProcessingInputs usesCustomGraphPrompt
        temporalCognify := by
  have hllm : ∀ config, cognee.llmInputs config temporalCognify =
      { cognee with llmArgs := v }.llmInputs config temporalCognify := by
    intro config
    simp only [llmInputs, h]
  simp only [configuredProcessingInputs, hllm]
  rfl

end CogneeInstallation

end

end Cogindex
