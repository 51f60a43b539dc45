import Cogindex.Spec

/-!
# Model arguments

The arguments that Cognee passes on to its language models (`llm_args`) mix
what shapes derivatives (temperatures, schemas, model names) with credentials,
endpoints and transport knobs. `canonicalModelArgs` copies a tree of arguments
without the latter: the kind of a key (`modelArgKind`) decides whether its
value is kept whole, looked into, or dropped, and a container that only drops
leaves nothing behind, an omission that goes up the tree.

* `ModelArg.Agrees`: two trees that differ in excluded entries only;
* `canonicalModelArgs_congr`: such trees have the same canonical value, or
  raise the same error.
-/

namespace Cogindex

/-! ## Trees -/

/-- A tree of model arguments, over the floats `F`, as far as it is looked into. -/
inductive ModelArg (F : Type)
  | none
  | bool (b : Bool)
  | int (i : ℤ)
  | float (x : F)
  | str (s : String)
  /-- A member of an enumeration, by its value. -/
  | enum (value : ModelArg F)
  | mapping (entries : List (PyKey × ModelArg F))
  | list (items : List (ModelArg F))
  | tuple (items : List (ModelArg F))
  /-- A value of any other type. -/
  | other (typeName : String)

/-- The items of a list or a tuple. -/
def ModelArg.items {F : Type} : ModelArg F → Option (List (ModelArg F))
  | .list xs => some xs
  | .tuple xs => some xs
  | _ => Option.none

/-! ## Fields -/

/-- Known generation fields, which win over every other rule. -/
def GENERATION_MODEL_ARG_FIELDS : List String :=
  ["additional_drop_params", "allowed_openai_params", "api_version", "audio", "candidate_count",
   "context_management", "custom_llm_provider", "do_sample", "drop_params", "frequency_penalty",
   "function_call", "functions", "guided_choice", "guided_decoding_backend", "guided_grammar",
   "guided_json", "guided_regex", "include_server_side_tool_invocations", "length_penalty",
   "logit_bias", "logprobs", "max_completion_tokens", "max_new_tokens", "max_output_tokens",
   "max_tokens", "min_p", "modalities", "mock_response", "mock_tool_calls", "n", "num_beams",
   "parallel_tool_calls", "prediction", "presence_penalty", "reasoning_effort",
   "repetition_penalty", "response_format", "safety_settings", "seed", "stop", "temperature",
   "thinking", "tool_choice", "tools", "top_k", "top_logprobs", "top_p", "typical_p", "verbosity",
   "web_search_options"]

/-- Nested namespaces of parameters. -/
def NESTED_MODEL_ARG_FIELDS : List String :=
  ["context_window_fallback_dict", "context_window_fallbacks", "extra_body", "fallbacks",
   "model_alias_map", "provider_options"]

/-- Credentials, endpoints, and transport knobs. -/
def EXCLUDED_MODEL_ARG_FIELDS : List String :=
  ["acompletion", "api_base", "api_key", "apikey", "auth", "authentication", "authorization",
   "aws_access_key_id", "aws_bedrock_project_id", "aws_bedrock_runtime_endpoint",
   "aws_external_id", "aws_profile_name", "aws_region_name", "aws_role_name",
   "aws_secret_access_key", "aws_session_name", "aws_session_token", "aws_sts_endpoint",
   "aws_web_identity_token", "azure_ad_token", "azure_password", "azure_scope", "azure_username",
   "base_url", "batch_size", "bearer_token", "client", "client_id", "client_secret",
   "completion_call_id", "cookie", "cookies", "cooldown_time", "default_headers", "deployment_id",
   "enable_json_schema_validation", "endpoint", "extra_headers", "force_timeout",
   "gcs_bucket_name", "headers", "http_proxy", "https_proxy", "idempotency_key",
   "input_cost_per_second", "input_cost_per_token", "itpm", "litellm_call_id",
   "litellm_credential_name", "litellm_logging_obj", "litellm_session_id", "litellm_trace_id",
   "logger_fn", "max_budget", "max_parallel_requests", "max_retries", "metadata", "mock_delay",
   "mock_timeout", "model_info", "model_list", "no_log", "num_retries", "organization", "otpm",
   "output_cost_per_second", "output_cost_per_token", "parallel", "parallelism", "password",
   "port", "preset_cache_key", "prompt_cache_key", "prompt_cache_retention",
   "provider_specific_header", "proxy", "proxy_server_request", "request_timeout", "routing_key",
   "rpm", "safety_identifier", "service_tier", "shared_session", "ssl_verify", "store", "stream",
   "stream_options", "stream_timeout", "tenant_id", "timeout", "tpm", "traceparent", "user",
   "verbose", "vertex_ai_credentials", "vertex_ai_location", "vertex_ai_project",
   "vertex_credentials", "vertex_location", "vertex_project"]

/-- Words that exclude a key. -/
def EXCLUDED_MODEL_ARG_TOKENS : List String :=
  ["apikey", "auth", "authentication", "authorization", "batch", "certificate", "concurrency",
   "cookie", "cookies", "credential", "credentials", "endpoint", "header", "headers", "host",
   "logger", "logging", "parallelism", "password", "port", "proxy", "retry", "retries", "secret",
   "stream", "streaming", "telemetry", "timeout", "trace", "tracing", "uri", "url", "worker",
   "workers"]

/-- Sequences of words that exclude a key. -/
def EXCLUDED_MODEL_ARG_TOKEN_SEQUENCES : List (List String) :=
  [["access", "key"], ["access", "token"], ["api", "base"], ["api", "key"], ["auth", "token"],
   ["base", "url"], ["bearer", "token"], ["cache", "key"], ["csrf", "token"],
   ["encryption", "key"], ["id", "token"], ["idempotency", "key"], ["log", "file"],
   ["log", "format"], ["log", "handler"], ["log", "level"], ["log", "path"],
   ["parallel", "requests"], ["private", "key"], ["public", "key"], ["rate", "limit"],
   ["refresh", "token"], ["routing", "key"], ["secret", "key"], ["session", "token"],
   ["web", "identity", "token"]]

/-- Last words that a key must not have unless it is classified. -/
def AMBIGUOUS_SECRET_SUFFIXES : List String :=
  ["key", "token"]

/-! ## Words of keys -/

/-- `[a-z]`. -/
def isAsciiLower (c : Char) : Bool := 'a' ≤ c && c ≤ 'z'

/-- `[A-Z]`. -/
def isAsciiUpper (c : Char) : Bool := 'A' ≤ c && c ≤ 'Z'

/-- `[0-9]`. -/
def isAsciiDigit (c : Char) : Bool := '0' ≤ c && c ≤ '9'

/-- `re.sub(r"(?<=[a-z0-9])(?=[A-Z])", "_", key)`. -/
def splitCamel : List Char → List Char
  | a :: b :: cs =>
    if (isAsciiLower a || isAsciiDigit a) && isAsciiUpper b then a :: '_' :: splitCamel (b :: cs)
    else a :: splitCamel (b :: cs)
  | cs => cs

/-- `re.sub(r"(?<=[A-Z])(?=[A-Z][a-z])", "_", key)`. -/
def splitAcronyms : List Char → List Char
  | a :: b :: c :: cs =>
    if isAsciiUpper a && isAsciiUpper b && isAsciiLower c then
      a :: '_' :: splitAcronyms (b :: c :: cs)
    else a :: splitAcronyms (b :: c :: cs)
  | cs => cs

/-- `re.sub(r"[^a-z0-9]+", "_", key)`. -/
def squeeze : List Char → List Char
  | [] => []
  | c :: cs =>
    if isAsciiLower c || isAsciiDigit c then c :: squeeze cs
    else '_' :: (squeeze cs).dropWhile (· = '_')

/-- `str.strip`, of the characters that `p` accepts. -/
def stripWhile (p : Char → Bool) (cs : List Char) : List Char :=
  (cs.dropWhile p).rdropWhile p

/-- A text contains the sequence of tokens. -/
def containsTokenSequence (tokens sequence : List String) : Bool :=
  (List.range tokens.length).any fun index => (tokens.drop index).take sequence.length = sequence

/-- A value that is a URL once stripped: `^[A-Za-z][A-Za-z0-9+.-]*://`. -/
def isUrlLike (s : String) : Bool :=
  match stripWhile isPySpace s.toList with
  | [] => false
  | c :: cs =>
    let isScheme (c : Char) : Bool := isAsciiLower c || isAsciiUpper c || isAsciiDigit c ||
      c = '+' || c = '.' || c = '-'
    (isAsciiLower c || isAsciiUpper c) && (cs.dropWhile isScheme).take 3 = "://".toList

section

variable [Platform]

/-! ## Kinds of keys -/

/-- What becomes of the value of a key. -/
inductive ModelArgKind
  | generation
  | nested
  | excluded
  deriving DecidableEq

/-- The kind of a key. -/
def modelArgKind (key : String) : Except PyError ModelArgKind :=
  let separated := String.ofList (splitAcronyms (splitCamel key.toList))
  let normalized := stripWhile (· = '_') (squeeze (Platform.lower separated).toList)
  if String.ofList normalized ∈ GENERATION_MODEL_ARG_FIELDS then .ok .generation
  else if String.ofList normalized ∈ NESTED_MODEL_ARG_FIELDS then .ok .nested
  else if String.ofList normalized ∈ EXCLUDED_MODEL_ARG_FIELDS then .ok .excluded
  else
    -- Unknown keys are classified by the words in them.
    let tokens := (normalized.splitOn '_').map String.ofList
    if tokens.any (· ∈ EXCLUDED_MODEL_ARG_TOKENS) ||
        EXCLUDED_MODEL_ARG_TOKEN_SEQUENCES.any (containsTokenSequence tokens) then
      .ok .excluded
    else if tokens.getLast?.any (· ∈ AMBIGUOUS_SECRET_SUFFIXES) then
      .error ⟨.valueError, "model argument " ++ Platform.strRepr key ++
        " is secret-shaped but unrecognized; classify it explicitly before automatic" ++
        " fingerprinting"⟩
    else .ok .nested

/-- The key of an entry that is dropped. -/
def PyKey.IsExcluded (key : PyKey) : Prop := ∃ s, key = .str s ∧ modelArgKind s = .ok .excluded

/-- A key that has no kind: one that is no string or looks like a secret. -/
def PyKey.IsRejected (key : PyKey) : Prop := ∀ s, key = .str s → ∃ e, modelArgKind s = .error e

/-! ## Canonical values -/

/-- `normalized[key] = value`. -/
def setItem (key : String) (value : PyValue PyFloat) :
    List (PyKey × PyValue PyFloat) → List (PyKey × PyValue PyFloat)
  | [] => [(.str key, value)]
  | e :: es => if e.1 = .str key then (e.1, value) :: es else e :: setItem key value es

/-- The errors of values and keys that cannot be represented. -/
def nonFiniteModelArg : PyError := ⟨.valueError, "model args must not contain NaN or infinity"⟩

@[inherit_doc nonFiniteModelArg]
def unsupportedModelArg (typeName : String) : PyError :=
  ⟨.typeError, "model args contain unsupported " ++ typeName ++ "; use JSON-compatible values"⟩

@[inherit_doc nonFiniteModelArg]
def nonStringModelArgKey : PyError := ⟨.typeError, "model arg mappings must use string keys"⟩

mutual

/-- An output-shaping payload: the keys of its mappings are no secrets. -/
def canonicalGenerationValue : ModelArg PyFloat → Except PyError (PyValue PyFloat)
  | .none => .ok .none
  | .bool b => .ok (.bool b)
  | .int i => .ok (.int i)
  | .str s => .ok (.str s)
  | .float x =>
    if Platform.floatIsFinite x then .ok (.float x) else .error nonFiniteModelArg
  | .enum value => canonicalGenerationValue value
  | .mapping entries => canonicalGenerationEntries entries []
  | .list items => do return .list (← canonicalGenerationItems items)
  | .tuple items => do return .list (← canonicalGenerationItems items)
  | .other t => .error (unsupportedModelArg t)

/-- The entries of a payload, after those in `normalized`. -/
def canonicalGenerationEntries : List (PyKey × ModelArg PyFloat) →
    List (PyKey × PyValue PyFloat) → Except PyError (PyValue PyFloat)
  | [], normalized => .ok (.dict normalized)
  | (.other _, _) :: _, _ => .error nonStringModelArgKey
  | (.str rawKey, item) :: entries, normalized => do
    let value ← canonicalGenerationValue item
    canonicalGenerationEntries entries (setItem rawKey value normalized)

/-- The items of a payload. -/
def canonicalGenerationItems : List (ModelArg PyFloat) → Except PyError (List (PyValue PyFloat))
  | [] => .ok []
  | item :: items => do
    let value ← canonicalGenerationValue item
    let values ← canonicalGenerationItems items
    return value :: values

end

mutual

/-- A canonical value; nothing for `_OMIT_MODEL_ARG`. -/
def canonicalModelArgValue : ModelArg PyFloat → Except PyError (Option (PyValue PyFloat))
  | .none => .ok (some .none)
  | .bool b => .ok (some (.bool b))
  | .int i => .ok (some (.int i))
  | .str s =>
    if isUrlLike s then
      .error ⟨.valueError, "URL-like model argument appears under an unrecognized field;" ++
        " classify it explicitly before automatic fingerprinting"⟩
    else .ok (some (.str s))
  | .float x =>
    if Platform.floatIsFinite x then .ok (some (.float x)) else .error nonFiniteModelArg
  | .enum value => canonicalModelArgValue value
  | .mapping entries => canonicalModelArgMapping entries [] false
  | .list items => canonicalModelArgItems items [] false
  | .tuple items => canonicalModelArgItems items [] false
  | .other t => .error (unsupportedModelArg t)

/-- The entries of a mapping, after those in `normalized`. -/
def canonicalModelArgMapping : List (PyKey × ModelArg PyFloat) →
    List (PyKey × PyValue PyFloat) → Bool → Except PyError (Option (PyValue PyFloat))
  | [], normalized, omitted =>
    .ok (if normalized.isEmpty && omitted then none else some (.dict normalized))
  | (.other _, _) :: _, _, _ => .error nonStringModelArgKey
  | (.str rawKey, item) :: entries, normalized, omitted =>
    match modelArgKind rawKey with
    | .error e => .error e
    | .ok .excluded => canonicalModelArgMapping entries normalized true
    | .ok .generation => do
      let value ← canonicalGenerationValue item
      canonicalModelArgMapping entries (setItem rawKey value normalized) omitted
    | .ok .nested => do
      match ← canonicalModelArgValue item with
      | none => canonicalModelArgMapping entries normalized true
      | some value => canonicalModelArgMapping entries (setItem rawKey value normalized) omitted

/-- The items of a list or a tuple, after those in `normalized`. -/
def canonicalModelArgItems : List (ModelArg PyFloat) → List (PyValue PyFloat) → Bool →
    Except PyError (Option (PyValue PyFloat))
  | [], normalized, omitted =>
    .ok (if normalized.isEmpty && omitted then none else some (.list normalized))
  | item :: items, normalized, omitted => do
    match ← canonicalModelArgValue item with
    | none => canonicalModelArgItems items normalized true
    | some value => canonicalModelArgItems items (normalized ++ [value]) omitted

end

/-- The arguments that shape derivatives. -/
def canonicalModelArgs : ModelArg PyFloat → Except PyError (PyValue PyFloat)
  | .none => .ok (.dict [])
  | .mapping entries => do
    return (← canonicalModelArgMapping entries [] false).getD (.dict [])
  | _ => .error ⟨.typeError, "model args must be a mapping"⟩

/-! ## Trees that differ in excluded entries -/

mutual

/-- Two trees agree outside of their excluded entries: the same shape, scalars
    and payloads of generation keys, and where there are mappings, both or none
    of them have excluded entries. -/
inductive ModelArg.Agrees : ModelArg PyFloat → ModelArg PyFloat → Prop
  /-- The same scalar, or the same value that is none. -/
  | refl (v : ModelArg PyFloat) : ModelArg.Agrees v v
  | enum {v w : ModelArg PyFloat} : ModelArg.Agrees v w →
    ModelArg.Agrees (.enum v) (.enum w)
  /-- Lists and tuples, which are not told apart. -/
  | sequence {v w : ModelArg PyFloat} {xs ys : List (ModelArg PyFloat)} : v.items = some xs →
    w.items = some ys → ItemsAgree xs ys → ModelArg.Agrees v w
  | mapping {es fs : List (PyKey × ModelArg PyFloat)} : EntriesAgree es fs →
    ((∃ e ∈ es, e.1.IsExcluded) ↔ ∃ f ∈ fs, f.1.IsExcluded) →
      ModelArg.Agrees (.mapping es) (.mapping fs)

/-- Items that agree one by one. -/
inductive ItemsAgree : List (ModelArg PyFloat) → List (ModelArg PyFloat) → Prop
  | nil : ItemsAgree [] []
  | cons {x y : ModelArg PyFloat} {xs ys : List (ModelArg PyFloat)} : ModelArg.Agrees x y →
    ItemsAgree xs ys → ItemsAgree (x :: xs) (y :: ys)

/-- Entries that agree one by one once the excluded ones, wherever they are,
    are left out. Values are related under nested keys and the same under
    generation keys; under keys that are rejected they do not matter. -/
inductive EntriesAgree :
    List (PyKey × ModelArg PyFloat) → List (PyKey × ModelArg PyFloat) → Prop
  | nil : EntriesAgree [] []
  | excludedLeft {k : PyKey} {v : ModelArg PyFloat} {es fs : List (PyKey × ModelArg PyFloat)} :
    k.IsExcluded → EntriesAgree es fs → EntriesAgree ((k, v) :: es) fs
  | excludedRight {k : PyKey} {w : ModelArg PyFloat} {es fs : List (PyKey × ModelArg PyFloat)} :
    k.IsExcluded → EntriesAgree es fs → EntriesAgree es ((k, w) :: fs)
  | generation {s : String} {v : ModelArg PyFloat} {es fs : List (PyKey × ModelArg PyFloat)} :
    modelArgKind s = .ok .generation → EntriesAgree es fs →
      EntriesAgree ((.str s, v) :: es) ((.str s, v) :: fs)
  | nested {s : String} {v w : ModelArg PyFloat} {es fs : List (PyKey × ModelArg PyFloat)} :
    modelArgKind s = .ok .nested → ModelArg.Agrees v w → EntriesAgree es fs →
      EntriesAgree ((.str s, v) :: es) ((.str s, w) :: fs)
  | rejected {k : PyKey} {v w : ModelArg PyFloat} {es fs : List (PyKey × ModelArg PyFloat)} :
    k.IsRejected → EntriesAgree es fs → EntriesAgree ((k, v) :: es) ((k, w) :: fs)

end

/-! ## Non-interference -/

/-- An omission: one that was recorded, or that the entries `es` will record. -/
def Omits (omitted : Bool) (es : List (PyKey × ModelArg PyFloat)) : Prop :=
  omitted = true ∨ ∃ e ∈ es, e.1.IsExcluded

theorem omits_nil {omitted : Bool} : Omits omitted [] ↔ omitted = true := by
  simp [Omits]

theorem omits_excluded {omitted : Bool} {k : PyKey} {v : ModelArg PyFloat}
    {es : List (PyKey × ModelArg PyFloat)} (hk : k.IsExcluded) :
    Omits omitted ((k, v) :: es) ↔ Omits true es := by
  simp [Omits, hk]

theorem omits_str {omitted : Bool} {s : String} {v : ModelArg PyFloat}
    {es : List (PyKey × ModelArg PyFloat)} (hs : modelArgKind s ≠ .ok .excluded) :
    Omits omitted ((.str s, v) :: es) ↔ Omits omitted es := by
  simp [Omits, PyKey.IsExcluded, hs]

/-- An excluded entry only leaves an omission behind. -/
theorem canonicalModelArgMapping_excluded {k : PyKey} {v : ModelArg PyFloat}
    {es : List (PyKey × ModelArg PyFloat)} (hk : k.IsExcluded)
    (normalized : List (PyKey × PyValue PyFloat)) (omitted : Bool) :
    canonicalModelArgMapping ((k, v) :: es) normalized omitted =
      canonicalModelArgMapping es normalized true := by
  obtain ⟨s, rfl, hs⟩ := hk
  simp only [canonicalModelArgMapping, hs]

theorem canonicalModelArgValue_items {v : ModelArg PyFloat} {xs : List (ModelArg PyFloat)}
    (hv : v.items = some xs) :
    canonicalModelArgValue v = canonicalModelArgItems xs [] false := by
  cases v with
  | list ys =>
    cases hv
    rw [canonicalModelArgValue]
  | tuple ys =>
    cases hv
    rw [canonicalModelArgValue]
  | _ => cases hv

/-- The same canonical items after the same ones, or the same error. -/
def ItemsCongr (xs ys : List (ModelArg PyFloat)) : Prop := ∀ normalized omitted,
  canonicalModelArgItems xs normalized omitted = canonicalModelArgItems ys normalized omitted

/-- The same canonical mapping after the same entries, or the same error,
    unless only one of the two has or will have an omission. -/
def EntriesCongr (es fs : List (PyKey × ModelArg PyFloat)) : Prop := ∀ normalized o o',
  (Omits o es ↔ Omits o' fs) →
    canonicalModelArgMapping es normalized o = canonicalModelArgMapping fs normalized o'

variable {v w : ModelArg PyFloat} {s : String} {es fs : List (PyKey × ModelArg PyFloat)}

theorem ItemsCongr.cons {xs ys : List (ModelArg PyFloat)}
    (hvw : canonicalModelArgValue v = canonicalModelArgValue w) (h : ItemsCongr xs ys) :
    ItemsCongr (v :: xs) (w :: ys) := by
  intro normalized omitted
  simp only [canonicalModelArgItems, hvw]
  refine bind_congr fun value => ?_
  cases value with
  | none => exact h normalized true
  | some value => exact h (normalized ++ [value]) omitted

theorem EntriesCongr.nil : EntriesCongr [] [] := by
  intro normalized o o' ho
  rw [omits_nil, omits_nil, Bool.eq_iff_iff.symm] at ho
  rw [ho]

theorem EntriesCongr.generation (hs : modelArgKind s = .ok .generation) (h : EntriesCongr es fs) :
    EntriesCongr ((.str s, v) :: es) ((.str s, v) :: fs) := by
  intro normalized o o' ho
  rw [omits_str (by simp [hs]), omits_str (by simp [hs])] at ho
  simp only [canonicalModelArgMapping, hs]
  refine bind_congr fun value => ?_
  exact h _ _ _ ho

theorem EntriesCongr.nested (hs : modelArgKind s = .ok .nested)
    (hvw : canonicalModelArgValue v = canonicalModelArgValue w) (h : EntriesCongr es fs) :
    EntriesCongr ((.str s, v) :: es) ((.str s, w) :: fs) := by
  intro normalized o o' ho
  rw [omits_str (by simp [hs]), omits_str (by simp [hs])] at ho
  simp only [canonicalModelArgMapping, hs, hvw]
  refine bind_congr fun value => ?_
  cases value with
  | none => exact h _ _ _ (iff_of_true (.inl rfl) (.inl rfl))
  | some value => exact h _ _ _ ho

theorem EntriesCongr.rejected {k : PyKey} (hk : k.IsRejected) :
    EntriesCongr ((k, v) :: es) ((k, w) :: fs) := by
  intro normalized o o' _
  cases k with
  | other t => simp only [canonicalModelArgMapping]
  | str s =>
    obtain ⟨e, he⟩ := hk s rfl
    simp only [canonicalModelArgMapping, he]

/-- Values that agree have the same canonical value, or raise the same error. -/
theorem canonicalModelArgValue_congr (h : v.Agrees w) :
    canonicalModelArgValue v = canonicalModelArgValue w := by
  -- By the recursor, since values, items and entries agree by one mutual induction.
  refine @ModelArg.Agrees.rec _
    (fun v w _ => canonicalModelArgValue v = canonicalModelArgValue w)
    (fun xs ys _ => ItemsCongr xs ys) (fun es fs _ => EntriesCongr es fs)
    ?refl ?enum ?sequence ?mapping ?itemsNil ?itemsCons ?nil ?excludedLeft ?excludedRight
    ?generation ?nested ?rejected v w h
  case refl => exact fun v => rfl
  case enum =>
    intro v w _ hvw
    simpa only [canonicalModelArgValue] using hvw
  case sequence =>
    intro v w xs ys hv hw _ hitems
    rw [canonicalModelArgValue_items hv, canonicalModelArgValue_items hw]
    exact hitems [] false
  case mapping =>
    intro es fs _ hexcluded hentries
    simp only [canonicalModelArgValue]
    exact hentries [] false false (or_congr Iff.rfl hexcluded)
  case itemsNil => exact fun _ _ => rfl
  case itemsCons => exact fun _ _ hxy hitems => hitems.cons hxy
  case nil => exact .nil
  case excludedLeft =>
    intro k v es fs hk _ hentries normalized o o' ho
    rw [canonicalModelArgMapping_excluded hk]
    exact hentries _ _ _ ((omits_excluded hk).symm.trans ho)
  case excludedRight =>
    intro k w es fs hk _ hentries normalized o o' ho
    rw [canonicalModelArgMapping_excluded hk]
    exact hentries _ _ _ (ho.trans (omits_excluded hk))
  case generation => exact fun hs _ hentries => hentries.generation hs
  case nested => exact fun hs _ _ hvw hentries => hentries.nested hs hvw
  case rejected => exact fun hk _ _ => .rejected hk

theorem canonicalModelArgs_items {xs : List (ModelArg PyFloat)} (hv : v.items = some xs) :
    canonicalModelArgs v = .error ⟨.typeError, "model args must be a mapping"⟩ := by
  cases v with
  | list ys => rfl
  | tuple ys => rfl
  | _ => cases hv

/-- Arguments that differ in excluded entries only have the same canonical
    value, or are rejected with the same error. -/
theorem canonicalModelArgs_congr (h : v.Agrees w) :
    canonicalModelArgs v = canonicalModelArgs w := by
  cases h with
  | refl => rfl
  | enum h => rfl
  | sequence hv hw h => rw [canonicalModelArgs_items hv, canonicalModelArgs_items hw]
  | mapping h hexcluded =>
    have hvalue := canonicalModelArgValue_congr (.mapping h hexcluded)
    simp only [canonicalModelArgValue] at hvalue
    rw [canonicalModelArgs, canonicalModelArgs, hvalue]

end

end Cogindex
