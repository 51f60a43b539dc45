import Cogindex.LocalRuntime
import Cogindex.RuntimeInputs

/-!
# The declarative twin

`processingConfigFromProfile` derives from a profile the `ProcessingConfig`
whose fingerprint decides whether derivatives are rebuilt, while
`LocalCogneeRuntime.cognifyDataset` passes the profile to Cognee as the
arguments `cognifyKwargs`. The two must not drift apart:

* `processingConfig_eq_iff`: if Cognee documents no custom prompt and a
  non-temporal mode by default, two profiles have the same configuration exactly
  when their arguments mean the same to Cognee (`SameMeaning`), once those that
  are omitted are filled with the defaults of `cognee.cognify()`;
* `twinExact_iff_documented`: these two defaults are the ones that the twin does
  not read, and it is exact for them only;
* `processingConfig_without_secrets`: credentials, endpoints and transport
  knobs in the arguments of the language models change neither the
  configuration nor whether there is one.
-/

namespace Cogindex

section

variable [Platform]

/-! ## Profiles -/

namespace CognifyProfile

/-- A class, or nothing. -/
def checkClass (fieldName : String) : PyObject → Except PyError (Option PyType)
  | .value .none => .ok none
  | .type t => .ok (some t)
  | .value _ => .error ⟨.typeError, fieldName ++ " must be a type or None"⟩

/-- A positive integer, or nothing. -/
def checkChunkSize : PyObject → Except PyError (Option ℕ)
  | .value v => ProcessingConfig.checkChunkSize v
  | .type _ => .error ⟨.valueError, "chunk_size must be a positive integer or None"⟩

/-- A text, or nothing. -/
def checkPrompt : PyObject → Except PyError (Option String)
  | .value .none => .ok none
  | .value (.str s) => .ok (some s)
  | _ => .error ⟨.typeError, "custom_prompt must be str or None"⟩

/-- A Boolean. -/
def checkTemporal : PyObject → Except PyError Bool
  | .value (.bool b) => .ok b
  | _ => .error ⟨.typeError, "temporal_cognify must be bool"⟩

/-- The prompt that Cognee selects with `if custom_prompt`. -/
def prompt (customPrompt : Option String) : Option String := customPrompt.filter (· ≠ "")

omit [Platform] in
theorem prompt_none : prompt none = none := rfl

/-- `CognifyProfile(...)`. -/
def init (graphModel chunker chunkSize customPrompt temporalCognify : PyObject) :
    Except PyError CognifyProfile := do
  let graphModel ← checkClass "graph_model" graphModel
  let chunker ← checkClass "chunker" chunker
  let chunkSize ← checkChunkSize chunkSize
  let customPrompt ← checkPrompt customPrompt
  let temporalCognify ← checkTemporal temporalCognify
  if temporalCognify && graphModel.isSome then
    throw ⟨.valueError, "graph_model is not used by Cognee's temporal cognify pipeline"⟩
  else if temporalCognify && (prompt customPrompt).isSome then
    throw ⟨.valueError, "custom_prompt is not used by Cognee's temporal cognify pipeline"⟩
  else return { graphModel, chunker, chunkSize, customPrompt, temporalCognify }

/-- A profile that the constructor accepts. -/
def Accepted (p : CognifyProfile) : Prop :=
  ∃ graphModel chunker chunkSize customPrompt temporalCognify,
    init graphModel chunker chunkSize customPrompt temporalCognify = .ok p

/-- What the constructor checks. -/
structure Valid (p : CognifyProfile) : Prop where
  chunkSize_pos : ∀ n ∈ p.chunkSize, 0 < n
  temporal_graphModel : p.temporalCognify = true → p.graphModel = none
  temporal_prompt : p.temporalCognify = true → prompt p.customPrompt = none

theorem checkChunkSize_pos {size : PyObject} {n : ℕ}
    (h : checkChunkSize size = .ok (some n)) : 0 < n := by
  match size with
  | .value (.int i) =>
    simp only [checkChunkSize, ProcessingConfig.checkChunkSize] at h
    split_ifs at h with hi
    rw [← Option.some.inj (Except.ok.inj h)]
    omega

theorem Accepted.valid {p : CognifyProfile} (h : p.Accepted) : p.Valid := by
  obtain ⟨graphModel, chunker, chunkSize, customPrompt, temporalCognify, h⟩ := h
  simp only [init, bind_eq_ok] at h
  obtain ⟨graphModel, -, chunker, -, size, hsize, customPrompt, -, temporal, -, h⟩ := h
  split_ifs at h with hgraph hprompt
  cases h
  exact {
    chunkSize_pos := fun n hn => checkChunkSize_pos (hsize.trans (congrArg _ hn))
    temporal_graphModel := by simpa using hgraph
    temporal_prompt := by simpa using hprompt }

end CognifyProfile

/-! ## Derivation -/

omit [Platform] in
theorem exists_ok_of_isSome {α : Type} {x : Except PyError α} (h : x.toOption.isSome) :
    ∃ a, x = .ok a := by
  cases x with
  | ok a => exact ⟨a, rfl⟩
  | error e => cases h

/-- A text as a value. -/
def optionalText (s : Option String) : PyValue PyFloat := s.elim .none .str

theorem optionalText_wf (s : Option String) : (optionalText s).WellFormed := by
  cases s with
  | none => exact .none
  | some s => exact .str s

theorem optionalText_inj {s t : Option String} (h : optionalText s = optionalText t) : s = t := by
  cases s <;> cases t <;> simp_all [optionalText]

namespace CogneeInstallation

variable (cognee : CogneeInstallation)

/-- The graph model that cognify uses; none in temporal mode. -/
def effectiveGraphModel (profile : CognifyProfile) : Option PyType :=
  if profile.temporalCognify then none
  else profile.graphModel.or (signatureDefaultType cognee.signature.graphModel)

/-- The chunker that cognify uses. -/
def effectiveChunker (profile : CognifyProfile) : Option PyType :=
  profile.chunker.or (signatureDefaultType cognee.signature.chunker)

/-- The size of the chunks that cognify builds. -/
def effectiveChunkSize (profile : CognifyProfile) : Option ℤ :=
  (profile.chunkSize.map Int.ofNat).or (signatureDefaultInt cognee.signature.chunkSize)

/-- The fingerprint of the JSON schema of a class, if there are one and the other. -/
def modelSchemaFingerprint : Option PyType → Except PyError (Option String)
  | none => .ok none
  | some model =>
    match cognee.modelJsonSchema model with
    | none => .ok none
    | some schema => Except.mapError
      (fun _ => ⟨.valueError, "could not derive JSON schema for graph model " ++
        Platform.strRepr (cognee.qualifiedId model)⟩)
      (do return some (← fingerprintJson (← schema)))

/-- The fingerprint of the runtime inputs, unless they are left out. -/
def runtimeConfigFingerprint (profile : CognifyProfile) (includeRuntimeModels : Bool) :
    Except PyError (Option String) := do
  if includeRuntimeModels then
    let runtimeInputs ← cognee.configuredProcessingInputs
      (CognifyProfile.prompt profile.customPrompt).isSome profile.temporalCognify
    return some (← fingerprintJson runtimeInputs)
  else return none

/-- The declarative twin of a profile. -/
def processingConfigFromProfile (profile : CognifyProfile) (includeRuntimeModels : Bool) :
    Except PyError ProcessingConfig := do
  let _ ← cognee.load
  let graphModel := cognee.effectiveGraphModel profile
  if !profile.temporalCognify && graphModel.isNone then
    throw ⟨.compatibilityError,
      "could not resolve Cognee's default graph model; pass graph_model explicitly"⟩
  else match cognee.effectiveChunker profile with
  | none => throw ⟨.compatibilityError,
      "could not resolve Cognee's default chunker; pass chunker explicitly"⟩
  | some chunker =>
    let runtimeConfigFingerprint ←
      cognee.runtimeConfigFingerprint profile includeRuntimeModels
    let schemaFingerprint ← cognee.modelSchemaFingerprint graphModel
    ProcessingConfig.init (optionalText (graphModel.map cognee.qualifiedId))
      (optionalText schemaFingerprint) (.str (cognee.qualifiedId chunker))
      ((cognee.effectiveChunkSize profile).elim .none .int)
      (optionalText ((CognifyProfile.prompt profile.customPrompt).map
        fun s => fingerprintContent (.str s)))
      (.bool profile.temporalCognify) (optionalText runtimeConfigFingerprint) (.tuple [])
      (by
        simp only [List.forall_mem_cons]
        exact ⟨optionalText_wf _, optionalText_wf _, .str _, optionalText_wf _, .bool _,
          optionalText_wf _, fun v h => absurd h List.not_mem_nil⟩)

end CogneeInstallation

/-! ## What the arguments mean -/

/-- The parameters of `cognee.cognify()`. -/
structure CognifyArguments where
  graphModel : PyObject
  chunker : PyObject
  chunkSize : PyObject
  customPrompt : Option String
  temporalCognify : Bool

/-- The omitted arguments are filled with the defaults. -/
def CognifyKwargs.fill (kwargs : CognifyKwargs) (signature : CogneeSignature) :
    CognifyArguments where
  graphModel := kwargs.graphModel.elim signature.graphModel .type
  chunker := kwargs.chunker.elim signature.chunker .type
  chunkSize := kwargs.chunkSize.elim signature.chunkSize fun n => .value (.int n)
  customPrompt := kwargs.customPrompt.or signature.customPrompt
  temporalCognify := kwargs.temporalCognify.getD signature.temporalCognify

/-- Arguments with the same meaning to Cognee: its temporal pipeline uses
    neither the graph model nor the prompt, and an empty prompt is none. -/
structure CognifyArguments.SameMeaning (a b : CognifyArguments) : Prop where
  temporalCognify : a.temporalCognify = b.temporalCognify
  chunker : a.chunker = b.chunker
  chunkSize : a.chunkSize = b.chunkSize
  graphModel : a.temporalCognify = false → a.graphModel = b.graphModel
  customPrompt : a.temporalCognify = false →
    CognifyProfile.prompt a.customPrompt = CognifyProfile.prompt b.customPrompt

/-- Without arguments for it, Cognee uses no custom prompt and is not in
    temporal mode. -/
structure CogneeSignature.Documented (signature : CogneeSignature) : Prop where
  customPrompt : CognifyProfile.prompt signature.customPrompt = none
  temporalCognify : signature.temporalCognify = false

/-- Two classes have the same JSON schema, or both have none. -/
def CogneeInstallation.SameSchema (cognee : CogneeInstallation) (t u : PyType) : Prop :=
  match cognee.modelJsonSchema t, cognee.modelJsonSchema u with
  | none, none => True
  | some (.ok v), some (.ok w) => JsonEq v w
  | _, _ => False

/-- What is recorded of the classes of two profiles determines them: the
    qualified name of a chunker, and that of a graph model with its schema. -/
structure CogneeInstallation.Determined (cognee : CogneeInstallation) (p q : CognifyProfile) :
    Prop where
  chunker : ∀ t ∈ cognee.effectiveChunker p, ∀ u ∈ cognee.effectiveChunker q,
    cognee.qualifiedId t = cognee.qualifiedId u → t = u
  graphModel : ∀ t ∈ cognee.effectiveGraphModel p, ∀ u ∈ cognee.effectiveGraphModel q,
    cognee.qualifiedId t = cognee.qualifiedId u → cognee.SameSchema t u → t = u

/-- The twin and the call do not drift apart: any two profiles of which both
    derivations succeed have the same twin exactly when the arguments that
    Cognee is called with mean the same. -/
def CogneeInstallation.TwinExact (cognee : CogneeInstallation) (includeRuntimeModels : Bool) :
    Prop :=
  ∀ (p q : CognifyProfile) (x y : ProcessingConfig), p.Accepted → q.Accepted →
    cognee.Determined p q →
    cognee.processingConfigFromProfile p includeRuntimeModels = .ok x →
    cognee.processingConfigFromProfile q includeRuntimeModels = .ok y →
    (x = y ↔ ((cognifyKwargs p).fill cognee.signature).SameMeaning
      ((cognifyKwargs q).fill cognee.signature))

/-- A profile that leaves the prompt and the mode to Cognee. -/
def CognifyProfile.plain (graphModel chunker : PyType) : CognifyProfile where
  graphModel := some graphModel
  chunker := some chunker
  chunkSize := some 1024

/-- A temporal profile. -/
def CognifyProfile.temporal (chunker : PyType) : CognifyProfile where
  chunker := some chunker
  chunkSize := some 1024
  temporalCognify := true

/-! ## Agreement -/

section

variable {cognee : CogneeInstallation} {profile p q : CognifyProfile}
  {includeRuntimeModels : Bool} {config x y : ProcessingConfig}

attribute [ext] ProcessingConfig

/-- The fields of the twin of a profile, of which the extras are empty. -/
structure ProcessingConfig.Twin (cognee : CogneeInstallation) (profile : CognifyProfile)
    (includeRuntimeModels : Bool) (config : ProcessingConfig) : Prop where
  graphModel : profile.temporalCognify = false → (cognee.effectiveGraphModel profile).isSome
  chunker : (cognee.effectiveChunker profile).isSome
  graphModelId : config.graphModelId =
    optionalText ((cognee.effectiveGraphModel profile).map cognee.qualifiedId)
  graphModelSchemaFingerprint : ∃ s, config.graphModelSchemaFingerprint = optionalText s ∧
    cognee.modelSchemaFingerprint (cognee.effectiveGraphModel profile) = .ok s
  chunkerId : config.chunkerId =
    optionalText ((cognee.effectiveChunker profile).map cognee.qualifiedId)
  chunkSize : config.chunkSize.map Int.ofNat = cognee.effectiveChunkSize profile
  customPromptFingerprint : config.customPromptFingerprint = optionalText
    ((CognifyProfile.prompt profile.customPrompt).map fun s => fingerprintContent (.str s))
  temporalCognify : config.temporalCognify = .bool profile.temporalCognify
  runtimeConfigFingerprint : ∃ s, config.runtimeConfigFingerprint = optionalText s ∧
    cognee.runtimeConfigFingerprint profile includeRuntimeModels = .ok s
  extras : config.extras = []

/-- The size of chunks that is recorded. -/
theorem checkChunkSize_eq {i : Option ℤ} {size : Option ℕ}
    (h : ProcessingConfig.checkChunkSize (i.elim .none .int) = .ok size) :
    size.map Int.ofNat = i := by
  cases i with
  | none =>
    cases h
    rfl
  | some i =>
    simp only [Option.elim, ProcessingConfig.checkChunkSize] at h
    split_ifs at h with hi
    cases h
    exact congrArg some (Int.toNat_of_nonneg hi.le)

/-- A twin that is derived has the fields of the profile. -/
theorem twin_of_ok
    (h : cognee.processingConfigFromProfile profile includeRuntimeModels = .ok config) :
    config.Twin cognee profile includeRuntimeModels := by
  simp only [CogneeInstallation.processingConfigFromProfile, bind_eq_ok] at h
  obtain ⟨_, -, h⟩ := h
  split_ifs at h with hgraph
  split at h
  · exact absurd h throw_ne_ok
  · rename_i chunker hchunker
    simp only [bind_eq_ok, ProcessingConfig.init] at h
    obtain ⟨runtime, hruntime, schema, hschema, size, hsize, extras, hextras, h⟩ := h
    -- The profile has no extras, so that their check passes.
    obtain rfl : [] = extras := Except.ok.inj hextras
    split_ifs at h with hnodup
    cases h
    exact {
      graphModel := fun ht => by simpa [ht, Option.isSome_iff_ne_none] using hgraph
      chunker := by rw [hchunker]; rfl
      graphModelId := rfl
      graphModelSchemaFingerprint := ⟨schema, rfl, hschema⟩
      chunkerId := by rw [hchunker]; rfl
      chunkSize := checkChunkSize_eq hsize
      customPromptFingerprint := rfl
      temporalCognify := rfl
      runtimeConfigFingerprint := ⟨runtime, rfl, hruntime⟩
      extras := rfl }

/-- A parameter that is filled is the one that cognify uses. -/
theorem elim_type {given : Option PyType} {default : PyObject} {t : PyType}
    (h : given.or (signatureDefaultType default) = some t) :
    given.elim default .type = .type t := by
  cases given with
  | some u => exact congrArg _ (Option.some.inj h)
  | none =>
    cases default with
    | type u => exact congrArg _ (Option.some.inj h)
    | value v => cases h

theorem elim_type_iff {given given' : Option PyType} {default : PyObject}
    (h : (given.or (signatureDefaultType default)).isSome)
    (h' : (given'.or (signatureDefaultType default)).isSome) :
    given.elim default .type = given'.elim default .type ↔
      given.or (signatureDefaultType default) = given'.or (signatureDefaultType default) := by
  obtain ⟨t, ht⟩ := Option.isSome_iff_exists.1 h
  obtain ⟨u, hu⟩ := Option.isSome_iff_exists.1 h'
  rw [elim_type ht, elim_type hu, ht, hu, PyObject.type.injEq, Option.some.injEq]

theorem elim_chunkSize_iff {given given' : Option ℕ} {default : PyObject} :
    (given.elim default fun n => .value (.int n)) =
        given'.elim default (fun n => .value (.int n)) ↔
      (given.map Int.ofNat).or (signatureDefaultInt default) =
        (given'.map Int.ofNat).or (signatureDefaultInt default) := by
  -- An integer that is given is told from the default by the default as an integer.
  have hdefault : ∀ n : ℕ, default = .value (.int n) ↔ signatureDefaultInt default = some n := by
    intro n
    constructor
    · rintro rfl
      rfl
    · intro h
      match default with
      | .value (.int i) => rw [Option.some.inj h]
  rcases given with - | m <;> rcases given' with - | n
  · simp
  · simpa using hdefault n
  · simpa [eq_comm] using hdefault m
  · simp

omit [Platform] in
theorem mapError_eq_ok {α : Type} {x : Except PyError α} {e : PyError → PyError} {a : α} :
    x.mapError e = .ok a ↔ x = .ok a := by
  cases x <;> simp [Except.mapError]

/-- A schema is fingerprinted unless there is none. -/
theorem modelSchemaFingerprint_ok {t : PyType} {f : Option String}
    (h : cognee.modelSchemaFingerprint (some t) = .ok f) :
    cognee.modelJsonSchema t = none ∧ f = none ∨
      ∃ v s, cognee.modelJsonSchema t = some (.ok v) ∧ fingerprintJson v = .ok s ∧ f = some s := by
  rw [CogneeInstallation.modelSchemaFingerprint] at h
  split at h
  · rename_i hnone
    exact .inl ⟨hnone, (Except.ok.inj h).symm⟩
  · rename_i schema hschema
    simp only [mapError_eq_ok, bind_eq_ok, pure_eq_ok] at h
    obtain ⟨v, rfl, s, hs, rfl⟩ := h
    exact .inr ⟨v, s, hschema, hs, rfl⟩

/-- Classes have the same schema fingerprint exactly when their schemas are equal. -/
theorem modelSchemaFingerprint_iff (hblake : Blake2bCollisionFree) (hfloat : FloatReprLaws)
    {t u : PyType} {f g : Option String} (hf : cognee.modelSchemaFingerprint (some t) = .ok f)
    (hg : cognee.modelSchemaFingerprint (some u) = .ok g) :
    f = g ↔ cognee.SameSchema t u := by
  unfold CogneeInstallation.SameSchema
  rcases modelSchemaFingerprint_ok hf with ⟨ht, rfl⟩ | ⟨v, a, ht, ha, rfl⟩ <;>
    rcases modelSchemaFingerprint_ok hg with ⟨hu, rfl⟩ | ⟨w, b, hu, hb, rfl⟩ <;>
      simp only [ht, hu, reduceCtorEq, Option.some.injEq]
  exact fingerprintJson_eq_iff hblake hfloat (cognee.modelJsonSchema_wf t v ht)
    (cognee.modelJsonSchema_wf u w hu) ha hb

/-- Two profiles lead to the same derivatives. -/
structure CogneeInstallation.Agree (cognee : CogneeInstallation) (p q : CognifyProfile) :
    Prop where
  temporalCognify : p.temporalCognify = q.temporalCognify
  chunker : cognee.effectiveChunker p = cognee.effectiveChunker q
  chunkSize : cognee.effectiveChunkSize p = cognee.effectiveChunkSize q
  graphModel : cognee.effectiveGraphModel p = cognee.effectiveGraphModel q
  prompt : CognifyProfile.prompt p.customPrompt = CognifyProfile.prompt q.customPrompt

/-- Profiles that lead to the same derivatives have the same twin. -/
theorem ProcessingConfig.Twin.eq_of_agree (hx : x.Twin cognee p includeRuntimeModels)
    (hy : y.Twin cognee q includeRuntimeModels) (h : cognee.Agree p q) : x = y := by
  obtain ⟨schema, hxschema, hschema⟩ := hx.graphModelSchemaFingerprint
  obtain ⟨schema', hyschema, hschema'⟩ := hy.graphModelSchemaFingerprint
  obtain ⟨runtime, hxruntime, hruntime⟩ := hx.runtimeConfigFingerprint
  obtain ⟨runtime', hyruntime, hruntime'⟩ := hy.runtimeConfigFingerprint
  -- The runtime inputs depend on the temporal mode and on whether there is a prompt.
  rw [CogneeInstallation.runtimeConfigFingerprint, h.prompt, h.temporalCognify] at hruntime
  have hsize := Option.map_injective Int.ofNat_injective
  refine ProcessingConfig.ext ?_ ?_ ?_ (hsize ?_) ?_ ?_ ?_ ?_
  · rw [hx.graphModelId, hy.graphModelId, h.graphModel]
  · rw [hxschema, hyschema, Except.ok.inj (hschema.symm.trans (h.graphModel ▸ hschema'))]
  · rw [hx.chunkerId, hy.chunkerId, h.chunker]
  · rw [hx.chunkSize, hy.chunkSize, h.chunkSize]
  · rw [hx.customPromptFingerprint, hy.customPromptFingerprint, h.prompt]
  · rw [hx.temporalCognify, hy.temporalCognify, h.temporalCognify]
  · rw [hxruntime, hyruntime, Except.ok.inj (hruntime.symm.trans hruntime')]
  · rw [hx.extras, hy.extras]

/-- A twin of two profiles, where classes are told apart by what is recorded of them. -/
theorem ProcessingConfig.Twin.agree (hblake : Blake2bCollisionFree) (hfloat : FloatReprLaws)
    (hdetermined : cognee.Determined p q) (hp : config.Twin cognee p includeRuntimeModels)
    (hq : config.Twin cognee q includeRuntimeModels) : cognee.Agree p q where
  temporalCognify := PyValue.bool.inj (hp.temporalCognify.symm.trans hq.temporalCognify)
  chunker := by
    have hid := optionalText_inj (hp.chunkerId.symm.trans hq.chunkerId)
    obtain ⟨t, ht⟩ := Option.isSome_iff_exists.1 hp.chunker
    obtain ⟨u, hu⟩ := Option.isSome_iff_exists.1 hq.chunker
    rw [ht, hu] at hid ⊢
    rw [hdetermined.chunker t ht u hu (Option.some.inj hid)]
  chunkSize := hp.chunkSize.symm.trans hq.chunkSize
  graphModel := by
    have hid := optionalText_inj (hp.graphModelId.symm.trans hq.graphModelId)
    obtain ⟨schema, hconfig, hschema⟩ := hp.graphModelSchemaFingerprint
    obtain ⟨schema', hconfig', hschema'⟩ := hq.graphModelSchemaFingerprint
    cases ht : cognee.effectiveGraphModel p with
    | none =>
      rw [ht, Option.map_none, eq_comm, Option.map_eq_none_iff] at hid
      exact hid.symm
    | some t =>
      cases hu : cognee.effectiveGraphModel q with
      | none =>
        rw [ht, hu] at hid
        cases hid
      | some u =>
        rw [ht, hu] at hid
        rw [ht] at hschema
        rw [hu] at hschema'
        -- Models with the same name and schema are the same one.
        have hsame := (modelSchemaFingerprint_iff hblake hfloat hschema hschema').1
          (optionalText_inj (hconfig.symm.trans hconfig'))
        rw [hdetermined.graphModel t ht u hu (Option.some.inj hid) hsame]
  prompt := by
    have hprompt := optionalText_inj
      (hp.customPromptFingerprint.symm.trans hq.customPromptFingerprint)
    refine Option.map_injective (fun s t h => ?_) hprompt
    exact Content.str.inj ((fingerprintContent_inj hblake).1 h)

/-- A prompt that is filled is the one that Cognee uses. -/
theorem prompt_fill (hsignature : cognee.signature.Documented) :
    CognifyProfile.prompt ((cognifyKwargs p).fill cognee.signature).customPrompt =
      CognifyProfile.prompt p.customPrompt := by
  cases hprompt : p.customPrompt with
  | none => simp [CognifyKwargs.fill, cognifyKwargs, hprompt, hsignature.customPrompt,
      CognifyProfile.prompt_none]
  | some s => simp [CognifyKwargs.fill, cognifyKwargs, hprompt]

/-- The mode that is filled is the one of the profile. -/
theorem temporalCognify_fill (hsignature : cognee.signature.Documented) :
    ((cognifyKwargs p).fill cognee.signature).temporalCognify = p.temporalCognify := by
  cases htemporal : p.temporalCognify <;>
    simp [CognifyKwargs.fill, cognifyKwargs, htemporal, hsignature.temporalCognify]

/-- Arguments mean the same to Cognee exactly when the profiles lead to the
    same derivatives. -/
theorem sameMeaning_iff (hsignature : cognee.signature.Documented) (hp : p.Accepted)
    (hq : q.Accepted) (hx : x.Twin cognee p includeRuntimeModels)
    (hy : y.Twin cognee q includeRuntimeModels) :
    ((cognifyKwargs p).fill cognee.signature).SameMeaning
      ((cognifyKwargs q).fill cognee.signature) ↔ cognee.Agree p q := by
  have hchunkers : ((cognifyKwargs p).fill cognee.signature).chunker =
      ((cognifyKwargs q).fill cognee.signature).chunker ↔
        cognee.effectiveChunker p = cognee.effectiveChunker q :=
    elim_type_iff hx.chunker hy.chunker
  have hsizes : ((cognifyKwargs p).fill cognee.signature).chunkSize =
      ((cognifyKwargs q).fill cognee.signature).chunkSize ↔
        cognee.effectiveChunkSize p = cognee.effectiveChunkSize q := elim_chunkSize_iff
  have hmodels (ht : p.temporalCognify = false) (ht' : q.temporalCognify = false) :
      ((cognifyKwargs p).fill cognee.signature).graphModel =
        ((cognifyKwargs q).fill cognee.signature).graphModel ↔
          cognee.effectiveGraphModel p = cognee.effectiveGraphModel q := by
    have hpmodel := hx.graphModel ht
    have hqmodel := hy.graphModel ht'
    simp only [CogneeInstallation.effectiveGraphModel, ht, ht'] at hpmodel hqmodel ⊢
    exact elim_type_iff hpmodel hqmodel
  constructor
  · intro h
    have htemporal : p.temporalCognify = q.temporalCognify := by
      rw [← temporalCognify_fill hsignature, h.temporalCognify, temporalCognify_fill hsignature]
    refine ⟨htemporal, hchunkers.1 h.chunker, hsizes.1 h.chunkSize, ?_, ?_⟩
    -- A temporal cognify reads neither the graph model nor the prompt.
    · cases ht : p.temporalCognify with
      | true => simp [CogneeInstallation.effectiveGraphModel, ht, ← htemporal]
      | false =>
        exact (hmodels ht (htemporal.symm.trans ht)).1
          (h.graphModel ((temporalCognify_fill hsignature).trans ht))
    · cases ht : p.temporalCognify with
      | true =>
        rw [hp.valid.temporal_prompt ht, hq.valid.temporal_prompt (htemporal.symm.trans ht)]
      | false =>
        have hprompt := h.customPrompt ((temporalCognify_fill hsignature).trans ht)
        rwa [prompt_fill hsignature, prompt_fill hsignature] at hprompt
  · intro h
    refine ⟨?_, hchunkers.2 h.chunker, hsizes.2 h.chunkSize, fun ht => ?_, fun _ => ?_⟩
    · rw [temporalCognify_fill hsignature, temporalCognify_fill hsignature, h.temporalCognify]
    · rw [temporalCognify_fill hsignature] at ht
      exact (hmodels ht (h.temporalCognify.symm.trans ht)).2 h.graphModel
    · rw [prompt_fill hsignature, prompt_fill hsignature, h.prompt]

/-- Without a prompt and a temporal mode by default, the twin and the call do not
    drift apart. -/
theorem processingConfig_eq_iff (hblake : Blake2bCollisionFree) (hfloat : FloatReprLaws)
    (hsignature : cognee.signature.Documented) : cognee.TwinExact includeRuntimeModels := by
  intro p q x y hp hq hdetermined hx hy
  have htx := twin_of_ok hx
  have hty := twin_of_ok hy
  rw [sameMeaning_iff hsignature hp hq htx hty]
  constructor
  · rintro rfl
    exact htx.agree hblake hfloat hdetermined hty
  · exact htx.eq_of_agree hty

/-! ## Undocumented defaults -/

theorem plain_accepted (graphModel chunker : PyType) (customPrompt : Option String) :
    { CognifyProfile.plain graphModel chunker with customPrompt }.Accepted :=
  ⟨.type graphModel, .type chunker, .value (.int 1024), .value (optionalText customPrompt),
    .value (.bool false), by cases customPrompt <;> rfl⟩

theorem temporal_accepted (chunker : PyType) : (CognifyProfile.temporal chunker).Accepted :=
  ⟨.value .none, .type chunker, .value (.int 1024), .value .none, .value (.bool true), rfl⟩

/-- Profiles of the same chunker and of no two graph models are determined. -/
theorem determined_of_eq {chunker : PyType} (hp : p.chunker = some chunker)
    (hq : q.chunker = some chunker) (hmodel : q.temporalCognify = true ∨
      cognee.effectiveGraphModel p = cognee.effectiveGraphModel q) : cognee.Determined p q where
  chunker t ht u hu _ := by
    simp only [CogneeInstallation.effectiveChunker, hp, hq, Option.some_or,
      Option.mem_some_iff] at ht hu
    rw [← ht, hu]
  graphModel t ht u hu _ _ := by
    rcases hmodel with hmodel | hmodel
    · simp [CogneeInstallation.effectiveGraphModel, hmodel] at hu
    · exact Option.some.inj (ht.symm.trans (hmodel.trans hu))

/-- An empty prompt leads to the same twin as none. -/
theorem processingConfigFromProfile_empty_prompt (graphModel chunker : PyType) :
    cognee.processingConfigFromProfile
        { CognifyProfile.plain graphModel chunker with customPrompt := some "" }
        includeRuntimeModels =
      cognee.processingConfigFromProfile (.plain graphModel chunker) includeRuntimeModels := rfl

/-- With another default the twin is not exact, wherever a plain and a temporal
    profile have one: a temporal mode by default is not told from the same mode
    in the profile, and an empty prompt that takes the place of a default prompt
    goes unnoticed. -/
theorem not_twinExact {graphModel chunker : PyType} (hsignature : ¬cognee.signature.Documented)
    (hplain : cognee.processingConfigFromProfile (.plain graphModel chunker)
      includeRuntimeModels = .ok x)
    (htemporal : cognee.processingConfigFromProfile (.temporal chunker) includeRuntimeModels =
      .ok y) : ¬cognee.TwinExact includeRuntimeModels := by
  intro hexact
  cases hmode : cognee.signature.temporalCognify with
  | true =>
    have hiff := hexact (.plain graphModel chunker) (.temporal chunker) x y
      (plain_accepted graphModel chunker none) (temporal_accepted chunker)
      (determined_of_eq rfl rfl (.inl rfl)) hplain htemporal
    -- Either way cognify runs in temporal mode, where it reads no graph model.
    have hfilled : ((cognifyKwargs (.plain graphModel chunker)).fill
        cognee.signature).temporalCognify ≠ false := by
      show cognee.signature.temporalCognify ≠ false
      rw [hmode]
      decide
    have hsame : ((cognifyKwargs (.plain graphModel chunker)).fill cognee.signature).SameMeaning
        ((cognifyKwargs (.temporal chunker)).fill cognee.signature) :=
      ⟨hmode, rfl, rfl, fun h => absurd h hfilled, fun h => absurd h hfilled⟩
    have hmodes : (PyValue.bool false : PyValue PyFloat) = .bool true := by
      have hx := (twin_of_ok hplain).temporalCognify
      rw [hiff.2 hsame, (twin_of_ok htemporal).temporalCognify] at hx
      exact hx.symm
    cases hmodes
  | false =>
    have hiff := hexact (.plain graphModel chunker)
      { CognifyProfile.plain graphModel chunker with customPrompt := some "" } x x
      (plain_accepted graphModel chunker none) (plain_accepted graphModel chunker (some ""))
      (determined_of_eq rfl rfl (.inr rfl)) hplain
      (processingConfigFromProfile_empty_prompt graphModel chunker |>.trans hplain)
    -- The empty prompt is passed, so that the default is no longer used.
    have hprompt : CognifyProfile.prompt cognee.signature.customPrompt = none :=
      (hiff.1 rfl).customPrompt hmode
    exact hsignature ⟨hprompt, hmode⟩

/-- Cognee with a signature, where no configuration can be read. -/
def CogneeInstallation.unconfigured (signature : CogneeSignature) : CogneeInstallation where
  version := "1.4.0"
  problems := []
  signature
  typeModule _ := "cognee"
  typeQualname _ := "T"
  modelJsonSchema _ := none
  modelJsonSchema_wf _ _ h := by cases h
  llmConfig := .error ⟨.external, ""⟩
  instructorMode := .error ⟨.external, ""⟩
  llmArgs := .none
  stageConfig _ := .error ⟨.external, ""⟩
  modelMaxCompletionTokens _ := .error ⟨.external, ""⟩
  embeddingConfig := .error ⟨.external, ""⟩
  embeddingDimensionsSetting := .error ⟨.external, ""⟩
  resolveEmbeddingDimensions _ _ := .error ⟨.external, ""⟩
  cognifyConfig := .error ⟨.external, ""⟩
  cognifyModel _ := .error ⟨.external, ""⟩
  ontologyConfig := .error ⟨.external, ""⟩
  renderPrompt _ := .error ⟨.external, ""⟩
  readPrompt _ := .error ⟨.external, ""⟩
  readBytes _ := .error ⟨.external, ""⟩

/-- The twin and the call do not drift apart, whatever the profiles, the runtime
    inputs and whether they are left out, exactly if Cognee has no custom prompt
    and a non-temporal mode by default. With other defaults they drift apart
    wherever a plain and a temporal profile have a twin. -/
theorem twinExact_iff_documented (hblake : Blake2bCollisionFree) (hfloat : FloatReprLaws)
    (model : PyType) (signature : CogneeSignature) :
    ((∀ cognee : CogneeInstallation, cognee.signature = signature →
        ∀ includeRuntimeModels, cognee.TwinExact includeRuntimeModels) ↔
      signature.Documented) ∧
    ∀ cognee : CogneeInstallation, cognee.signature = signature → ¬signature.Documented →
      ∀ (graphModel chunker : PyType) (includeRuntimeModels : Bool) (x y : ProcessingConfig),
        cognee.processingConfigFromProfile (.plain graphModel chunker) includeRuntimeModels =
          .ok x →
        cognee.processingConfigFromProfile (.temporal chunker) includeRuntimeModels = .ok y →
        ¬cognee.TwinExact includeRuntimeModels := by
  refine ⟨⟨fun hexact => ?_, ?_⟩, ?_⟩
  · by_contra hsignature
    -- Without the runtime inputs both twins are derived from the profile alone.
    let cognee := CogneeInstallation.unconfigured signature
    have hplain : cognee.processingConfigFromProfile (.plain model model) false = .ok _ := rfl
    have htemporal : cognee.processingConfigFromProfile (.temporal model) false = .ok _ := rfl
    exact not_twinExact hsignature hplain htemporal (hexact cognee rfl false)
  · rintro hsignature cognee rfl includeRuntimeModels
    exact processingConfig_eq_iff hblake hfloat hsignature
  · rintro cognee rfl hsignature graphModel chunker includeRuntimeModels x y hplain htemporal
    exact not_twinExact hsignature hplain htemporal

/-- Model arguments that differ in excluded entries only, at any depth, have the
    same canonical value or are rejected alike: they lead to the same twin of
    every profile, or to the same error. -/
theorem processingConfig_without_secrets {v w : ModelArg PyFloat} (h : v.Agrees w) :
    canonicalModelArgs v = canonicalModelArgs w ∧
      ∀ (cognee : CogneeInstallation) (profile : CognifyProfile) (includeRuntimeModels : Bool),
        { cognee with llmArgs := v }.processingConfigFromProfile profile includeRuntimeModels =
          { cognee with llmArgs := w }.processingConfigFromProfile profile
            includeRuntimeModels := by
  have hcanonical := canonicalModelArgs_congr h
  refine ⟨hcanonical, fun cognee profile includeRuntimeModels => ?_⟩
  have hruntime : { cognee with llmArgs := v }.runtimeConfigFingerprint profile
        includeRuntimeModels =
      { cognee with llmArgs := w }.runtimeConfigFingerprint profile includeRuntimeModels := by
    unfold CogneeInstallation.runtimeConfigFingerprint
    rw [CogneeInstallation.configuredProcessingInputs_congr { cognee with llmArgs := v } hcanonical]
  unfold CogneeInstallation.processingConfigFromProfile
  rw [hruntime]
  rfl

end

end

/-! ## Samples -/

/-- Cognee on the sample platform, where texts are settings by their names. -/
abbrev CogneeInstallation.sample : @CogneeInstallation .sample :=
  letI : Platform := .sample
  { version := "1.4.0"
    problems := []
    signature :=
      { graphModel := .type "KnowledgeGraph"
        chunker := .type "TextChunker"
        chunkSize := .value .none
        customPrompt := none
        temporalCognify := false }
    typeModule := fun _ => "cognee"
    typeQualname := fun t => t
    modelJsonSchema := fun _ => none
    modelJsonSchema_wf := nofun
    llmConfig := .ok ⟨"LLMConfig", fun field =>
      if field = "llm_max_completion_tokens" then .ok (.int 4096)
      else if field = "llm_temperature" then .ok (.int 0)
      else .ok (.str field)⟩
    instructorMode := .ok ""
    llmArgs := .none
    stageConfig := fun _ => .ok ⟨"LLMConfig", fun field =>
      if field = "llm_max_completion_tokens" then .ok (.int 4096) else .ok (.str field)⟩
    modelMaxCompletionTokens := fun _ => .ok .none
    embeddingConfig := .ok ⟨"EmbeddingConfig", fun field =>
      if field = "embedding_dimensions" then .ok (.int 1024)
      else if field = "embedding_max_completion_tokens" then .ok (.int 512)
      else .ok (.str field)⟩
    embeddingDimensionsSetting := .ok (some "1024")
    resolveEmbeddingDimensions := fun _ _ => .ok .none
    cognifyConfig := .ok ⟨"CognifyConfig", fun _ => .ok (.bool true)⟩
    cognifyModel := fun field => .ok (.type field)
    ontologyConfig := .ok ⟨"OntologyConfig", fun field =>
      if field = "ontology_file_path" then .ok .none else .ok (.str field)⟩
    renderPrompt := fun path => .ok (.str path)
    readPrompt := fun path => .ok (.str path)
    readBytes := fun _ => .ok [] }

/-- The installed Cognee with other defaults of the prompt and the mode. -/
abbrev CogneeInstallation.sampleWith (customPrompt : Option String) (temporalCognify : Bool) :
    @CogneeInstallation .sample :=
  letI : Platform := .sample
  { CogneeInstallation.sample with
    signature :=
      { CogneeInstallation.sample.signature with
        customPrompt := customPrompt, temporalCognify := temporalCognify } }

/-- A default prompt: no prompt and an empty one have the same twin, and Cognee
    is called with another prompt. A temporal mode by default: it has another
    twin than the same mode in the profile, and Cognee is called with the same. -/
theorem twin_drifts_apart :
    letI : Platform := .sample
    let extract := CogneeInstallation.sampleWith (some "Extract.") false
    let temporal := CogneeInstallation.sampleWith none true
    let p : CognifyProfile := {}
    let q : CognifyProfile := { customPrompt := some "" }
    let r : CognifyProfile := { temporalCognify := true }
    p.Accepted ∧ q.Accepted ∧ r.Accepted ∧ extract.Determined p q ∧ temporal.Determined p r ∧
      (∃ x, extract.processingConfigFromProfile p true = .ok x ∧
        extract.processingConfigFromProfile q true = .ok x ∧
        ¬((cognifyKwargs p).fill extract.signature).SameMeaning
          ((cognifyKwargs q).fill extract.signature)) ∧
      ∃ x y, temporal.processingConfigFromProfile p true = .ok x ∧
        temporal.processingConfigFromProfile r true = .ok y ∧ x ≠ y ∧
        ((cognifyKwargs p).fill temporal.signature).SameMeaning
          ((cognifyKwargs r).fill temporal.signature) := by
  let _ : Platform := .sample
  intro extract temporal p q r
  have hp : (extract.processingConfigFromProfile p true).toOption.isSome := by decide +kernel
  have hp' : (temporal.processingConfigFromProfile p true).toOption.isSome := by decide +kernel
  have hr : (temporal.processingConfigFromProfile r true).toOption.isSome := by decide +kernel
  obtain ⟨x, hx⟩ := exists_ok_of_isSome hp
  obtain ⟨y, hy⟩ := exists_ok_of_isSome hp'
  obtain ⟨z, hz⟩ := exists_ok_of_isSome hr
  refine ⟨?_, ?_, ?_, ?_, ?_, ⟨x, hx, hx, fun h => ?_⟩, y, z, hy, hz, ?_, ?_⟩
  · exact ⟨.value .none, .value .none, .value .none, .value .none, .value (.bool false), rfl⟩
  · exact ⟨.value .none, .value .none, .value .none, .value (.str ""), .value (.bool false), rfl⟩
  · exact ⟨.value .none, .value .none, .value .none, .value .none, .value (.bool true), rfl⟩
  · exact ⟨fun t ht u hu _ => Option.some.inj (Eq.trans (Eq.symm ht) hu),
      fun t ht u hu _ _ => Option.some.inj (Eq.trans (Eq.symm ht) hu)⟩
  · exact ⟨fun t ht u hu _ => Option.some.inj (Eq.trans (Eq.symm ht) hu),
      fun t _ u hu _ _ => absurd hu (Option.not_mem_none u)⟩
  · exact absurd (h.customPrompt rfl) (by decide)
  · rintro rfl
    cases (twin_of_ok hy).temporalCognify.symm.trans (twin_of_ok hz).temporalCognify
  · exact ⟨rfl, rfl, rfl, fun h => absurd h (by decide), fun h => absurd h (by decide)⟩

/-- The documented defaults, with the default chunker given and an empty prompt,
    and a temporal mode by default. -/
theorem twinExact_iff_documented_sample :
    letI : Platform := .sample
    let cognee := CogneeInstallation.sample
    let p : CognifyProfile := {}
    let q : CognifyProfile := { chunker := some "TextChunker", customPrompt := some "" }
    (∃ x y, cognee.processingConfigFromProfile p true = .ok x ∧
      cognee.processingConfigFromProfile q true = .ok y ∧
        (x = y ↔ ((cognifyKwargs p).fill cognee.signature).SameMeaning
          ((cognifyKwargs q).fill cognee.signature))) ∧
      ¬(CogneeInstallation.sampleWith none true).TwinExact true := by
  let _ : Platform := .sample
  intro cognee p q
  have hiff := twinExact_iff_documented Platform.sample_blake2b Platform.sample_floatRepr
    "KnowledgeGraph"
  constructor
  · have hp : (cognee.processingConfigFromProfile p true).toOption.isSome := by decide +kernel
    have hq : (cognee.processingConfigFromProfile q true).toOption.isSome := by decide +kernel
    obtain ⟨x, hx⟩ := exists_ok_of_isSome hp
    obtain ⟨y, hy⟩ := exists_ok_of_isSome hq
    refine ⟨x, y, hx, hy, (hiff cognee.signature).1.2 ⟨rfl, rfl⟩ cognee rfl true p q x y
      ?_ ?_ ?_ hx hy⟩
    · exact ⟨.value .none, .value .none, .value .none, .value .none, .value (.bool false), rfl⟩
    · exact ⟨.value .none, .type "TextChunker", .value .none, .value (.str ""),
        .value (.bool false), rfl⟩
    · exact ⟨fun t ht u hu _ => Option.some.inj (Eq.trans (Eq.symm ht) hu),
        fun t ht u hu _ _ => Option.some.inj (Eq.trans (Eq.symm ht) hu)⟩
  · let temporal := CogneeInstallation.sampleWith none true
    have hplain : (temporal.processingConfigFromProfile
        (.plain "KnowledgeGraph" "TextChunker") true).toOption.isSome := by decide +kernel
    have htemporal : (temporal.processingConfigFromProfile
        (.temporal "TextChunker") true).toOption.isSome := by decide +kernel
    obtain ⟨x, hx⟩ := exists_ok_of_isSome hplain
    obtain ⟨y, hy⟩ := exists_ok_of_isSome htemporal
    exact (hiff temporal.signature).2 temporal rfl (fun h => absurd h.temporalCognify (by decide))
      _ _ true x y hx hy

/-- A key that is rotated, and a timeout that takes the place of another one. -/
theorem processingConfig_without_secrets_rotated :
    letI : Platform := .sample
    let v : ModelArg PyFloat := .mapping
      [(.str "api_key", .str "first"), (.str "seed", .int 7),
       (.str "extra_body", .mapping [(.str "requestTimeout", .int 30)])]
    let w : ModelArg PyFloat := .mapping
      [(.str "seed", .int 7),
       (.str "extra_body", .mapping [(.str "proxy", .none), (.str "max_retries", .other "Retry")]),
       (.str "bearerToken", .str "https://second")]
    canonicalModelArgs v = canonicalModelArgs w ∧
      ∀ (cognee : CogneeInstallation) (profile : CognifyProfile) (includeRuntimeModels : Bool),
        { cognee with llmArgs := v }.processingConfigFromProfile profile includeRuntimeModels =
          { cognee with llmArgs := w }.processingConfigFromProfile profile
            includeRuntimeModels := by
  let _ : Platform := .sample
  intro v w
  have hexcluded : ∀ s ∈ ["api_key", "requestTimeout", "proxy", "max_retries", "bearerToken"],
      (PyKey.str s).IsExcluded :=
    fun s hs => ⟨s, rfl, (show ∀ s ∈ ["api_key", "requestTimeout", "proxy", "max_retries",
      "bearerToken"], modelArgKind s = .ok .excluded by decide +kernel) s hs⟩
  have hbody : EntriesAgree [(.str "requestTimeout", ModelArg.int 30)]
      [(.str "proxy", ModelArg.none), (.str "max_retries", ModelArg.other "Retry")] :=
    .excludedLeft (hexcluded _ (by decide)) (.excludedRight (hexcluded _ (by decide))
      (.excludedRight (hexcluded _ (by decide)) .nil))
  refine processingConfig_without_secrets (.mapping ?_ ?_)
  · refine .excludedLeft (hexcluded _ (by decide)) (.generation (by decide +kernel)
      (.nested (by decide +kernel) (.mapping hbody ?_)
        (.excludedRight (hexcluded _ (by decide)) .nil)))
    exact iff_of_true ⟨_, List.mem_cons_self, hexcluded _ (by decide)⟩
      ⟨_, List.mem_cons_self, hexcluded _ (by decide)⟩
  · exact iff_of_true ⟨_, List.mem_cons_self, hexcluded _ (by decide)⟩
      ⟨_, List.mem_cons_of_mem _ (List.mem_cons_of_mem _ List.mem_cons_self),
        hexcluded _ (by decide)⟩

end Cogindex
