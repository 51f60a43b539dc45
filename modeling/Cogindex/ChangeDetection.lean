import Cogindex.Reconciling

/-!
# Change detection

A change of a document is detected through the fingerprints of its record.
Without collisions it is exact: the records of two specifications under two
processing configurations are equal exactly when the specifications say the
same (`SpecEq`) and so do the configurations (`ConfigEq`), and what reconciling
asks for depends on which of them differ (`change_detection_exact`).
-/

namespace Cogindex

/-! ## Equality of JSON objects -/

section

variable {F : Type}

/-- Objects with the same keys in the same order are equal entry by entry. -/
theorem jsonEq_dict_iff {es fs : List (PyKey × PyValue F)}
    (hkeys : es.map Prod.fst = fs.map Prod.fst) (hnodup : (es.map Prod.fst).Nodup) :
    JsonEq (.dict es) (.dict fs) ↔ List.Forall₂ (fun e f => JsonEq e.2 f.2) es fs := by
  have hlen : es.length = fs.length := by simpa using congrArg List.length hkeys
  have hat : ∀ n (he : n < es.length) (hf : n < fs.length), es[n].1 = fs[n].1 := fun n he hf => by
    have h := List.getElem_of_eq hkeys (by rwa [List.length_map] : n < (es.map Prod.fst).length)
    rwa [List.getElem_map, List.getElem_map] at h
  constructor
  · intro h
    cases h with
    | array hv => cases hv
    | object _ hvalues =>
      refine List.forall₂_iff_get.2 ⟨hlen, fun n he hf => ?_⟩
      refine hvalues es[n].1 _ _ (List.getElem_mem he) ?_
      rw [hat n he hf]
      exact List.getElem_mem hf
  · intro h
    rw [List.forall₂_iff_get] at h
    refine .object (fun k => by rw [hkeys]) fun k x y hx hy => ?_
    obtain ⟨n, hn, hxn⟩ := List.getElem_of_mem hx
    obtain ⟨m, hm, hym⟩ := List.getElem_of_mem hy
    -- The key is at one place only.
    have hnm : n = m := by
      have hn' : n < (es.map Prod.fst).length := by rwa [List.length_map]
      have hm' : m < (es.map Prod.fst).length := by rwa [List.length_map, hlen]
      refine congrArg Fin.val (List.nodup_iff_injective_get.1 hnodup (?_ : _ = _) :
        (⟨n, hn'⟩ : Fin _) = ⟨m, hm'⟩)
      rw [List.get_eq_getElem, List.get_eq_getElem, List.getElem_map, List.getElem_map,
        hat m (hlen ▸ hm) hm, hxn, hym]
    subst hnm
    have := h.2 n hn hm
    rwa [List.get_eq_getElem, List.get_eq_getElem, hxn, hym] at this

theorem jsonEq_str_iff {s t : String} : JsonEq (.str s : PyValue F) (.str t) ↔ s = t := by
  constructor
  · intro h
    cases h with
    | str => rfl
    | array hv => cases hv
  · rintro rfl
    exact .str s

/-- Arrays are equal if their items are, where equality of an item determines it. -/
theorem jsonEq_map_iff {α : Type} {item : α → PyValue F}
    (hitem : ∀ {a b}, JsonEq (item a) (item b) ↔ a = b) {v w : PyValue F} {as bs : List α}
    (hv : v.items = some (as.map item)) (hw : w.items = some (bs.map item)) :
    JsonEq v w ↔ as = bs := by
  constructor
  · intro h
    cases h with
    | array hv' hw' hlen hitems =>
      obtain rfl := Option.some.inj (hv'.symm.trans hv)
      obtain rfl := Option.some.inj (hw'.symm.trans hw)
      rw [List.length_map, List.length_map] at hlen
      refine List.ext_getElem hlen fun n ha hb => hitem.1 (hitems n _ _ ?_ ?_)
      · rw [List.getElem?_map, List.getElem?_eq_getElem ha, Option.map_some]
      · rw [List.getElem?_map, List.getElem?_eq_getElem hb, Option.map_some]
    | _ => cases hv
  · rintro rfl
    refine .array hv hw rfl fun n x y hx hy => ?_
    obtain rfl := Option.some.inj (hx.symm.trans hy)
    rw [List.getElem?_map, Option.map_eq_some_iff] at hx
    obtain ⟨a, -, rfl⟩ := hx
    exact hitem.2 rfl

theorem jsonEq_strs_iff {ss ts : List String} :
    JsonEq (.list (ss.map .str) : PyValue F) (.list (ts.map .str)) ↔ ss = ts :=
  jsonEq_map_iff jsonEq_str_iff rfl rfl

/-- An optional value is equal to another one if both are missing or equal. -/
theorem jsonEq_elim_iff {α : Type} {f : α → PyValue F} (hf : ∀ a b, JsonEq (f a) (f b) ↔ a = b)
    (hnone : ∀ a, ¬JsonEq .none (f a)) (hnone' : ∀ a, ¬JsonEq (f a) .none) {a b : Option α} :
    JsonEq (a.elim .none f) (b.elim .none f) ↔ a = b := by
  cases a with
  | none =>
    cases b with
    | none => exact iff_of_true .null rfl
    | some b => exact iff_of_false (hnone b) nofun
  | some a =>
    cases b with
    | none => exact iff_of_false (hnone' a) nofun
    | some b => exact (hf a b).trans Option.some_inj.symm

theorem jsonEq_optStr_iff {a b : Option String} :
    JsonEq (a.elim .none .str : PyValue F) (b.elim .none .str) ↔ a = b :=
  jsonEq_elim_iff (fun _ _ => jsonEq_str_iff)
    (fun _ h => by cases h with | array hv => cases hv)
    (fun _ h => by cases h with | array hv => cases hv)

theorem jsonEq_optFloat_iff {a b : Option F} :
    JsonEq (a.elim .none .float : PyValue F) (b.elim .none .float) ↔ a = b := by
  refine jsonEq_elim_iff (fun x y => ⟨fun h => ?_, fun h => h ▸ .float x⟩)
    (fun _ h => by cases h with | array hv => cases hv)
    (fun _ h => by cases h with | array hv => cases hv)
  cases h with
  | float => rfl
  | array hv => cases hv

theorem jsonEq_optNat_iff {a b : Option ℕ} :
    JsonEq (a.elim .none fun n => .int n : PyValue F) (b.elim .none fun n => .int n) ↔ a = b := by
  refine jsonEq_elim_iff (fun m n => ⟨fun h => ?_, fun h => h ▸ .int m⟩)
    (fun _ h => by cases h with | array hv => cases hv)
    (fun _ h => by cases h with | array hv => cases hv)
  generalize hi : (PyValue.int (m : ℤ) : PyValue F) = v at h
  generalize hk : (PyValue.int (n : ℤ) : PyValue F) = w at h
  cases h with
  | int i => exact Int.ofNat.inj ((PyValue.int.inj hi).trans (PyValue.int.inj hk).symm)
  | array hv => subst hi; cases hv
  | _ => cases hi

end

section

variable [Platform]

/-! ## Specifications -/

/-- The same node set, or none. -/
def SameNodes : Option (List String) → Option (List String) → Prop
  | none, none => True
  | some xs, some ys => ∀ x, x ∈ xs ↔ x ∈ ys
  | _, _ => False

/-- Two specifications say the same of a document. -/
structure SpecEq (s s' : CogneeDocumentSpec) : Prop where
  content : s.content = s'.content
  label : s.label = s'.label
  metadata : JsonEq s.externalMetadata.toPyValue s'.externalMetadata.toPyValue
  nodes : SameNodes s.nodeSet s'.nodeSet
  weight : s.importanceWeight = s'.importanceWeight

/-- Two configurations say the same, with the extras as sets of pairs. -/
structure ConfigEq (c c' : ProcessingConfig) : Prop where
  graphModelId : JsonEq c.graphModelId c'.graphModelId
  graphModelSchemaFingerprint :
    JsonEq c.graphModelSchemaFingerprint c'.graphModelSchemaFingerprint
  chunkerId : JsonEq c.chunkerId c'.chunkerId
  chunkSize : c.chunkSize = c'.chunkSize
  customPromptFingerprint : JsonEq c.customPromptFingerprint c'.customPromptFingerprint
  temporalCognify : JsonEq c.temporalCognify c'.temporalCognify
  runtimeConfigFingerprint : JsonEq c.runtimeConfigFingerprint c'.runtimeConfigFingerprint
  extras : ∀ e, e ∈ c.extras ↔ e ∈ c'.extras

omit [Platform] in
/-- Node sets without duplicates are the same if their sorted lists are. -/
theorem insertionSort_eq_iff {xs ys : List String} (hxs : xs.Nodup) (hys : ys.Nodup) :
    xs.insertionSort (· ≤ ·) = ys.insertionSort (· ≤ ·) ↔ ∀ x, x ∈ xs ↔ x ∈ ys := by
  constructor
  · intro h x
    rw [← List.mem_insertionSort (· ≤ ·), h, List.mem_insertionSort]
  · intro h
    refine List.Perm.eq_of_pairwise' (List.pairwise_insertionSort (· ≤ ·) xs)
      (List.pairwise_insertionSort (· ≤ ·) ys) ?_
    exact (List.perm_insertionSort _ xs).trans
      (((List.perm_ext_iff_of_nodup hxs hys).2 h).trans (List.perm_insertionSort _ ys).symm)

/-- The value of a node set that is fingerprinted. -/
abbrev sortedNodes (nodes : Option (List String)) : PyValue PyFloat :=
  nodes.elim .none fun nodes => .list ((nodes.insertionSort (· ≤ ·)).map .str)

theorem jsonEq_sortedNodes_iff {a b : Option (List String)} (ha : ∀ xs ∈ a, xs.Nodup)
    (hb : ∀ xs ∈ b, xs.Nodup) : JsonEq (sortedNodes a) (sortedNodes b) ↔ SameNodes a b := by
  cases a with
  | none =>
    cases b with
    | none => exact iff_of_true .null trivial
    | some ys => exact iff_of_false (fun h => by cases h with | array hv => cases hv) id
  | some xs =>
    cases b with
    | none => exact iff_of_false (fun h => by cases h with | array _ hw => cases hw) id
    | some ys => exact jsonEq_strs_iff.trans (insertionSort_eq_iff (ha xs rfl) (hb ys rfl))

/-! ## Fingerprints of the fields -/

theorem wellFormed_optStr (a : Option String) :
    (a.elim .none .str : PyValue PyFloat).WellFormed := by
  cases a with
  | none => exact .none
  | some a => exact .str a

theorem wellFormed_optFloat (a : Option PyFloat) :
    (a.elim .none .float : PyValue PyFloat).WellFormed := by
  cases a with
  | none => exact .none
  | some a => exact .float a

theorem wellFormed_sortedNodes (a : Option (List String)) : (sortedNodes a).WellFormed := by
  cases a with
  | none => exact .none
  | some xs =>
    refine .list fun x hx => ?_
    obtain ⟨s, -, rfl⟩ := List.mem_map.1 hx
    exact .str s

section Fields

variable (hblake : Blake2bCollisionFree) (hfloat : FloatReprLaws)

include hblake hfloat

/-- The fingerprint of the label determines it. -/
theorem metadataFingerprint_eq_iff {a b : Option String} {f g : String}
    (hf : metadataFingerprint a = .ok f) (hg : metadataFingerprint b = .ok g) :
    f = g ↔ a = b := by
  have hwf : ∀ a : Option String, (PyValue.dict [(PyKey.str "label",
      (a.elim .none .str : PyValue PyFloat))]).WellFormed := fun a =>
    .dict (show ["label"].Nodup by decide) (by
      rintro e he
      obtain rfl := List.mem_singleton.1 he
      exact wellFormed_optStr a)
  rw [fingerprintJson_eq_iff hblake hfloat (hwf a) (hwf b) hf hg]
  have hkeys : [PyKey.str "label"].Nodup := by decide
  refine Iff.trans (jsonEq_dict_iff rfl ?_) ?_
  · exact hkeys
  simp only [List.forall₂_cons, List.Forall₂.nil, and_true]
  exact jsonEq_optStr_iff

/-- The fingerprint of the weight determines it. -/
theorem importanceWeightFingerprint_eq_iff {a b : Option PyFloat} {f g : String}
    (hf : importanceWeightFingerprint a = .ok f) (hg : importanceWeightFingerprint b = .ok g) :
    f = g ↔ a = b :=
  (fingerprintJson_eq_iff hblake hfloat (wellFormed_optFloat a) (wellFormed_optFloat b)
    hf hg).trans jsonEq_optFloat_iff

/-- The fingerprint of the annotations determines the metadata as JSON, and
    the node set. -/
theorem annotationsFingerprint_eq_iff {m m' : Metadata} {n n' : Option (List String)}
    (hm : m.toPyValue.WellFormed) (hm' : m'.toPyValue.WellFormed) (hn : ∀ xs ∈ n, xs.Nodup)
    (hn' : ∀ xs ∈ n', xs.Nodup) {f g : String} (hf : annotationsFingerprint m n = .ok f)
    (hg : annotationsFingerprint m' n' = .ok g) :
    f = g ↔ JsonEq m.toPyValue m'.toPyValue ∧ SameNodes n n' := by
  have hwf : ∀ (m : Metadata) (n : Option (List String)), m.toPyValue.WellFormed →
      (PyValue.dict [(PyKey.str "external_metadata", m.toPyValue),
        (PyKey.str "node_set", sortedNodes n)]).WellFormed := fun m n hm =>
    .dict (show ["external_metadata", "node_set"].Nodup by decide) (by
      rintro e he
      rcases List.mem_pair.1 he with rfl | rfl
      exacts [hm, wellFormed_sortedNodes n])
  rw [fingerprintJson_eq_iff hblake hfloat (hwf m n hm) (hwf m' n' hm') hf hg]
  have hkeys : [PyKey.str "external_metadata", .str "node_set"].Nodup := by decide
  refine Iff.trans (jsonEq_dict_iff rfl ?_) ?_
  · exact hkeys
  simp only [List.forall₂_cons, List.Forall₂.nil, and_true]
  exact and_congr_right' (jsonEq_sortedNodes_iff hn hn')

end Fields

/-! ## Configurations -/

/-- The extras as they are fingerprinted. -/
abbrev extrasValue (extras : List (String × String)) : PyValue PyFloat :=
  .tuple (extras.map fun e => .tuple [.str e.1, .str e.2])

theorem jsonEq_extras_iff {es fs : List (String × String)} :
    JsonEq (extrasValue es) (extrasValue fs) ↔ es = fs := by
  refine jsonEq_map_iff (fun {e f} => ?_) rfl rfl
  -- A pair is the array of its two parts.
  have hparts : JsonEq (.tuple [.str e.1, .str e.2] : PyValue PyFloat)
      (.tuple [.str f.1, .str f.2]) ↔ [e.1, e.2] = [f.1, f.2] :=
    jsonEq_map_iff jsonEq_str_iff rfl rfl
  rw [hparts, List.cons.injEq, List.cons.injEq, Prod.ext_iff]
  exact and_congr_right' (and_iff_left rfl)

/-- Sorted extras with unique keys are equal if they are as sets. -/
theorem ProcessingConfig.extras_eq_iff (c c' : ProcessingConfig) :
    c.extras = c'.extras ↔ ∀ e, e ∈ c.extras ↔ e ∈ c'.extras := by
  refine ⟨fun h e => by rw [h], fun h => ?_⟩
  have hnodup : ∀ c : ProcessingConfig, c.extras.Nodup := fun c =>
    c.extras_sorted.imp fun {e f} hlt heq => (ne_of_lt hlt) (congrArg Prod.fst heq)
  exact List.Perm.eq_of_pairwise (fun e f _ _ hef hfe => absurd hef (lt_asymm hfe))
    c.extras_sorted c'.extras_sorted ((List.perm_ext_iff_of_nodup (hnodup c) (hnodup c')).2 h)

theorem ProcessingConfig.asdict_wellFormed (c : ProcessingConfig) : c.asdict.WellFormed := by
  have hfield := c.fields_wf
  simp only [List.forall_mem_cons] at hfield
  obtain ⟨h₁, h₂, h₃, h₅, h₆, h₇, -⟩ := hfield
  have h₄ : (c.chunkSize.elim .none fun n => .int n : PyValue PyFloat).WellFormed := by
    cases c.chunkSize with
    | none => exact .none
    | some n => exact .int n
  have h₈ : (extrasValue c.extras).WellFormed := by
    refine .tuple fun x hx => ?_
    obtain ⟨e, -, rfl⟩ := List.mem_map.1 hx
    refine .tuple fun y hy => ?_
    rcases List.mem_pair.1 hy with rfl | rfl <;> exact .str _
  refine .dict (show ["graph_model_id", "graph_model_schema_fingerprint", "chunker_id",
    "chunk_size", "custom_prompt_fingerprint", "temporal_cognify", "runtime_config_fingerprint",
    "extras"].Nodup by decide) ?_
  simp only [List.forall_mem_cons]
  exact ⟨h₁, h₂, h₃, h₄, h₅, h₆, h₇, h₈, fun _ h => absurd h List.not_mem_nil⟩

/-- The fingerprint of a configuration determines what it says. -/
theorem ProcessingConfig.fingerprint_eq_iff (hblake : Blake2bCollisionFree)
    (hfloat : FloatReprLaws) {c c' : ProcessingConfig} {f g : String}
    (hf : c.fingerprint = .ok f) (hg : c'.fingerprint = .ok g) : f = g ↔ ConfigEq c c' := by
  rw [fingerprintJson_eq_iff hblake hfloat c.asdict_wellFormed c'.asdict_wellFormed hf hg]
  have hkeys : [PyKey.str "graph_model_id", .str "graph_model_schema_fingerprint",
      .str "chunker_id", .str "chunk_size", .str "custom_prompt_fingerprint",
      .str "temporal_cognify", .str "runtime_config_fingerprint", .str "extras"].Nodup := by
    decide
  refine Iff.trans (jsonEq_dict_iff rfl ?_) ?_
  · exact hkeys
  simp only [List.forall₂_cons, List.Forall₂.nil, and_true, jsonEq_extras_iff, jsonEq_optNat_iff,
    c.extras_eq_iff c']
  exact ⟨fun ⟨h₁, h₂, h₃, h₄, h₅, h₆, h₇, h₈⟩ => ⟨h₁, h₂, h₃, h₄, h₅, h₆, h₇, h₈⟩,
    fun ⟨h₁, h₂, h₃, h₄, h₅, h₆, h₇, h₈⟩ => ⟨h₁, h₂, h₃, h₄, h₅, h₆, h₇, h₈⟩⟩

/-! ## Records -/

/-- What shapes the derivatives is the same, but for the weight. -/
structure SameSource (s s' : CogneeDocumentSpec) (c c' : ProcessingConfig) : Prop where
  content : s.content = s'.content
  metadata : JsonEq s.externalMetadata.toPyValue s'.externalMetadata.toPyValue
  nodes : SameNodes s.nodeSet s'.nodeSet
  config : ConfigEq c c'

section Records

variable (hblake : Blake2bCollisionFree) (hfloat : FloatReprLaws) (s s' : CogneeDocumentSpec)
  {c c' : ProcessingConfig} {f f' : String} (hf : c.fingerprint = .ok f)
  (hf' : c'.fingerprint = .ok f') (i : UUID)

include hblake hfloat

theorem sameWeight_iff : (documentRecordFor s i f).SameWeight (documentRecordFor s' i f') ↔
    s.importanceWeight = s'.importanceWeight :=
  importanceWeightFingerprint_eq_iff hblake hfloat s.weight_eq s'.weight_eq

theorem sameLabel_iff : (documentRecordFor s i f).metadataFingerprint =
    (documentRecordFor s' i f').metadataFingerprint ↔ s.label = s'.label :=
  metadataFingerprint_eq_iff hblake hfloat s.metadata_eq s'.metadata_eq

include hf hf'

theorem sameDerivatives_iff :
    (documentRecordFor s i f).SameDerivatives (documentRecordFor s' i f') ↔
      SameSource s s' c c' := by
  have hcontent : (documentRecordFor s i f).contentFingerprint =
      (documentRecordFor s' i f').contentFingerprint ↔ s.content = s'.content := by
    rw [documentRecordFor, documentRecordFor, ← s.content_eq, ← s'.content_eq]
    exact fingerprintContent_inj hblake
  have hannotations : (documentRecordFor s i f).annotationsFingerprint =
      (documentRecordFor s' i f').annotationsFingerprint ↔ _ :=
    annotationsFingerprint_eq_iff hblake hfloat s.metadata_wf s'.metadata_wf s.nodes_nodup
      s'.nodes_nodup s.annotations_eq s'.annotations_eq
  have hconfig : (documentRecordFor s i f).processingFingerprint =
      (documentRecordFor s' i f').processingFingerprint ↔ _ :=
    ProcessingConfig.fingerprint_eq_iff hblake hfloat hf hf'
  rw [DocumentRecord.SameDerivatives, hcontent, hannotations, hconfig]
  exact ⟨fun ⟨_, hc, ⟨hm, hn⟩, hp, _⟩ => ⟨hc, hm, hn, hp⟩,
    fun ⟨hc, hm, hn, hp⟩ => ⟨rfl, hc, ⟨hm, hn⟩, hp, rfl⟩⟩

/-- Records of one document are equal exactly when the specifications and the
    configurations say the same. -/
theorem documentRecordFor_eq_iff :
    documentRecordFor s i f = documentRecordFor s' i f' ↔ SpecEq s s' ∧ ConfigEq c c' := by
  have hparts : documentRecordFor s i f = documentRecordFor s' i f' ↔
      (documentRecordFor s i f).SameDerivatives (documentRecordFor s' i f') ∧
        (documentRecordFor s i f).SameWeight (documentRecordFor s' i f') ∧
          (documentRecordFor s i f).metadataFingerprint =
            (documentRecordFor s' i f').metadataFingerprint := by
    rw [DocumentRecord.mk.injEq, DocumentRecord.SameDerivatives, DocumentRecord.SameWeight]
    simp only [documentRecordFor, true_and, and_true]
    exact ⟨fun ⟨hc, ha, hm, hp, hw⟩ => ⟨⟨hc, ha, hp⟩, hw, hm⟩,
      fun ⟨⟨hc, ha, hp⟩, hw, hm⟩ => ⟨hc, ha, hm, hp, hw⟩⟩
  rw [hparts, sameDerivatives_iff hblake hfloat s s' hf hf', sameWeight_iff hblake hfloat,
    sameLabel_iff hblake hfloat]
  exact ⟨fun ⟨⟨hc, hm, hn, hp⟩, hw, hl⟩ => ⟨⟨hc, hl, hm, hn, hw⟩, hp⟩,
    fun ⟨⟨hc, hl, hm, hn, hw⟩, hp⟩ => ⟨⟨hc, hm, hn, hp⟩, hw, hl⟩⟩

end Records

/-- **Change detection is exact.** The records of two specifications under two
    configurations are equal exactly when both say the same; and reconciling
    the second against the confirmed record of the first does nothing exactly
    then, recreates the document exactly when the weights differ, replaces it
    exactly when anything else that shapes derivatives differs, and updates the
    metadata exactly when only the label differs. -/
theorem change_detection_exact (hblake : Blake2bCollisionFree) (hfloat : FloatReprLaws)
    (hdiff : DiffContract) (s s' : CogneeDocumentSpec) (c c' : ProcessingConfig) {f f' : String}
    (hf : c.fingerprint = .ok f) (hf' : c'.fingerprint = .ok f') (h : DocumentHandler)
    (hh : h.processingFingerprint = f') {key externalKey : String} {i : UUID}
    (hkey : normalizeExternalKey key = .ok externalKey)
    (hi : h.dataIdWith documentDataId externalKey = .ok i) :
    (documentRecordFor s i f = documentRecordFor s' i f' ↔ SpecEq s s' ∧ ConfigEq c c') ∧
      ∃ out, h.reconcile (.str key) (some s') [documentRecordFor s i f] false = .ok out ∧
        (out = none ↔ SpecEq s s' ∧ ConfigEq c c') ∧
        (out.map (·.action.op) = some .recreate ↔ s.importanceWeight ≠ s'.importanceWeight) ∧
        (out.map (·.action.op) = some .replace ↔
          s.importanceWeight = s'.importanceWeight ∧ ¬SameSource s s' c c') ∧
        (out.map (·.action.op) = some .updateMetadata ↔
          s.importanceWeight = s'.importanceWeight ∧ SameSource s s' c c' ∧
            s.label ≠ s'.label) := by
  subst hh
  have hrecord := documentRecordFor_eq_iff hblake hfloat s s' hf hf' i
  have hweight : (documentRecordFor s i f).SameWeight
      (documentRecordFor s' i h.processingFingerprint) ↔ _ := sameWeight_iff hblake hfloat s s' i
  have hsource := sameDerivatives_iff hblake hfloat s s' hf hf' i
  have hspec : SpecEq s s' ∧ ConfigEq c c' ↔
      s.importanceWeight = s'.importanceWeight ∧ SameSource s s' c c' ∧ s.label = s'.label :=
    ⟨fun ⟨⟨hc, hl, hm, hn, hw⟩, hp⟩ => ⟨hw, ⟨hc, hm, hn, hp⟩, hl⟩,
      fun ⟨hw, ⟨hc, hm, hn, hp⟩, hl⟩ => ⟨⟨hc, hl, hm, hn, hw⟩, hp⟩⟩
  refine ⟨hrecord, h.reconcileId externalKey i (some s') [documentRecordFor s i f] false, ?_, ?_⟩
  · rw [DocumentHandler.reconcile, DocumentHandler.reconcileWith, hkey]
    show (h.dataIdWith documentDataId externalKey >>= _) = _
    rw [hi]
    rfl
  -- Nothing is done for equal records; else the class of the action says how they differ.
  have hnone : h.reconcileId externalKey i (some s') [documentRecordFor s i f] false = none ↔ _ :=
    DocumentHandler.reconcileId_eq_none_iff hdiff
  rw [List.forall_mem_singleton, hrecord] at hnone
  simp only [true_and] at hnone
  cases hout : h.reconcileId externalKey i (some s') [documentRecordFor s i f] false with
  | none =>
    have heq := hspec.1 (hnone.1 hout)
    refine ⟨iff_of_true rfl (hnone.1 hout), iff_of_false nofun fun hw => hw heq.1,
      iff_of_false nofun fun hr => hr.2 heq.2.1, iff_of_false nofun fun hu => hu.2.2 heq.2.2⟩
  | some o =>
    have hne : ¬(s.importanceWeight = s'.importanceWeight ∧ SameSource s s' c c' ∧
        s.label = s'.label) := fun heq => by
      rw [hnone.2 (hspec.2 heq)] at hout
      cases hout
    rw [hspec]
    have hclass := DocumentHandler.reconcileId_classified hdiff hout
    simp only [Option.map_some, Option.some.injEq]
    generalize o.action.op = op at hclass
    cases hclass with
    | recreate hex =>
      simp only [List.mem_singleton, exists_eq_left, hweight] at hex
      exact ⟨iff_of_false nofun fun heq => hex heq.1, iff_of_true rfl hex,
        iff_of_false nofun fun hr => hex hr.1, iff_of_false nofun fun hu => hex hu.1⟩
    | replace hall hex =>
      rw [List.forall_mem_singleton, hweight] at hall
      simp only [List.mem_singleton, exists_eq_left, hsource, Bool.false_eq_true, false_or] at hex
      exact ⟨iff_of_false nofun fun heq => hex heq.2.1, iff_of_false nofun fun hw => hw hall,
        iff_of_true rfl ⟨hall, hex⟩, iff_of_false nofun fun hu => hex hu.2.1⟩
    | upsert hprev _ => cases hprev
    | updateMetadata _ _ hall =>
      rw [List.forall_mem_singleton, hweight, hsource] at hall
      have hlabel : s.label ≠ s'.label := fun hl => hne ⟨hall.1, hall.2, hl⟩
      exact ⟨iff_of_false nofun fun heq => hlabel heq.2.2, iff_of_false nofun fun hw => hw hall.1,
        iff_of_false nofun fun hr => hr.2 hall.2, iff_of_true rfl ⟨hall.1, hall.2, hlabel⟩⟩

end

/-- With a new label and nothing else, the metadata is updated. -/
theorem change_detection_exact_label :
    letI : Platform := .sample
    ∃ f out, ProcessingConfig.sample.fingerprint = .ok f ∧
      ({ DocumentHandler.sample with processingFingerprint := f } : DocumentHandler).reconcile
        (.str "a.md") (some (.sample "alpha" "new"))
        [documentRecordFor (.sample "alpha" "old") (canonicalJoin
          [IDENTITY_SCHEMA_VERSION.repr, "rt", "fake-default", "default", "ds", "a.md"]) f] false =
          .ok out ∧
        out.map (·.action.op) = some .updateMetadata := by
  let : Platform := .sample
  obtain ⟨f, hf⟩ := ProcessingConfig.sample_fingerprint
  have hkey : Coordinate "a.md" := by decide
  obtain ⟨-, out, hout, -, -, -, hupdate⟩ := change_detection_exact Platform.sample_blake2b
    Platform.sample_floatRepr Platform.sample_diff (.sample "alpha" "old") (.sample "alpha" "new")
    .sample .sample hf hf { DocumentHandler.sample with processingFingerprint := f } rfl
    (normalizeExternalKey_ok_iff.2 ⟨hkey, rfl⟩) (DocumentHandler.sample_dataIdWith hkey)
  have hconfig : ConfigEq ProcessingConfig.sample ProcessingConfig.sample :=
    ⟨.null, .null, .null, rfl, .null, .bool _, .null, fun _ => Iff.rfl⟩
  refine ⟨f, out, hf, hout, hupdate.2 ⟨rfl, ⟨rfl, .null, trivial, hconfig⟩, ?_⟩⟩
  simp [CogneeDocumentSpec.sample]

end Cogindex
