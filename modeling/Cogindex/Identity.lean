import Cogindex.Platform

/-!
# Identities

The `data_id` of a document is a pure function of its logical coordinates: the
UUID of the identity schema version, the runtime key, the physical identity
scope, the connector tenant, the dataset name and the external key in NFC,
joined with the length of each segment before it (`canonicalJoin`).

* `canonicalJoin_injective`: the join determines its segments, whatever their
  number and their characters;
* `documentDataId_ok_iff`: what coordinates are accepted, and what they name;
* `DocumentKey`: the external keys in NFC, which `declare_document` hands to
  the engine.
-/

namespace Cogindex

/-- Bumped when the identity derivation changes incompatibly. -/
def IDENTITY_SCHEMA_VERSION : ℕ := 2

/-! ## Joining segments -/

/-- The segments, each after its length and a colon. -/
def canonicalJoin (segments : List String) : String :=
  String.join (segments.map fun segment => segment.length.repr ++ ":" ++ segment)

theorem toList_canonicalJoin (segments : List String) :
    (canonicalJoin segments).toList = (segments.map String.toList).flatMap Coding.netstring := by
  rw [canonicalJoin, String.toList_join, List.flatMap_map, List.flatMap_map]
  refine List.flatMap_congr fun segment _ => ?_
  rw [String.toList_append, String.toList_append, Nat.toList_repr, Coding.netstring,
    String.length_toList, List.append_assoc]
  rfl

/-- The join determines its segments. -/
theorem canonicalJoin_injective : Function.Injective canonicalJoin := by
  intro us vs h
  have hlist := congrArg String.toList h
  rw [toList_canonicalJoin, toList_canonicalJoin] at hlist
  exact List.map_injective_iff.2 (fun _ _ => String.toList_inj.1)
    (Coding.netstrings_injective hlist)

@[simp] theorem canonicalJoin_inj {us vs : List String} :
    canonicalJoin us = canonicalJoin vs ↔ us = vs :=
  canonicalJoin_injective.eq_iff

/-! ## Accepted coordinates -/

/-- A coordinate has to be non-empty and free of NUL; `label` is its name in errors. -/
def validateCoordinate (value label : String) : Except PyError Unit :=
  if value = "" then .error ⟨.valueError, label ++ " must be non-empty"⟩
  else if '\x00' ∈ value.toList then
    .error ⟨.valueError, label ++ " must not contain NUL characters"⟩
  else .ok ()

/-- A character of a runtime key after the first one: `[A-Za-z0-9._-]`. -/
def isRuntimeKeyChar (c : Char) : Bool := c.isAlphanum || c = '.' || c = '_' || c = '-'

/-- The pattern `[A-Za-z0-9][A-Za-z0-9._-]{0,127}\Z`. -/
def matchesRuntimeKeyPattern (value : String) : Bool :=
  match value.toList with
  | [] => false
  | c :: cs => c.isAlphanum && decide (cs.length ≤ 127) && cs.all isRuntimeKeyChar

/-- A runtime key is a coordinate of 1 to 128 ASCII characters. -/
def validateRuntimeKey (value : String) : Except PyError Unit := do
  validateCoordinate value "runtime_key"
  if matchesRuntimeKeyPattern value then return
  else throw ⟨.valueError, "runtime_key must be 1-128 ASCII letters, digits, dots, underscores, " ++
    "or hyphens, and must start with a letter or digit"⟩

/-- A value that passes `validateCoordinate`. -/
def Coordinate (value : String) : Prop := value ≠ "" ∧ '\x00' ∉ value.toList

instance (value : String) : Decidable (Coordinate value) :=
  inferInstanceAs (Decidable (value ≠ "" ∧ '\x00' ∉ value.toList))

@[simp] theorem validateCoordinate_ok_iff {value label : String} :
    validateCoordinate value label = .ok () ↔ Coordinate value := by
  unfold validateCoordinate Coordinate
  split_ifs <;> simp_all

@[simp] theorem validateRuntimeKey_ok_iff {value : String} :
    validateRuntimeKey value = .ok () ↔ Coordinate value ∧ matchesRuntimeKeyPattern value := by
  unfold validateRuntimeKey
  rw [bind_eq_ok]
  constructor
  · rintro ⟨_, hc, hm⟩
    split_ifs at hm with h
    exact ⟨validateCoordinate_ok_iff.1 hc, h⟩
  · rintro ⟨hc, hm⟩
    exact ⟨(), validateCoordinate_ok_iff.2 hc, by rw [if_pos hm]; rfl⟩

/-! ## Document identities -/

section

variable [Platform]

/-- The external key in NFC; an empty one and one with a NUL is rejected. -/
def normalizeExternalKey (key : String) : Except PyError String :=
  if key = "" then .error ⟨.valueError, "external key must be a non-empty string"⟩
  else if '\x00' ∈ key.toList then
    .error ⟨.valueError, "external key must not contain NUL characters"⟩
  else .ok (Platform.nfc key)

@[simp] theorem normalizeExternalKey_ok_iff {key k : String} :
    normalizeExternalKey key = .ok k ↔ Coordinate key ∧ Platform.nfc key = k := by
  unfold normalizeExternalKey Coordinate
  split_ifs <;> simp_all

/-- `uuid5(NAMESPACE_DNS, "cogindex")`. -/
def COGINDEX_NAMESPACE : UUID := Platform.uuid5 Platform.namespaceDns "cogindex"

/-- The stable `data_id` of a document. -/
def documentDataId (runtimeKey identityScope tenant datasetName externalKey : String) :
    Except PyError UUID := do
  validateRuntimeKey runtimeKey
  validateCoordinate identityScope "identity_scope"
  validateCoordinate tenant "tenant"
  validateCoordinate datasetName "dataset_name"
  let key ← normalizeExternalKey externalKey
  return Platform.uuid5 COGINDEX_NAMESPACE (canonicalJoin
    [IDENTITY_SCHEMA_VERSION.repr, runtimeKey, identityScope, tenant, datasetName, key])

/-- The coordinates that `documentDataId` accepts. -/
structure Accepted (runtimeKey identityScope tenant datasetName externalKey : String) : Prop where
  runtimeKey : Coordinate runtimeKey ∧ matchesRuntimeKeyPattern runtimeKey
  identityScope : Coordinate identityScope
  tenant : Coordinate tenant
  datasetName : Coordinate datasetName
  externalKey : Coordinate externalKey

theorem documentDataId_ok_iff {runtimeKey identityScope tenant datasetName externalKey : String}
    {i : UUID} : documentDataId runtimeKey identityScope tenant datasetName externalKey = .ok i ↔
      Accepted runtimeKey identityScope tenant datasetName externalKey ∧
        Platform.uuid5 COGINDEX_NAMESPACE (canonicalJoin [IDENTITY_SCHEMA_VERSION.repr, runtimeKey,
          identityScope, tenant, datasetName, Platform.nfc externalKey]) = i := by
  unfold documentDataId
  simp only [bind_eq_ok, pure_eq_ok, normalizeExternalKey_ok_iff]
  constructor
  · rintro ⟨_, hr, _, hs, _, ht, _, hn, k, ⟨hk, rfl⟩, rfl⟩
    exact ⟨⟨validateRuntimeKey_ok_iff.1 hr, validateCoordinate_ok_iff.1 hs,
      validateCoordinate_ok_iff.1 ht, validateCoordinate_ok_iff.1 hn, hk⟩, rfl⟩
  · rintro ⟨⟨hr, hs, ht, hn, hk⟩, rfl⟩
    exact ⟨(), validateRuntimeKey_ok_iff.2 hr, (), validateCoordinate_ok_iff.2 hs, (),
      validateCoordinate_ok_iff.2 ht, (), validateCoordinate_ok_iff.2 hn, _, ⟨hk, rfl⟩, rfl⟩

/-- Without collisions of UUIDs, a `data_id` names the coordinates of one document. -/
theorem documentDataId_inj (huuid : Uuid5CollisionFree)
    {runtimeKey identityScope tenant datasetName externalKey runtimeKey' identityScope' tenant'
      datasetName' externalKey' : String} {i : UUID}
    (h : documentDataId runtimeKey identityScope tenant datasetName externalKey = .ok i)
    (h' : documentDataId runtimeKey' identityScope' tenant' datasetName' externalKey' = .ok i) :
    runtimeKey = runtimeKey' ∧ identityScope = identityScope' ∧ tenant = tenant' ∧
      datasetName = datasetName' ∧ Platform.nfc externalKey = Platform.nfc externalKey' := by
  obtain ⟨-, hi⟩ := documentDataId_ok_iff.1 h
  obtain ⟨-, hi'⟩ := documentDataId_ok_iff.1 h'
  simpa using canonicalJoin_injective (huuid _ (hi.trans hi'.symm))

/-! ## Document keys -/

/-- An external key in NFC, as `declare_document` hands it to the engine. -/
structure DocumentKey where
  text : String
  normalized : normalizeExternalKey text = .ok text

namespace DocumentKey

theorem text_injective : Function.Injective text := by
  rintro ⟨s, _⟩ ⟨t, _⟩ rfl
  rfl

/-- The engine goes through the keys in the order of their texts. -/
instance : LinearOrder DocumentKey := LinearOrder.lift' text text_injective

instance : Std.TransOrd DocumentKey := inferInstance

theorem nfc_text (k : DocumentKey) : Platform.nfc k.text = k.text :=
  (normalizeExternalKey_ok_iff.1 k.normalized).2

theorem coordinate (k : DocumentKey) : Coordinate k.text :=
  (normalizeExternalKey_ok_iff.1 k.normalized).1

/-- The key that a declaration under an accepted external key goes to. -/
def ofExternalKey (hnfc : NfcLaws) {key k : String} (h : normalizeExternalKey key = .ok k) :
    DocumentKey where
  text := k
  normalized := by
    obtain ⟨hk, rfl⟩ := normalizeExternalKey_ok_iff.1 h
    exact normalizeExternalKey_ok_iff.2
      ⟨⟨hnfc.ne_empty _ hk.1, hnfc.no_nul _ hk.2⟩, hnfc.idempotent _⟩

end DocumentKey

end

end Cogindex
