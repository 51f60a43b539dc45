import Cogindex.Identity

/-!
# Fingerprints

Contents and JSON-like values are fingerprinted with BLAKE2b, the latter
through their canonical JSON text: compact, ASCII, the keys of objects sorted.

* `fingerprintContent_inj`: a fingerprint determines the content and its type;
* `JsonEq`: equality as JSON values at every depth, where the order of the
  entries of an object and the difference between tuples and lists do not
  matter, but the type of a number does;
* `fingerprintJson_eq_iff`: two accepted values have the same fingerprint
  exactly when they are equal as JSON values.
-/

namespace Cogindex

/-- The UTF-8 encoding of a text. -/
def utf8 (s : String) : List UInt8 := s.toUTF8.data.toList

theorem utf8_injective : Function.Injective utf8 := by
  intro s t h
  have hdata : s.toUTF8.data = t.toUTF8.data := Array.toList_inj.1 h
  exact String.toByteArray_inj.1 (ByteArray.ext hdata)

/-! ## Equality as JSON values -/

/-- The text of a key, and nothing for a key that is no string. -/
def PyKey.text : PyKey → String
  | .str s => s
  | .other _ => ""

/-- The text of a key that is a string. -/
def PyKey.str? : PyKey → Option String
  | .str s => some s
  | .other _ => none

/-- Values of Python: the keys of a mapping are distinct. -/
inductive PyValue.WellFormed {F : Type} : PyValue F → Prop
  | none : WellFormed .none
  | bool (b : Bool) : WellFormed (.bool b)
  | int (i : ℤ) : WellFormed (.int i)
  | float (x : F) : WellFormed (.float x)
  | str (s : String) : WellFormed (.str s)
  | bytes (b : List UInt8) : WellFormed (.bytes b)
  | other (t : String) : WellFormed (.other t)
  | list {xs : List (PyValue F)} : (∀ x ∈ xs, WellFormed x) → WellFormed (.list xs)
  | tuple {xs : List (PyValue F)} : (∀ x ∈ xs, WellFormed x) → WellFormed (.tuple xs)
  | dict {es : List (PyKey × PyValue F)} : (es.filterMap fun e => e.1.str?).Nodup →
    (∀ e ∈ es, WellFormed e.2) → WellFormed (.dict es)

/-- The items of a list or a tuple. -/
def PyValue.items {F : Type} : PyValue F → Option (List (PyValue F))
  | .list xs => some xs
  | .tuple xs => some xs
  | _ => Option.none

/-- Equality as JSON values. -/
inductive JsonEq {F : Type} : PyValue F → PyValue F → Prop
  | null : JsonEq .none .none
  | bool (b : Bool) : JsonEq (.bool b) (.bool b)
  | int (i : ℤ) : JsonEq (.int i) (.int i)
  | float (x : F) : JsonEq (.float x) (.float x)
  | str (s : String) : JsonEq (.str s) (.str s)
  /-- A list or a tuple, with equal items. -/
  | array {v w : PyValue F} {xs ys : List (PyValue F)} : v.items = some xs → w.items = some ys →
    xs.length = ys.length → (∀ (n : ℕ) x y, xs[n]? = some x → ys[n]? = some y → JsonEq x y) →
      JsonEq v w
  /-- The same keys, with equal values under each of them. -/
  | object {es fs : List (PyKey × PyValue F)} :
    (∀ k, k ∈ es.map Prod.fst ↔ k ∈ fs.map Prod.fst) →
      (∀ k x y, (k, x) ∈ es → (k, y) ∈ fs → JsonEq x y) → JsonEq (.dict es) (.dict fs)

theorem PyValue.WellFormed.items {F : Type} {v : PyValue F} (h : v.WellFormed)
    {xs : List (PyValue F)} (hv : v.items = some xs) : ∀ x ∈ xs, x.WellFormed := by
  cases h with
  | list hxs => exact Option.some.inj hv ▸ hxs
  | tuple hxs => exact Option.some.inj hv ▸ hxs
  | _ => cases hv

theorem PyValue.sizeOf_item_lt {F : Type} {v : PyValue F} {xs : List (PyValue F)}
    (hv : v.items = some xs) {x : PyValue F} (hx : x ∈ xs) : sizeOf x < sizeOf v := by
  have hlt := List.sizeOf_lt_of_mem hx
  cases v with
  | list ys =>
    cases hv
    exact hlt.trans (by simp)
  | tuple ys =>
    cases hv
    exact hlt.trans (by simp)
  | _ => cases hv

theorem PyValue.sizeOf_entry_lt {F : Type} {es : List (PyKey × PyValue F)} {k : PyKey}
    {x : PyValue F} (hx : (k, x) ∈ es) : sizeOf x < sizeOf (PyValue.dict es) := by
  have hlt := List.sizeOf_lt_of_mem hx
  simp only [Prod.mk.sizeOf_spec, dict.sizeOf_spec] at hlt ⊢
  omega

section

variable [Platform]

/-! ## Contents -/

/-- The content of a document: a text or bytes. -/
inductive Content
  | str (s : String)
  | bytes (b : List UInt8)
  deriving DecidableEq

/-- The fingerprint of a content: a letter for its type and NUL come first. -/
def fingerprintContent : Content → String
  | .str s => Platform.blake2b (0x73 :: 0x00 :: utf8 s)
  | .bytes b => Platform.blake2b (0x62 :: 0x00 :: b)

/-- A fingerprint determines the content and its type. -/
theorem fingerprintContent_inj (hblake : Blake2bCollisionFree) {c c' : Content} :
    fingerprintContent c = fingerprintContent c' ↔ c = c' := by
  refine ⟨fun h => ?_, congrArg _⟩
  cases c <;> cases c' <;> replace h := hblake h <;>
    simp only [List.cons.injEq, true_and] at h
  · rw [utf8_injective h]
  · exact absurd h.1 (by decide)
  · exact absurd h.1 (by decide)
  · rw [h]

/-! ## Canonical JSON -/

/-- The numbers of the JSON that is written: integers and finite floats. -/
abbrev JsonNumber : Type := ℤ ⊕ {x : PyFloat // Platform.floatIsFinite x = true}

/-- The text of a number: its `repr`. -/
def JsonNumber.text : JsonNumber → List Char
  | .inl i => i.repr.toList
  | .inr x => (Platform.floatRepr x.1).toList

/-- `sys.get_int_max_str_digits()`. -/
def intMaxStrDigits : ℕ := 4300

/-- An integer that is not too large for `str`. -/
def HasText (i : ℤ) : Prop := (Nat.toDigits 10 i.natAbs).length ≤ intMaxStrDigits

instance (i : ℤ) : Decidable (HasText i) := inferInstanceAs (Decidable (_ ≤ _))

mutual

/-- Mapping keys that are no strings are rejected, at every depth. -/
def validateJsonObjectKeys : PyValue PyFloat → Except PyError Unit
  | .list xs => validateJsonItems xs
  | .tuple xs => validateJsonItems xs
  | .dict es => validateJsonEntries es
  | _ => .ok ()

/-- The items of a list or a tuple. -/
def validateJsonItems : List (PyValue PyFloat) → Except PyError Unit
  | [] => .ok ()
  | x :: xs => do
    validateJsonObjectKeys x
    validateJsonItems xs

/-- The items of a mapping. -/
def validateJsonEntries : List (PyKey × PyValue PyFloat) → Except PyError Unit
  | [] => .ok ()
  | (.str _, x) :: es => do
    validateJsonObjectKeys x
    validateJsonEntries es
  | (.other _, _) :: _ => .error ⟨.typeError, "JSON object keys must be strings"⟩

end

/-- The entries of an object, once all of its values could be converted. -/
def sequenceEntries : List (String × Except PyError (Json.Value JsonNumber)) →
    Except PyError (List (String × Json.Value JsonNumber))
  | [] => .ok []
  | (k, x) :: es => do
    let v ← x
    let vs ← sequenceEntries es
    return (k, v) :: vs

mutual

/-- The JSON value that `json.dumps` writes: tuples as lists, the entries of
    mappings sorted by their keys, no infinite floats and no NaNs, and no integers
    that are too large. -/
def toJson : PyValue PyFloat → Except PyError (Json.Value JsonNumber)
  | .none => .ok .null
  | .bool b => .ok (.bool b)
  | .int i =>
    if HasText i then .ok (.num (.inl i))
    else .error ⟨.valueError, "Exceeds the limit (4300 digits) for integer string conversion; " ++
      "use sys.set_int_max_str_digits() to increase the limit"⟩
  | .float x =>
    if h : Platform.floatIsFinite x = true then .ok (.num (.inr ⟨x, h⟩))
    else .error ⟨.valueError, "Out of range float values are not JSON compliant"⟩
  | .str s => .ok (.str s)
  | .bytes _ => .error ⟨.typeError, "Object of type bytes is not JSON serializable"⟩
  | .other t => .error ⟨.typeError, "Object of type " ++ t ++ " is not JSON serializable"⟩
  | .list xs => do return .arr (← itemsToJson xs)
  | .tuple xs => do return .arr (← itemsToJson xs)
  | .dict es => do
    return .obj (← sequenceEntries ((entriesToJson es).insertionSort fun e f => e.1 ≤ f.1))

/-- The items of a list or a tuple. -/
def itemsToJson : List (PyValue PyFloat) → Except PyError (List (Json.Value JsonNumber))
  | [] => .ok []
  | x :: xs => do
    let v ← toJson x
    let vs ← itemsToJson xs
    return v :: vs

/-- The entries of a mapping, in its order. -/
def entriesToJson :
    List (PyKey × PyValue PyFloat) → List (String × Except PyError (Json.Value JsonNumber))
  | [] => []
  | (.str k, x) :: es => (k, toJson x) :: entriesToJson es
  | (.other _, _) :: es =>
    ("", .error ⟨.typeError, "JSON object keys must be strings"⟩) :: entriesToJson es

end

/-- The fingerprint of a JSON-serializable value. -/
def fingerprintJson (obj : PyValue PyFloat) : Except PyError String := do
  validateJsonObjectKeys obj
  let canonical ← toJson obj
  return Platform.blake2b (utf8 (String.ofList (Json.write JsonNumber.text canonical)))

/-! ## What is written -/

/-- An entry of a mapping and the entry it is written as. -/
def WritesEntry (e : PyKey × PyValue PyFloat) (p : String × Json.Value JsonNumber) : Prop :=
  e.1 = .str p.1 ∧ toJson e.2 = .ok p.2

/-- Entries of mappings are sorted by their keys. -/
def entryLE (e f : PyKey × PyValue PyFloat) : Prop := e.1.text ≤ f.1.text

instance : DecidableRel entryLE := fun e f => inferInstanceAs (Decidable (e.1.text ≤ f.1.text))

theorem itemsToJson_ok_iff {xs : List (PyValue PyFloat)} {js : List (Json.Value JsonNumber)} :
    itemsToJson xs = .ok js ↔ List.Forall₂ (fun x j => toJson x = .ok j) xs js := by
  induction xs generalizing js with
  | nil => simp [itemsToJson, eq_comm]
  | cons x xs ih =>
    simp only [itemsToJson, bind_eq_ok, pure_eq_ok, ih, List.forall₂_cons_left_iff]
    constructor
    · rintro ⟨j, hj, js, hjs, rfl⟩
      exact ⟨j, js, hj, hjs, rfl⟩
    · rintro ⟨j, js, hj, hjs, rfl⟩
      exact ⟨j, hj, js, hjs, rfl⟩

theorem sequenceEntries_ok_iff {es : List (String × Except PyError (Json.Value JsonNumber))}
    {js : List (String × Json.Value JsonNumber)} :
    sequenceEntries es = .ok js ↔ List.Forall₂ (fun e p => e = (p.1, .ok p.2)) es js := by
  induction es generalizing js with
  | nil => simp [sequenceEntries, eq_comm]
  | cons e es ih =>
    obtain ⟨k, x⟩ := e
    simp only [sequenceEntries, bind_eq_ok, pure_eq_ok, ih, List.forall₂_cons_left_iff,
      Prod.mk.injEq]
    constructor
    · rintro ⟨v, hv, vs, hvs, rfl⟩
      exact ⟨(k, v), vs, ⟨rfl, hv⟩, hvs, rfl⟩
    · rintro ⟨⟨k, v⟩, vs, ⟨rfl, hv⟩, hvs, rfl⟩
      exact ⟨v, hv, vs, hvs, rfl⟩

/-- The entry that an entry is converted to. -/
def entryToJson (e : PyKey × PyValue PyFloat) : String × Except PyError (Json.Value JsonNumber) :=
  match e.1 with
  | .str k => (k, toJson e.2)
  | .other _ => ("", .error ⟨.typeError, "JSON object keys must be strings"⟩)

theorem entriesToJson_eq_map (es : List (PyKey × PyValue PyFloat)) :
    entriesToJson es = es.map entryToJson := by
  induction es with
  | nil => rfl
  | cons e es ih =>
    obtain ⟨k | t, x⟩ := e <;> rw [entriesToJson, ih] <;> rfl

theorem entryToJson_fst (e : PyKey × PyValue PyFloat) : (entryToJson e).1 = e.1.text := by
  obtain ⟨k | t, x⟩ := e <;> rfl

theorem entryToJson_eq_iff {e : PyKey × PyValue PyFloat} {p : String × Json.Value JsonNumber} :
    entryToJson e = (p.1, .ok p.2) ↔ WritesEntry e p := by
  obtain ⟨k | t, x⟩ := e <;> simp [entryToJson, WritesEntry]

/-- A mapping is written as the object of its sorted entries. -/
theorem toJson_dict_ok_iff {es : List (PyKey × PyValue PyFloat)} {j : Json.Value JsonNumber} :
    toJson (.dict es) = .ok j ↔
      ∃ js, List.Forall₂ WritesEntry (es.insertionSort entryLE) js ∧ .obj js = j := by
  have hsort : (entriesToJson es).insertionSort (fun e f => e.1 ≤ f.1) =
      (es.insertionSort entryLE).map entryToJson := by
    rw [entriesToJson_eq_map]
    refine (List.map_insertionSort entryLE _ entryToJson es fun a _ b _ => ?_).symm
    simp only [entryLE, entryToJson_fst]
  rw [toJson, hsort]
  simp only [bind_eq_ok, pure_eq_ok, sequenceEntries_ok_iff, List.forall₂_map_left_iff,
    entryToJson_eq_iff]

theorem toJson_items {v : PyValue PyFloat} {xs : List (PyValue PyFloat)} (hv : v.items = some xs)
    {j : Json.Value JsonNumber} : toJson v = .ok j ↔
      ∃ js, List.Forall₂ (fun x j => toJson x = .ok j) xs js ∧ .arr js = j := by
  cases v with
  | list ys =>
    cases hv
    simp only [toJson, bind_eq_ok, pure_eq_ok, itemsToJson_ok_iff]
  | tuple ys =>
    cases hv
    simp only [toJson, bind_eq_ok, pure_eq_ok, itemsToJson_ok_iff]
  | _ => cases hv

/-! ## Sorted entries -/

/-- The text of the key of an entry. -/
abbrev entryKey (e : PyKey × PyValue PyFloat) : String := e.1.text

/-- A mapping that is written has strings as keys. -/
theorem isStr_of_writes {es : List (PyKey × PyValue PyFloat)}
    {js : List (String × Json.Value JsonNumber)}
    (h : List.Forall₂ WritesEntry (es.insertionSort entryLE) js) :
    ∀ e ∈ es, e.1 = .str (entryKey e) := by
  have hall := (List.forall₂_and_left _ _).1 (h.imp fun e p hep =>
    (⟨by rw [entryKey, hep.1, PyKey.text], hep⟩ : e.1 = .str (entryKey e) ∧ WritesEntry e p))
  exact fun e he => hall.1 e ((List.mem_insertionSort _).2 he)

theorem keys_nodup {es : List (PyKey × PyValue PyFloat)}
    (hstr : ∀ e ∈ es, e.1 = .str (entryKey e)) (h : (es.filterMap fun e => e.1.str?).Nodup) :
    (es.map entryKey).Nodup := by
  rw [← List.filterMap_eq_map]
  rwa [List.filterMap_congr fun e he => ?_] at h
  rw [hstr e he]
  rfl

/-- Mappings with the same keys have the same sorted keys. -/
theorem sorted_keys_eq {es fs : List (PyKey × PyValue PyFloat)} (hes : (es.map entryKey).Nodup)
    (hfs : (fs.map entryKey).Nodup) (h : ∀ k, k ∈ es.map entryKey ↔ k ∈ fs.map entryKey) :
    (es.insertionSort entryLE).map entryKey = (fs.insertionSort entryLE).map entryKey := by
  have hsorted : ∀ l : List (PyKey × PyValue PyFloat),
      ((l.insertionSort entryLE).map entryKey).Pairwise (· ≤ ·) := fun l => by
    have htotal : Std.Total entryLE := ⟨fun e f => le_total e.1.text f.1.text⟩
    have htrans : IsTrans _ entryLE := ⟨fun _ _ _ => le_trans (α := String)⟩
    exact List.pairwise_map.2 (List.pairwise_insertionSort entryLE l)
  refine List.Perm.eq_of_pairwise' (hsorted es) (hsorted fs) ?_
  exact ((List.perm_insertionSort entryLE es).map _).trans
    (((List.perm_ext_iff_of_nodup hes hfs).2 h).trans
      ((List.perm_insertionSort entryLE fs).map _).symm)

/-! ## Fingerprints of values -/

/-- Equal values are written as the same JSON. -/
theorem JsonEq.toJson_eq {v w : PyValue PyFloat} (h : JsonEq v w) (hv : v.WellFormed)
    (hw : w.WellFormed) {j : Json.Value JsonNumber} (hj : toJson v = .ok j) : toJson w = .ok j := by
  induction h generalizing j with
  | array hvx hwy hlen _ ih =>
    rw [toJson_items hvx] at hj
    obtain ⟨js, hjs, rfl⟩ := hj
    refine (toJson_items hwy).2 ⟨js, ?_, rfl⟩
    rw [List.forall₂_iff_get] at hjs ⊢
    refine ⟨hlen ▸ hjs.1, fun n hy hn => ?_⟩
    have hx := hlen ▸ hy
    exact ih n _ _ (List.getElem?_eq_getElem hx) (List.getElem?_eq_getElem hy)
      (hv.items hvx _ (List.get_mem _ _)) (hw.items hwy _ (List.get_mem _ _)) (hjs.2 n hx hn)
  | @object es fs hk _ ih =>
    obtain ⟨js, hjs, rfl⟩ := toJson_dict_ok_iff.1 hj
    cases hv with | dict hes hes' =>
    cases hw with | dict hfs hfs' =>
    have hstr := isStr_of_writes hjs
    have hstr' : ∀ f ∈ fs, f.1 = .str (entryKey f) := fun f hf => by
      obtain ⟨e, he, hef⟩ := List.mem_map.1 ((hk f.1).2 (List.mem_map_of_mem hf))
      rw [entryKey, ← hef]
      exact hstr e he
    have hkeys := sorted_keys_eq (keys_nodup hstr hes) (keys_nodup hstr' hfs) fun k => by
      have htext : ∀ l : List (PyKey × PyValue PyFloat),
          l.map entryKey = (l.map Prod.fst).map PyKey.text := fun l => by rw [List.map_map]; rfl
      rw [htext, htext, List.mem_map, List.mem_map]
      exact exists_congr fun x => and_congr_left' (hk x)
    refine toJson_dict_ok_iff.2 ⟨js, ?_, rfl⟩
    rw [List.forall₂_iff_get] at hjs ⊢
    have hlen : (fs.insertionSort entryLE).length = (es.insertionSort entryLE).length := by
      simpa using (congrArg List.length hkeys).symm
    refine ⟨hlen.trans hjs.1, fun n hn hn' => ?_⟩
    obtain ⟨hkey, hval⟩ := hjs.2 n (hlen ▸ hn) hn'
    -- The entries at `n` have the same key, so that their values are equal.
    have he := (List.mem_insertionSort entryLE).1
      (List.get_mem (es.insertionSort entryLE) ⟨n, hlen ▸ hn⟩)
    have hf := (List.mem_insertionSort entryLE).1 (List.get_mem (fs.insertionSort entryLE) ⟨n, hn⟩)
    have hsame : ((fs.insertionSort entryLE).get ⟨n, hn⟩).1 =
        ((es.insertionSort entryLE).get ⟨n, hlen ▸ hn⟩).1 := by
      rw [hstr' _ hf, hstr _ he]
      have := congrArg (fun l => l[n]?) hkeys
      simp only [List.getElem?_map, List.getElem?_eq_getElem hn,
        List.getElem?_eq_getElem (hlen ▸ hn : n < (es.insertionSort entryLE).length),
        Option.map_some, Option.some.injEq] at this
      exact congrArg PyKey.str this.symm
    refine ⟨hsame.trans hkey, ih _ _ _ he ?_ (hes' _ he) (hfs' _ hf) hval⟩
    rw [← hsame]
    exact hf
  | _ => exact hj

/-- What an object is written from: the entries with its keys. -/
theorem mem_writes {es : List (PyKey × PyValue PyFloat)}
    {js : List (String × Json.Value JsonNumber)}
    (h : List.Forall₂ WritesEntry (es.insertionSort entryLE) js) :
    (∀ e ∈ es, ∃ p ∈ js, WritesEntry e p) ∧ ∀ p ∈ js, ∃ e ∈ es, WritesEntry e p := by
  rw [List.forall₂_iff_get] at h
  constructor
  · intro e he
    obtain ⟨n, rfl⟩ := List.mem_iff_get.1 ((List.mem_insertionSort entryLE).2 he)
    have hn : n < js.length := n.2.trans_eq h.1
    exact ⟨_, List.get_mem js ⟨n, hn⟩, h.2 n n.2 hn⟩
  · intro p hp
    obtain ⟨n, rfl⟩ := List.mem_iff_get.1 hp
    have hn : n < (es.insertionSort entryLE).length := n.2.trans_eq h.1.symm
    exact ⟨_, (List.mem_insertionSort entryLE).1 (List.get_mem _ ⟨n, hn⟩), h.2 n hn n.2⟩

/-- The keys of an object that is written are distinct. -/
theorem writes_keys_nodup {es : List (PyKey × PyValue PyFloat)}
    {js : List (String × Json.Value JsonNumber)}
    (h : List.Forall₂ WritesEntry (es.insertionSort entryLE) js)
    (hes : (es.filterMap fun e => e.1.str?).Nodup) : (js.map Prod.fst).Nodup := by
  have hkeys : List.Forall₂ (fun e p => entryKey e = p.1) (es.insertionSort entryLE) js :=
    h.imp fun e p hep => by rw [entryKey, hep.1, PyKey.text]
  have heq : (es.insertionSort entryLE).map entryKey = js.map Prod.fst :=
    List.forall₂_eq_eq_eq ▸ List.forall₂_map_left_iff.2 (List.forall₂_map_right_iff.2 hkeys)
  rw [← heq, ((List.perm_insertionSort entryLE es).map entryKey).nodup_iff]
  exact keys_nodup (isStr_of_writes h) hes

/-- What a JSON value is written from. -/
theorem toJson_inv {v : PyValue PyFloat} {j : Json.Value JsonNumber} (h : toJson v = .ok j) :
    match j with
    | .null => v = .none
    | .bool b => v = .bool b
    | .num (.inl i) => v = .int i
    | .num (.inr x) => v = .float x.1
    | .str s => v = .str s
    | .arr js => ∃ xs, v.items = some xs ∧ List.Forall₂ (fun x j => toJson x = .ok j) xs js
    | .obj js => ∃ es, v = .dict es ∧ List.Forall₂ WritesEntry (es.insertionSort entryLE) js := by
  cases v with
  | list xs =>
    obtain ⟨js, hjs, rfl⟩ := (toJson_items rfl).1 h
    exact ⟨xs, rfl, hjs⟩
  | tuple xs =>
    obtain ⟨js, hjs, rfl⟩ := (toJson_items rfl).1 h
    exact ⟨xs, rfl, hjs⟩
  | dict es =>
    obtain ⟨js, hjs, rfl⟩ := toJson_dict_ok_iff.1 h
    exact ⟨es, rfl, hjs⟩
  | int i =>
    rw [toJson] at h
    split_ifs at h with hi
    cases h
    rfl
  | float x =>
    rw [toJson] at h
    split_ifs at h with hx
    cases h
    rfl
  | bytes b => cases h
  | other t => cases h
  | _ =>
    cases h
    rfl

/-- Values that are written as the same JSON are equal. -/
theorem jsonEq_of_toJson_eq (v w : PyValue PyFloat) {j : Json.Value JsonNumber} (hv : v.WellFormed)
    (hj : toJson v = .ok j) (hw : toJson w = .ok j) : JsonEq v w := by
  have hv' := toJson_inv hj
  have hw' := toJson_inv hw
  cases j with
  | null => exact hv' ▸ hw' ▸ .null
  | bool b => exact hv' ▸ hw' ▸ .bool b
  | str s => exact hv' ▸ hw' ▸ .str s
  | num n =>
    cases n with
    | inl i => exact hv' ▸ hw' ▸ .int i
    | inr x => exact hv' ▸ hw' ▸ .float x.1
  | arr js =>
    obtain ⟨xs, hvx, hxs⟩ := hv'
    obtain ⟨ys, hwy, hys⟩ := hw'
    rw [List.forall₂_iff_get] at hxs hys
    refine .array hvx hwy (hxs.1.trans hys.1.symm) fun n x y hx hy => ?_
    obtain ⟨hn, rfl⟩ := List.getElem?_eq_some_iff.1 hx
    obtain ⟨hn', rfl⟩ := List.getElem?_eq_some_iff.1 hy
    have hlt := PyValue.sizeOf_item_lt hvx (List.getElem_mem hn)
    exact jsonEq_of_toJson_eq _ _ (hv.items hvx _ (List.getElem_mem hn))
      (hxs.2 n hn (hxs.1 ▸ hn)) (hys.2 n hn' (hxs.1 ▸ hn))
  | obj js =>
    obtain ⟨es, rfl, hes⟩ := hv'
    obtain ⟨fs, rfl, hfs⟩ := hw'
    cases hv with | dict hnodup hwf =>
    have hsub : ∀ {es fs : List (PyKey × PyValue PyFloat)},
        List.Forall₂ WritesEntry (es.insertionSort entryLE) js →
        List.Forall₂ WritesEntry (fs.insertionSort entryLE) js →
          ∀ k ∈ es.map Prod.fst, k ∈ fs.map Prod.fst := by
      intro es fs hes hfs k hk
      obtain ⟨e, he, rfl⟩ := List.mem_map.1 hk
      obtain ⟨p, hp, hep⟩ := (mem_writes hes).1 e he
      obtain ⟨f, hf, hfp⟩ := (mem_writes hfs).2 p hp
      exact List.mem_map.2 ⟨f, hf, hfp.1.trans hep.1.symm⟩
    refine .object (fun k => ⟨hsub hes hfs k, hsub hfs hes k⟩) fun k x y hx hy => ?_
    -- Both values were written under the key `k`, which is there once.
    obtain ⟨p, hp, hkp, hxp⟩ := (mem_writes hes).1 _ hx
    obtain ⟨q, hq, hkq, hyq⟩ := (mem_writes hfs).1 _ hy
    have hpq : p = q := List.inj_on_of_nodup_map (writes_keys_nodup hes hnodup) hp hq
      (PyKey.str.inj (hkp.symm.trans hkq))
    have hlt := PyValue.sizeOf_entry_lt hx
    exact jsonEq_of_toJson_eq x y (hwf _ hx) hxp (hpq ▸ hyq)
termination_by sizeOf v

/-- The text of numbers is a format. -/
theorem jsonNumberFormat (hfloat : FloatReprLaws) : Json.NumberFormat JsonNumber.text where
  injective := by
    rintro (i | x) (k | y) h
    · exact congrArg _ (Int.repr_injective (String.toList_inj.1 h))
    -- The text of a float is that of no integer.
    · exact absurd (String.toList_inj.1 h).symm (hfloat.ne_int y.1 y.2 i)
    · exact absurd (String.toList_inj.1 h) (hfloat.ne_int x.1 x.2 k)
    · exact congrArg _ (Subtype.ext (hfloat.injective _ _ x.2 y.2 (String.toList_inj.1 h)))
  ne_nil := by
    rintro (i | x) h
    · have hne : Coding.digits i.natAbs ≠ [] := Nat.toDigits_ne_nil
      rcases Coding.toList_intRepr i with hi | hi <;> simp_all [JsonNumber.text]
    · exact hfloat.ne_empty x.1 x.2 (String.toList_inj.1 h)
  numberChar := by
    rintro (i | x) c hc
    · have hdigit : ∀ c ∈ Coding.digits i.natAbs, Json.NumberChar c := fun c hc =>
        .inl (Coding.isDigit_of_mem_digits hc)
      rw [JsonNumber.text] at hc
      rcases Coding.toList_intRepr i with hi | hi <;> rw [hi] at hc
      · exact hdigit c hc
      · rcases List.mem_cons.1 hc with rfl | hc
        · exact .inr (by decide)
        · exact hdigit c hc
    · exact hfloat.numberChar x.1 x.2 c hc

theorem fingerprintJson_ok_iff {v : PyValue PyFloat} {f : String} : fingerprintJson v = .ok f ↔
    validateJsonObjectKeys v = .ok () ∧ ∃ j, toJson v = .ok j ∧
      Platform.blake2b (utf8 (String.ofList (Json.write JsonNumber.text j))) = f := by
  simp only [fingerprintJson, bind_eq_ok, pure_eq_ok]
  exact ⟨fun ⟨_, hval, h⟩ => ⟨hval, h⟩, fun ⟨hval, h⟩ => ⟨(), hval, h⟩⟩

/-- Two accepted values have the same fingerprint exactly when they are equal
    as JSON values. -/
theorem fingerprintJson_eq_iff (hblake : Blake2bCollisionFree) (hfloat : FloatReprLaws)
    {v w : PyValue PyFloat} (hv : v.WellFormed) (hw : w.WellFormed) {f g : String}
    (hf : fingerprintJson v = .ok f) (hg : fingerprintJson w = .ok g) : f = g ↔ JsonEq v w := by
  obtain ⟨-, j, hj, rfl⟩ := fingerprintJson_ok_iff.1 hf
  obtain ⟨-, k, hk, rfl⟩ := fingerprintJson_ok_iff.1 hg
  constructor
  · intro h
    have hjk := Json.write_injective (jsonNumberFormat hfloat)
      (String.ofList_injective (utf8_injective (hblake h)))
    exact jsonEq_of_toJson_eq v w hv hj (hjk ▸ hk)
  · intro h
    rw [Except.ok.inj ((h.toJson_eq hv hw hj).symm.trans hk)]

end

end Cogindex
