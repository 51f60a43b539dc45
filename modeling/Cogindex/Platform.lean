import Cogindex.Library.Json

/-!
# What the connector is given

The parts of Python's standard library and of CocoIndex that the connector
calls and whose code is not in its repository, as one class (`Platform`):
UUIDs and `uuid.uuid5`, floats and their `repr`, `unicodedata.normalize`,
`hashlib.blake2b`, and `statediff.diff` of CocoIndex. What is assumed of them
are propositions of their own, named where a result needs them:

* digests and UUIDs do not collide (`Blake2bCollisionFree`,
  `Uuid5CollisionFree`); a `str(UUID)` is not the text `none`;
* NFC normalization is idempotent and creates no empty string and no NUL
  (`NfcLaws`);
* `str.lower` on ASCII texts (`AsciiLower`);
* the `repr` of a finite float is injective, made of the characters of
  numbers, and never an integer literal (`FloatReprLaws`);
* the audited contract of `statediff.diff` (`DiffContract`).

`Platform.sample` is a platform with all of them.
-/

namespace Cogindex

/-! ## Errors -/

/-- The exception types the connector raises or passes on. -/
inductive ErrorKind
  | typeError
  | valueError
  | overflowError
  | runtimeError
  | lockTimeoutError
  | cogneePipelineError
  | compatibilityError
  /-- `DatasetNotFoundError` of Cognee. -/
  | datasetNotFound
  /-- Any other exception of a runtime call, as the injected faults of tests. -/
  | external
  deriving DecidableEq, Repr

/-- A raised exception. -/
structure PyError where
  kind : ErrorKind
  message : String
  deriving DecidableEq, Repr

/-- A computation that may raise returns if both of its parts do. -/
theorem bind_eq_ok {α β : Type} {x : Except PyError α} {f : α → Except PyError β} {b : β} :
    x >>= f = .ok b ↔ ∃ a, x = .ok a ∧ f a = .ok b := by
  cases x <;> simp [bind, Except.bind]

@[simp] theorem ok_bind {α β : Type} {a : α} {f : α → Except PyError β} :
    (.ok a : Except PyError α) >>= f = f a := rfl

theorem pure_eq_ok {α : Type} {a b : α} : (pure a : Except PyError α) = .ok b ↔ a = b :=
  ⟨Except.ok.inj, congrArg _⟩

theorem throw_ne_ok {α : Type} {e : PyError} {a : α} : (throw e : Except PyError α) ≠ .ok a := nofun

/-- Mapping a fallible function succeeds if it does on each item. -/
theorem mapM_eq_ok_iff {α β : Type} {f : α → Except PyError β} {xs : List α} {ys : List β} :
    xs.mapM f = .ok ys ↔ List.Forall₂ (fun x y => f x = .ok y) xs ys := by
  induction xs generalizing ys with
  | nil =>
    rw [List.mapM_nil, pure_eq_ok, List.forall₂_nil_left_iff]
    exact eq_comm
  | cons x xs ih =>
    rw [List.mapM_cons, List.forall₂_cons_left_iff]
    simp only [bind_eq_ok, pure_eq_ok, ih]
    constructor
    · rintro ⟨y, hy, ys', hys, rfl⟩
      exact ⟨y, ys', hy, hys, rfl⟩
    · rintro ⟨y, ys', hy, hys, rfl⟩
      exact ⟨y, hy, ys', hys, rfl⟩

theorem map_eq_ok {α β : Type} {x : Except PyError α} {f : α → β} {b : β} :
    x.map f = .ok b ↔ ∃ a, x = .ok a ∧ f a = b := by
  cases x <;> simp [Except.map]

theorem exists_mapM_eq_ok {α β : Type} (xs : List α) (f : α → Except PyError β)
    (h : ∀ x ∈ xs, ∃ y, f x = .ok y) : ∃ ys, xs.mapM f = .ok ys := by
  simp only [mapM_eq_ok_iff]
  induction xs with
  | nil => exact ⟨[], .nil⟩
  | cons x xs ih =>
    obtain ⟨y, hy⟩ := h x List.mem_cons_self
    obtain ⟨ys, hys⟩ := ih fun x hx => h x (List.mem_cons_of_mem _ hx)
    exact ⟨y :: ys, .cons hy hys⟩

/-- What is related to the items of a list. -/
theorem exists_of_mem_forall₂ {α β : Type} {R : α → β → Prop} {xs : List α} {ys : List β}
    (h : List.Forall₂ R xs ys) {y : β} (hy : y ∈ ys) : ∃ x ∈ xs, R x y := by
  induction h with
  | nil => exact absurd hy List.not_mem_nil
  | cons hxy _ ih =>
    rcases List.mem_cons.1 hy with rfl | hy
    · exact ⟨_, List.mem_cons_self, hxy⟩
    · obtain ⟨x, hx, hxy⟩ := ih hy
      exact ⟨x, List.mem_cons_of_mem _ hx, hxy⟩

/-! ## Values -/

/-- A key of a Python dict: a string, or a key of another type. -/
inductive PyKey
  | str (s : String)
  | other (typeName : String)
  deriving DecidableEq

/-- A Python value, over the floats `F`, as far as the connector looks into it. -/
inductive PyValue (F : Type)
  | none
  | bool (b : Bool)
  | int (i : ℤ)
  | float (x : F)
  | str (s : String)
  | bytes (b : List UInt8)
  | list (xs : List (PyValue F))
  | tuple (xs : List (PyValue F))
  | dict (es : List (PyKey × PyValue F))
  | other (typeName : String)

/-- `type(value).__name__`. -/
def PyValue.typeName {F : Type} : PyValue F → String
  | .none => "NoneType"
  | .bool _ => "bool"
  | .int _ => "int"
  | .float _ => "float"
  | .str _ => "str"
  | .bytes _ => "bytes"
  | .list _ => "list"
  | .tuple _ => "tuple"
  | .dict _ => "dict"
  | .other t => t

/-- The actions of `statediff.diff`. -/
inductive DiffAction
  | insert
  | upsert
  | replace
  | delete
  deriving DecidableEq, Repr

/-! ## The platform -/

/-- What the connector calls and whose code is not in its repository. -/
class Platform where
  /-- `uuid.UUID`. -/
  UUID : Type
  /-- `str(uuid)`. -/
  uuidStr : UUID → String
  uuidStr_injective : Function.Injective uuidStr
  /-- `uuid.uuid5(namespace, name)`. -/
  uuid5 : UUID → String → UUID
  /-- `uuid.NAMESPACE_DNS`. -/
  namespaceDns : UUID
  /-- `uuid.NAMESPACE_OID`. -/
  namespaceOid : UUID
  /-- `float`, infinities and NaNs included; `0.0` and `-0.0` are different. -/
  PyFloat : Type
  /-- `repr(x)`. -/
  floatRepr : PyFloat → String
  /-- `math.isfinite(x)`. -/
  floatIsFinite : PyFloat → Bool
  /-- `x == y`, for which `0.0` and `-0.0` are the same. -/
  floatEq : PyFloat → PyFloat → Bool
  /-- `float(i)`, which overflows on too large integers. -/
  floatOfInt : ℤ → Option PyFloat
  /-- Class objects, as graph models and chunkers. -/
  PyType : Type
  pyTypeDecEq : DecidableEq PyType
  /-- `repr(s)`. -/
  strRepr : String → String
  /-- `unicodedata.normalize("NFC", s)`. -/
  nfc : String → String
  /-- `s.lower()`. -/
  lower : String → String
  /-- `hashlib.blake2b(data, digest_size=16).hexdigest()`. -/
  blake2b : List UInt8 → String
  /-- `statediff.diff`, of the desired record (`none` for `NON_EXISTENCE`), the
      possible previous records, and whether they may be missing. -/
  diff : {R : Type} → [DecidableEq R] → Option R → List R → Bool → Option DiffAction

/-- `uuid.UUID`. -/
abbrev UUID [Platform] : Type := Platform.UUID

/-- `float`. -/
abbrev PyFloat [Platform] : Type := Platform.PyFloat

/-- `type`. -/
abbrev PyType [Platform] : Type := Platform.PyType

instance [Platform] : DecidableEq PyType := Platform.pyTypeDecEq

/-- UUIDs are sorted with `key=str`. -/
instance [Platform] : LinearOrder UUID :=
  LinearOrder.lift' Platform.uuidStr Platform.uuidStr_injective

instance [Platform] : Std.TransOrd UUID := inferInstance

/-! ## Assumptions -/

section Assumptions

variable [Platform]

/-- BLAKE2b digests do not collide. -/
def Blake2bCollisionFree : Prop := Function.Injective Platform.blake2b

/-- Version 5 UUIDs of one namespace do not collide. -/
def Uuid5CollisionFree : Prop := ∀ ns, Function.Injective (Platform.uuid5 ns)

/-- The text of a UUID is not the word `none`. -/
def UuidTextIsNotNone : Prop := ∀ u : UUID, Platform.uuidStr u ≠ "none"

/-- NFC normalization is idempotent, keeps strings non-empty, and creates no NUL. -/
structure NfcLaws : Prop where
  idempotent : ∀ s, Platform.nfc (Platform.nfc s) = Platform.nfc s
  ne_empty : ∀ s, s ≠ "" → Platform.nfc s ≠ ""
  no_nul : ∀ s, '\x00' ∉ s.toList → '\x00' ∉ (Platform.nfc s).toList

/-- The `repr` of finite floats. -/
structure FloatReprLaws : Prop where
  injective : ∀ x y : PyFloat, Platform.floatIsFinite x = true → Platform.floatIsFinite y = true →
    Platform.floatRepr x = Platform.floatRepr y → x = y
  ne_empty : ∀ x : PyFloat, Platform.floatIsFinite x = true → Platform.floatRepr x ≠ ""
  numberChar : ∀ x : PyFloat, Platform.floatIsFinite x = true →
    ∀ c ∈ (Platform.floatRepr x).toList, Json.NumberChar c
  ne_int : ∀ x : PyFloat, Platform.floatIsFinite x = true → ∀ i : ℤ, Platform.floatRepr x ≠ i.repr

/-- ASCII texts are lowercased letter by letter. -/
def AsciiLower : Prop := ∀ s : String, (∀ c ∈ s.toList, c.toNat < 128) →
  Platform.lower s = String.ofList (s.toList.map Char.toLower)

/-- Equality of floats is symmetric. -/
def FloatEqSymmetric : Prop := ∀ x y : PyFloat, Platform.floatEq x y = Platform.floatEq y x

/-- The contract of `statediff.diff` for a record to exist. -/
structure DiffContract : Prop where
  /-- Nothing to do: the state cannot be missing and every possible record is
      the desired one. -/
  none_iff : ∀ {R : Type} [DecidableEq R] (d : R) (prev : List R) (missing : Bool),
    Platform.diff (some d) prev missing = none ↔ missing = false ∧ ∀ r ∈ prev, r = d
  /-- No record, and the state may be missing. -/
  insert : ∀ {R : Type} [DecidableEq R] (d : R),
    Platform.diff (some d) [] true = some .insert
  /-- The state exists, and a possible record differs. -/
  replace : ∀ {R : Type} [DecidableEq R] (d : R) (prev : List R), (∃ r ∈ prev, r ≠ d) →
    Platform.diff (some d) prev false = some .replace
  /-- A recorded state that may be missing. -/
  uncertain : ∀ {R : Type} [DecidableEq R] (d : R) (prev : List R), prev ≠ [] →
    Platform.diff (some d) prev true = some .upsert ∨
      Platform.diff (some d) prev true = some .replace

end Assumptions

/-! ## A sample platform -/

namespace Platform

/-- Tenths as floats: the `repr` of `n / 10`. -/
def tenthsRepr (n : ℕ) : String := (n / 10).repr ++ "." ++ (n % 10).repr

/-- The contract of `statediff.diff`, as a function. -/
def sampleDiff {R : Type} [DecidableEq R] : Option R → List R → Bool → Option DiffAction
  | none, prev, _ => if prev = [] then none else some .delete
  | some d, prev, missing =>
    if missing = false ∧ ∀ r ∈ prev, r = d then none
    else if prev = [] then some .insert
    else if ∀ r ∈ prev, r = d then some .upsert
    else some .replace

/-- A platform without collisions, whose floats are tenths. Its UUIDs are the
    names they are derived from. -/
abbrev sample : Platform where
  UUID := String
  uuidStr u := "uuid:" ++ u
  uuidStr_injective u v h := by simpa using h
  uuid5 _ name := name
  namespaceDns := "dns"
  namespaceOid := "oid"
  PyFloat := ℕ
  floatRepr := tenthsRepr
  floatIsFinite _ := true
  floatEq x y := decide (x = y)
  floatOfInt i := if 0 ≤ i then some (10 * i.toNat) else none
  PyType := String
  pyTypeDecEq := inferInstance
  strRepr s := "'" ++ s ++ "'"
  nfc s := s
  lower s := String.ofList (s.toList.map Char.toLower)
  blake2b data := String.ofList (data.map fun b => Char.ofNat b.toNat)
  diff := sampleDiff

theorem sample_blake2b : @Blake2bCollisionFree sample := by
  intro a b h
  have hb : Function.Injective fun b : UInt8 => Char.ofNat b.toNat := by
    intro x y hxy
    have hx : x.toNat.isValidChar := .inl (x.toNat_lt.trans (by decide))
    have hy : y.toNat.isValidChar := .inl (y.toNat_lt.trans (by decide))
    have := congrArg Char.toNat hxy
    rw [Char.toNat_ofNat, Char.toNat_ofNat, if_pos hx, if_pos hy] at this
    exact UInt8.toNat_inj.1 this
  exact List.map_injective_iff.2 hb (String.ofList_injective h)

theorem sample_uuid5 : @Uuid5CollisionFree sample := fun _ _ _ h => h

theorem sample_uuidText : @UuidTextIsNotNone sample := by
  intro u h
  have hlist : "uuid:".toList ++ String.toList u = "none".toList := by
    rw [← String.toList_append]
    exact congrArg String.toList h
  exact absurd (List.cons.inj hlist).1 (by decide)

theorem sample_nfc : @NfcLaws sample :=
  @NfcLaws.mk sample (fun _ => rfl) (fun _ h => h) (fun _ h => h)

theorem sample_lower : @AsciiLower sample := fun _ _ => rfl

theorem toList_tenthsRepr (n : ℕ) :
    (tenthsRepr n).toList = Coding.digits (n / 10) ++ '.' :: Coding.digits (n % 10) := by
  simp [tenthsRepr, Nat.toList_repr]

theorem tenthsRepr_injective : Function.Injective tenthsRepr := by
  intro m n h
  have hl := congrArg String.toList h
  rw [toList_tenthsRepr, toList_tenthsRepr] at hl
  have hdot : ∀ t : List Char, Coding.Breaks (fun c => c.isDigit = true) ('.' :: t) :=
    fun t => Coding.breaks_cons (by decide)
  obtain ⟨hdiv, hrest⟩ := Coding.append_inj_of_breaks
    (fun _ hc => Coding.isDigit_of_mem_digits hc) (fun _ hc => Coding.isDigit_of_mem_digits hc)
    (hdot _) (hdot _) hl
  have hd := Coding.digits_injective hdiv
  have hm := Coding.digits_injective (List.cons.inj hrest).2
  omega

theorem dot_notMem_repr (i : ℤ) : '.' ∉ i.repr.toList := by
  have hdigits : ∀ n : ℕ, '.' ∉ Coding.digits n := fun n h =>
    absurd (Coding.isDigit_of_mem_digits h) (by decide)
  rcases Coding.toList_intRepr i with h | h <;> rw [h]
  · exact hdigits _
  · rw [List.mem_cons]
    rintro (h | h)
    · exact absurd h (by decide)
    · exact hdigits _ h

theorem sample_floatRepr_eq (n : ℕ) : @floatRepr sample n = tenthsRepr n := rfl

theorem sample_floatRepr : @FloatReprLaws sample := by
  refine @FloatReprLaws.mk sample ?_ ?_ ?_ ?_
  · exact fun m n _ _ h => tenthsRepr_injective h
  · intro n _ h
    have hl := congrArg String.toList h
    rw [sample_floatRepr_eq, toList_tenthsRepr] at hl
    simp at hl
  · intro n _ c hc
    rw [sample_floatRepr_eq, toList_tenthsRepr, List.mem_append,
      List.mem_cons] at hc
    rcases hc with hc | rfl | hc
    · exact .inl (Coding.isDigit_of_mem_digits hc)
    · exact .inr (by decide)
    · exact .inl (Coding.isDigit_of_mem_digits hc)
  -- A float has a point in its text.
  · intro n _ i h
    refine dot_notMem_repr i (h ▸ ?_)
    rw [sample_floatRepr_eq, toList_tenthsRepr]
    simp

theorem sample_floatEq : @FloatEqSymmetric sample := fun _ _ => decide_eq_decide.2 eq_comm

theorem sample_diff : @DiffContract sample := by
  refine @DiffContract.mk sample ?_ ?_ ?_ ?_
  · intro R _ d prev missing
    show sampleDiff (some d) prev missing = none ↔ _
    simp only [sampleDiff]
    split_ifs with h
    · exact iff_of_true rfl h
    all_goals exact iff_of_false (by simp) h
  · intro R _ d
    show sampleDiff (some d) [] true = _
    simp [sampleDiff]
  · rintro R _ d prev ⟨r, hr, hne⟩
    show sampleDiff (some d) prev false = _
    have hall : ¬∀ r ∈ prev, r = d := fun h => hne (h r hr)
    have hnil : prev ≠ [] := List.ne_nil_of_mem hr
    simp only [sampleDiff, true_and, if_neg hall, if_neg hnil]
  · intro R _ d prev h
    show sampleDiff (some d) prev true = _ ∨ sampleDiff (some d) prev true = _
    unfold sampleDiff
    simp only [Bool.true_eq_false, false_and, if_false, if_neg h]
    split_ifs <;> simp

end Platform

end Cogindex
