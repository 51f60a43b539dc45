import Cogindex.Library.Coding

/-!
# Compact ASCII JSON

JSON values (`Json.Value`) over a type of numbers, and the compact writer with
`,` and `:` as separators that escapes every character outside printable ASCII
(`Json.write`), non-BMP characters as a pair of surrogates. Objects are written
in the order of their entries: a *canonical* writer sorts them first.

The text of a value is readable before a separator or the end
(`write_readable`), so that it determines the value (`write_injective`): no
choice of characters, nesting or numbers makes two values look the same.
-/

namespace Json

open Coding

/-- The characters of numbers. -/
def NumberChar (c : Char) : Prop := c.isDigit = true ∨ c ∈ ['-', '+', '.', 'e']

instance : DecidablePred NumberChar := fun c =>
  inferInstanceAs (Decidable (c.isDigit = true ∨ c ∈ ['-', '+', '.', 'e']))

/-- A text of numbers: injective, in words over the characters of numbers. -/
structure NumberFormat {N : Type*} (text : N → List Char) : Prop where
  injective : Function.Injective text
  ne_nil : ∀ n, text n ≠ []
  numberChar : ∀ n, ∀ c ∈ text n, NumberChar c

/-- A JSON value; the entries of an object are ordered. -/
inductive Value (N : Type*)
  | null
  | bool (b : Bool)
  | num (n : N)
  | str (s : String)
  | arr (xs : List (Value N))
  | obj (es : List (String × Value N))

/-! ## Characters -/

/-- The letter of a two-character escape. -/
def shortEscape (c : Char) : Option Char :=
  if c = '"' then some '"' else if c = '\\' then some '\\' else if c = '\n' then some 'n'
  else if c = '\r' then some 'r' else if c = '\t' then some 't' else if c = '\x0c' then some 'f'
  else if c = '\x08' then some 'b' else none

/-- The printable ASCII characters. -/
def Printable (c : Char) : Prop := ' ' ≤ c ∧ c ≤ '~'

instance : DecidablePred Printable := fun c => inferInstanceAs (Decidable (' ' ≤ c ∧ c ≤ '~'))

/-- The UTF-16 code units of a character. -/
def utf16 (c : Char) : List ℕ :=
  if c.toNat < 0x10000 then [c.toNat]
  else [0xd800 + (c.toNat - 0x10000) / 0x400, 0xdc00 + (c.toNat - 0x10000) % 0x400]

/-- The four lower-case hexadecimal digits of a code unit. -/
def hex4 (n : ℕ) : List Char :=
  [Nat.digitChar (n / 0x1000 % 16), Nat.digitChar (n / 0x100 % 16), Nat.digitChar (n / 0x10 % 16),
    Nat.digitChar (n % 16)]

/-- The escape of a code unit. -/
def escapeUnit (n : ℕ) : List Char := '\\' :: 'u' :: hex4 n

/-- The text of a character in a string. -/
def escape (c : Char) : List Char :=
  match shortEscape c with
  | some x => ['\\', x]
  | none => if Printable c then [c] else (utf16 c).flatMap escapeUnit

/-- The text of a string. -/
def writeString (s : String) : List Char := '"' :: (s.toList.flatMap escape ++ ['"'])

/-- The character of a two-character escape. -/
def shortUnescape (x : Char) : Char :=
  if x = 'n' then '\n' else if x = 'r' then '\r' else if x = 't' then '\t'
  else if x = 'f' then '\x0c' else if x = 'b' then '\x08' else x

theorem shortEscape_some {c x : Char} (h : shortEscape c = some x) :
    shortUnescape x = c ∧ x ≠ 'u' := by
  unfold shortEscape at h
  split_ifs at h <;> cases h <;> subst_vars <;> decide

theorem shortEscape_backslash : shortEscape '\\' = some '\\' := by decide

theorem shortEscape_quote : shortEscape '"' = some '"' := by decide

theorem digitChar_inj : ∀ a < 16, ∀ b < 16, Nat.digitChar a = Nat.digitChar b → a = b := by
  decide

/-- Four hexadecimal digits determine a code unit. -/
theorem hex4_inj {m n : ℕ} (hm : m < 0x10000) (hn : n < 0x10000) {r s : List Char}
    (h : hex4 m ++ r = hex4 n ++ s) : m = n ∧ r = s := by
  simp only [hex4, List.cons_append, List.nil_append, List.cons.injEq] at h
  obtain ⟨h₃, h₂, h₁, h₀, hrs⟩ := h
  have e₃ := digitChar_inj _ (Nat.mod_lt _ (by decide)) _ (Nat.mod_lt _ (by decide)) h₃
  have e₂ := digitChar_inj _ (Nat.mod_lt _ (by decide)) _ (Nat.mod_lt _ (by decide)) h₂
  have e₁ := digitChar_inj _ (Nat.mod_lt _ (by decide)) _ (Nat.mod_lt _ (by decide)) h₁
  have e₀ := digitChar_inj _ (Nat.mod_lt _ (by decide)) _ (Nat.mod_lt _ (by decide)) h₀
  exact ⟨by omega, hrs⟩

theorem escapeUnit_inj {m n : ℕ} (hm : m < 0x10000) (hn : n < 0x10000) {r s : List Char}
    (h : escapeUnit m ++ r = escapeUnit n ++ s) : m = n ∧ r = s :=
  hex4_inj hm hn (List.cons.inj (List.cons.inj h).2).2

theorem toNat_lt (c : Char) : c.toNat < 0x110000 := by
  rcases c.valid with h | h
  · exact Nat.lt_trans h (by decide)
  · exact h.2

/-- A character is not a surrogate. -/
theorem not_surrogate (c : Char) : ¬(0xd800 ≤ c.toNat ∧ c.toNat < 0xe000) := by
  rintro ⟨hlo, hhi⟩
  rcases c.valid with h | h
  · exact absurd h (not_lt.2 hlo)
  · exact absurd h.1 (not_lt.2 (Nat.le_of_lt_succ hhi))

/-- The code units of a character determine it: one that is no surrogate, or a
    pair of surrogates. -/
theorem utf16_inj {c d : Char} {r s : List Char}
    (h : (utf16 c).flatMap escapeUnit ++ r = (utf16 d).flatMap escapeUnit ++ s) :
    c = d ∧ r = s := by
  have hc := toNat_lt c
  have hd := toNat_lt d
  have hcs := not_surrogate c
  have hds := not_surrogate d
  unfold utf16 at h
  split_ifs at h with h₁ h₂ h₂ <;>
    simp only [List.flatMap_cons, List.flatMap_nil, List.append_nil, List.append_assoc] at h
  · obtain ⟨hcd, hrs⟩ := escapeUnit_inj h₁ h₂ h
    exact ⟨Char.toNat_inj.1 hcd, hrs⟩
  · -- a unit that is no surrogate against the first of a pair
    have := (escapeUnit_inj h₁ (by omega) h).1
    omega
  · have := (escapeUnit_inj (by omega) h₂ h).1
    omega
  · obtain ⟨hhi, hrest⟩ := escapeUnit_inj (by omega) (by omega) h
    obtain ⟨hlo, hrs⟩ := escapeUnit_inj (by omega) (by omega) hrest
    exact ⟨Char.toNat_inj.1 (by omega), hrs⟩

theorem utf16_escape_cons (c : Char) : ∃ t, (utf16 c).flatMap escapeUnit = '\\' :: 'u' :: t := by
  unfold utf16
  split_ifs <;> exact ⟨_, rfl⟩

/-- The escapes of characters are a prefix code. -/
theorem escape_readable : Readable (fun _ => True) escape := by
  intro c d r s _ _ h
  obtain ⟨tc, htc⟩ := utf16_escape_cons c
  obtain ⟨td, htd⟩ := utf16_escape_cons d
  unfold escape at h
  rcases hc : shortEscape c with _ | x <;> rcases hd : shortEscape d with _ | y <;>
    simp only [hc, hd] at h
  · split_ifs at h with pc pd pd
    · exact ⟨(List.cons.inj h).1, (List.cons.inj h).2⟩
    · -- a printable backslash has a short escape
      rw [htd] at h
      rw [(List.cons.inj h).1, shortEscape_backslash] at hc
      cases hc
    · rw [htc] at h
      rw [← (List.cons.inj h).1, shortEscape_backslash] at hd
      cases hd
    · exact utf16_inj h
  · split_ifs at h with pc
    · rw [(List.cons.inj h).1, shortEscape_backslash] at hc
      cases hc
    · -- no short escape is the letter of a code unit
      rw [htc] at h
      exact absurd (List.cons.inj (List.cons.inj h).2).1.symm (shortEscape_some hd).2
  · split_ifs at h with pd
    · rw [← (List.cons.inj h).1, shortEscape_backslash] at hd
      cases hd
    · rw [htd] at h
      exact absurd (List.cons.inj (List.cons.inj h).2).1 (shortEscape_some hc).2
  · simp only [List.cons_append, List.nil_append, List.cons.injEq, true_and] at h
    exact ⟨by rw [← (shortEscape_some hc).1, ← (shortEscape_some hd).1, h.1], h.2⟩

/-- No escape starts with a quote. -/
theorem escape_cons (c : Char) : ∃ x t, escape c = x :: t ∧ x ≠ '"' := by
  unfold escape
  rcases hc : shortEscape c with _ | x
  · simp only
    split_ifs
    · refine ⟨c, [], rfl, ?_⟩
      rintro rfl
      rw [shortEscape_quote] at hc
      cases hc
    · obtain ⟨t, ht⟩ := utf16_escape_cons c
      exact ⟨'\\', 'u' :: t, ht, by decide⟩
  · exact ⟨'\\', [x], rfl, by decide⟩

/-- The text of a string is readable before any rest. -/
theorem writeString_readable : Readable (fun _ => True) writeString := by
  intro a b r s _ _ h
  obtain ⟨hab, hrs⟩ := escape_readable.flatMap escape_cons (a := a.toList) (b := b.toList)
    trivial trivial (List.cons.inj h).2
  exact ⟨String.toList_inj.1 hab, hrs⟩

/-! ## Values -/

variable {N : Type*} (text : N → List Char)

mutual

/-- The text of a value. -/
def write : Value N → List Char
  | .null => ['n', 'u', 'l', 'l']
  | .bool true => ['t', 'r', 'u', 'e']
  | .bool false => ['f', 'a', 'l', 's', 'e']
  | .num n => text n
  | .str s => writeString s
  | .arr [] => ['[', ']']
  | .arr (x :: xs) => '[' :: (write x ++ writeRest xs)
  | .obj [] => ['{', '}']
  | .obj ((k, x) :: es) => '{' :: (writeString k ++ ':' :: (write x ++ writeEntries es))

/-- The text of an array after its first element. -/
def writeRest : List (Value N) → List Char
  | [] => [']']
  | x :: xs => ',' :: (write x ++ writeRest xs)

/-- The text of an object after its first entry. -/
def writeEntries : List (String × Value N) → List Char
  | [] => ['}']
  | (k, x) :: es => ',' :: (writeString k ++ ':' :: (write x ++ writeEntries es))

end

/-- What may follow a value: the end, or a separator. -/
def Ends (r : List Char) : Prop := ∀ c ∈ r.head?, c ∈ [',', ']', '}']

theorem ends_nil : Ends [] := fun _ h => by simp at h

theorem ends_cons {c : Char} {r : List Char} (hc : c ∈ [',', ']', '}']) : Ends (c :: r) :=
  fun d hd => by
    rw [List.head?_cons, Option.mem_some_iff] at hd
    exact hd ▸ hc

theorem ends_writeRest (xs : List (Value N)) (r : List Char) : Ends (writeRest text xs ++ r) := by
  cases xs with
  | nil => rw [writeRest]; exact ends_cons (by decide)
  | cons x xs => rw [writeRest]; exact ends_cons (by decide)

theorem ends_writeEntries (es : List (String × Value N)) (r : List Char) :
    Ends (writeEntries text es ++ r) := by
  cases es with
  | nil => rw [writeEntries]; exact ends_cons (by decide)
  | cons e es => rw [writeEntries]; exact ends_cons (by decide)

theorem Ends.breaks {r : List Char} (h : Ends r) : Breaks NumberChar r := by
  intro c hc hn
  have hmem := h c hc
  simp only [List.mem_cons, List.not_mem_nil, or_false] at hmem
  rcases hmem with rfl | rfl | rfl <;> exact absurd hn (by decide)

/-- What the first character of a text says of its value: `0` stands for the
    numbers. -/
def leadOf (c : Char) : Char := if NumberChar c then '0' else c

/-- The lead of a value. -/
def Value.lead : Value N → Char
  | .null => 'n'
  | .bool true => 't'
  | .bool false => 'f'
  | .num _ => '0'
  | .str _ => '"'
  | .arr _ => '['
  | .obj _ => '{'

variable {text}

theorem write_cons (fmt : NumberFormat text) (v : Value N) :
    ∃ c t, write text v = c :: t ∧ leadOf c = v.lead := by
  cases v with
  | null => exact ⟨_, _, rfl, rfl⟩
  | bool b => cases b <;> exact ⟨_, _, rfl, rfl⟩
  | num n =>
    -- A number starts with a character of numbers, which starts nothing else.
    rcases htext : text n with _ | ⟨c, t⟩
    · exact absurd htext (fmt.ne_nil n)
    · have hc : NumberChar c := fmt.numberChar n c (by rw [htext]; exact List.mem_cons_self)
      exact ⟨c, t, by rw [write, htext], if_pos hc⟩
  | str s => exact ⟨_, _, rfl, rfl⟩
  | arr xs =>
    cases xs with
    | nil => exact ⟨_, _, rfl, rfl⟩
    | cons x xs => exact ⟨_, _, rfl, rfl⟩
  | obj es =>
    cases es with
    | nil => exact ⟨_, _, rfl, rfl⟩
    | cons e es => exact ⟨_, _, rfl, rfl⟩

/-- Values whose texts start a same text have the same lead. -/
theorem lead_eq (fmt : NumberFormat text) {v w : Value N} {r s : List Char}
    (h : write text v ++ r = write text w ++ s) : v.lead = w.lead := by
  obtain ⟨c, t, hv, hc⟩ := write_cons fmt v
  obtain ⟨d, u, hw, hd⟩ := write_cons fmt w
  rw [hv, hw] at h
  rw [← hc, ← hd, (List.cons.inj h).1]

theorem lead_write_ne (fmt : NumberFormat text) {v : Value N} {c : Char} {r s : List Char}
    (hc : leadOf c ∉ ['n', 't', 'f', '0', '"', '[', '{']) : write text v ++ r ≠ c :: s := by
  obtain ⟨d, t, hv, hd⟩ := write_cons fmt v
  intro h
  rw [hv] at h
  rw [(List.cons.inj h).1] at hd
  cases v with
  | bool b => cases b <;> exact hc (by simp [hd, Value.lead])
  | _ => exact hc (by simp [hd, Value.lead])

mutual

theorem write_inj (fmt : NumberFormat text) : ∀ (v w : Value N) {r s : List Char},
    Ends r → Ends s → write text v ++ r = write text w ++ s → v = w ∧ r = s
  | .null, w, r, s, hr, hs, h => by
    have hl := lead_eq fmt h
    cases w with
    | null => exact ⟨rfl, List.append_cancel_left h⟩
    | bool b => cases b <;> exact absurd hl (by simp [Value.lead])
    | _ => exact absurd hl (by simp [Value.lead])
  | .bool a, w, r, s, hr, hs, h => by
    have hl := lead_eq fmt h
    cases w with
    | bool b =>
      have hab : a = b := by cases a <;> cases b <;> simp_all [Value.lead]
      subst hab
      exact ⟨rfl, List.append_cancel_left h⟩
    | _ => cases a <;> exact absurd hl (by simp [Value.lead])
  | .num m, w, r, s, hr, hs, h => by
    have hl := lead_eq fmt h
    cases w with
    | num n =>
      obtain ⟨hmn, hrs⟩ := readable_token fmt.injective fmt.numberChar hr.breaks hs.breaks h
      exact ⟨by rw [hmn], hrs⟩
    | bool b => cases b <;> exact absurd hl (by simp [Value.lead])
    | _ => exact absurd hl (by simp [Value.lead])
  | .str a, w, r, s, hr, hs, h => by
    have hl := lead_eq fmt h
    cases w with
    | str b =>
      obtain ⟨hab, hrs⟩ := writeString_readable trivial trivial h
      exact ⟨by rw [hab], hrs⟩
    | bool b => cases b <;> exact absurd hl (by simp [Value.lead])
    | _ => exact absurd hl (by simp [Value.lead])
  | .arr [], w, r, s, hr, hs, h => by
    have hl := lead_eq fmt h
    cases w with
    | arr ys =>
      cases ys with
      | nil => exact ⟨rfl, List.append_cancel_left h⟩
      | cons y ys =>
        rw [write, write, List.cons_append, List.cons_append, List.cons_append,
          List.append_assoc] at h
        exact absurd (List.cons.inj h).2.symm (lead_write_ne fmt (by decide))
    | bool b => cases b <;> exact absurd hl (by simp [Value.lead])
    | _ => exact absurd hl (by simp [Value.lead])
  | .arr (x :: xs), w, r, s, hr, hs, h => by
    have hl := lead_eq fmt h
    cases w with
    | arr ys =>
      cases ys with
      | nil =>
        rw [write, write, List.cons_append, List.cons_append, List.append_assoc] at h
        exact absurd (List.cons.inj h).2 (lead_write_ne fmt (by decide))
      | cons y ys =>
        rw [write, write, List.cons_append, List.cons_append, List.append_assoc,
          List.append_assoc] at h
        obtain ⟨hxy, hrest⟩ := write_inj fmt x y (ends_writeRest text xs r)
          (ends_writeRest text ys s) (List.cons.inj h).2
        obtain ⟨hxs, hrs⟩ := writeRest_inj fmt xs ys hrest
        exact ⟨by rw [hxy, hxs], hrs⟩
    | bool b => cases b <;> exact absurd hl (by simp [Value.lead])
    | _ => exact absurd hl (by simp [Value.lead])
  | .obj [], w, r, s, hr, hs, h => by
    have hl := lead_eq fmt h
    cases w with
    | obj fs =>
      cases fs with
      | nil => exact ⟨rfl, List.append_cancel_left h⟩
      | cons f fs =>
        simp only [write, writeString, List.cons_append, List.cons.injEq, true_and] at h
        exact absurd h.1 (by decide)
    | bool b => cases b <;> exact absurd hl (by simp [Value.lead])
    | _ => exact absurd hl (by simp [Value.lead])
  | .obj ((k, x) :: es), w, r, s, hr, hs, h => by
    have hl := lead_eq fmt h
    cases w with
    | obj fs =>
      cases fs with
      | nil =>
        simp only [write, writeString, List.cons_append, List.cons.injEq, true_and] at h
        exact absurd h.1 (by decide)
      | cons f fs =>
        rw [write, write, List.cons_append, List.cons_append, List.append_assoc,
          List.append_assoc] at h
        obtain ⟨hk, hrest⟩ := writeString_readable trivial trivial (List.cons.inj h).2
        rw [List.cons_append, List.cons_append, List.append_assoc, List.append_assoc] at hrest
        obtain ⟨hx, hrest⟩ := write_inj fmt x f.2 (ends_writeEntries text es r)
          (ends_writeEntries text fs s) (List.cons.inj hrest).2
        obtain ⟨hes, hrs⟩ := writeEntries_inj fmt es fs hrest
        exact ⟨by rw [hk, hx, hes], hrs⟩
    | bool b => cases b <;> exact absurd hl (by simp [Value.lead])
    | _ => exact absurd hl (by simp [Value.lead])

theorem writeRest_inj (fmt : NumberFormat text) : ∀ (xs ys : List (Value N)) {r s : List Char},
    writeRest text xs ++ r = writeRest text ys ++ s → xs = ys ∧ r = s
  | [], [], r, s, h => ⟨rfl, List.append_cancel_left h⟩
  | [], y :: ys, r, s, h => by
    rw [writeRest, writeRest] at h
    exact absurd (List.cons.inj h).1 (by decide)
  | x :: xs, [], r, s, h => by
    rw [writeRest, writeRest] at h
    exact absurd (List.cons.inj h).1 (by decide)
  | x :: xs, y :: ys, r, s, h => by
    rw [writeRest, writeRest, List.cons_append, List.cons_append, List.append_assoc,
      List.append_assoc] at h
    obtain ⟨hxy, hrest⟩ := write_inj fmt x y (ends_writeRest text xs r) (ends_writeRest text ys s)
      (List.cons.inj h).2
    obtain ⟨hxs, hrs⟩ := writeRest_inj fmt xs ys hrest
    exact ⟨by rw [hxy, hxs], hrs⟩

theorem writeEntries_inj (fmt : NumberFormat text) :
    ∀ (es fs : List (String × Value N)) {r s : List Char},
    writeEntries text es ++ r = writeEntries text fs ++ s → es = fs ∧ r = s
  | [], [], r, s, h => ⟨rfl, List.append_cancel_left h⟩
  | [], f :: fs, r, s, h => by
    rw [writeEntries, writeEntries] at h
    exact absurd (List.cons.inj h).1 (by decide)
  | e :: es, [], r, s, h => by
    rw [writeEntries, writeEntries] at h
    exact absurd (List.cons.inj h).1 (by decide)
  | (k, x) :: es, (l, y) :: fs, r, s, h => by
    rw [writeEntries, writeEntries, List.cons_append, List.cons_append, List.append_assoc,
      List.append_assoc] at h
    obtain ⟨hk, hrest⟩ := writeString_readable trivial trivial (List.cons.inj h).2
    rw [List.cons_append, List.cons_append, List.append_assoc, List.append_assoc] at hrest
    obtain ⟨hx, hrest⟩ := write_inj fmt x y (ends_writeEntries text es r)
      (ends_writeEntries text fs s) (List.cons.inj hrest).2
    obtain ⟨hes, hrs⟩ := writeEntries_inj fmt es fs hrest
    exact ⟨by rw [hk, hx, hes], hrs⟩

end

/-- The text of a value is readable before a separator or the end. -/
theorem write_readable (fmt : NumberFormat text) : Readable Ends (write text) :=
  fun v w _ _ hr hs h => write_inj fmt v w hr hs h

/-- The text of a value determines it. -/
theorem write_injective (fmt : NumberFormat text) : Function.Injective (write text) :=
  (write_readable fmt).injective ends_nil

end Json
