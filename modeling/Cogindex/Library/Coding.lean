import Mathlib

/-!
# Unambiguous encodings

An encoder `enc : α → List β` is *readable* before the rests `r` with
`Ends r` if a word `enc a ++ r` with such a rest determines both `a` and `r`:
a reader knows what was written and where it ended. With every rest allowed it
is a prefix code, with the empty rest an injection (`Readable.injective`).

* `readable_token`: words over an alphabet, before a rest that does not
  continue them, as the numbers of a text;
* `Readable.flatMap`: a sequence of code words closed by a terminator that
  starts no code word, as the characters of a quoted string;
* `netstring_readable`, `netstrings_injective`: words prefixed by their
  lengths, as netstrings.
-/

namespace Coding

variable {α β : Type*}

/-- A word `enc a`, before a rest with `Ends`, determines `a` and the rest. -/
def Readable (Ends : List β → Prop) (enc : α → List β) : Prop :=
  ∀ ⦃a b : α⦄ ⦃r s : List β⦄, Ends r → Ends s → enc a ++ r = enc b ++ s → a = b ∧ r = s

/-- An encoder that is readable at the end of the text is injective. -/
theorem Readable.injective {Ends : List β → Prop} {enc : α → List β} (h : Readable Ends enc)
    (hnil : Ends []) : Function.Injective enc := fun a b hab =>
  (h (a := a) (b := b) hnil hnil (by rw [hab])).1

/-! ## Tokens -/

/-- The rest `r` does not continue a word over the alphabet `P`. -/
def Breaks (P : β → Prop) (r : List β) : Prop := ∀ c ∈ r.head?, ¬P c

theorem breaks_cons {P : β → Prop} {c : β} {r : List β} (hc : ¬P c) : Breaks P (c :: r) :=
  fun d hd => by
    rw [List.head?_cons, Option.mem_some_iff] at hd
    exact hd ▸ hc

/-- Two words over `P`, each before a rest that does not continue it, are the
    same word before the same rest. -/
theorem append_inj_of_breaks {P : β → Prop} :
    ∀ {u v r s : List β}, (∀ c ∈ u, P c) → (∀ c ∈ v, P c) → Breaks P r → Breaks P s →
      u ++ r = v ++ s → u = v ∧ r = s
  | [], [], _, _, _, _, _, _, h => ⟨rfl, h⟩
  | [], c :: v, r, s, _, hv, hr, _, h => by
    rw [List.nil_append, List.cons_append] at h
    exact absurd (hv c List.mem_cons_self) (hr c (by rw [h]; rfl))
  | c :: u, [], r, s, hu, _, _, hs, h => by
    rw [List.nil_append, List.cons_append] at h
    exact absurd (hu c List.mem_cons_self) (hs c (by rw [← h]; rfl))
  | c :: u, d :: v, r, s, hu, hv, hr, hs, h => by
    rw [List.cons_append, List.cons_append, List.cons.injEq] at h
    obtain ⟨huv, hrs⟩ := append_inj_of_breaks (fun c hc => hu c (List.mem_cons_of_mem _ hc))
      (fun c hc => hv c (List.mem_cons_of_mem _ hc)) hr hs h.2
    exact ⟨by rw [h.1, huv], hrs⟩

/-- Different words over `P` are told apart before a rest that does not
    continue them. -/
theorem readable_token {P : β → Prop} {enc : α → List β} (hinj : Function.Injective enc)
    (hP : ∀ a, ∀ c ∈ enc a, P c) : Readable (Breaks P) enc := fun a b _ _ hr hs h =>
  let ⟨hab, hrs⟩ := append_inj_of_breaks (hP a) (hP b) hr hs h
  ⟨hinj hab, hrs⟩

/-! ## Terminated sequences -/

/-- The code words of a sequence, then a terminator `t` that starts none of
    them: a reader stops at the first `t` it meets instead of a code word. -/
theorem Readable.flatMap {enc : α → List β} (h : Readable (fun _ => True) enc) {t : β}
    (ht : ∀ a, ∃ c u, enc a = c :: u ∧ c ≠ t) :
    Readable (fun _ => True) fun l : List α => l.flatMap enc ++ [t] := by
  intro l
  induction l with
  | nil =>
    intro m r s _ _ hlm
    cases m with
    | nil =>
      simp only [List.flatMap_nil, List.nil_append, List.cons_append, List.cons.injEq,
        true_and] at hlm
      exact ⟨rfl, hlm⟩
    -- The terminator starts no code word, so both lists end at the same place.
    | cons b m =>
      obtain ⟨c, u, hb, hc⟩ := ht b
      simp only [List.flatMap_cons, hb, List.flatMap_nil, List.nil_append, List.cons_append,
        List.cons.injEq] at hlm
      exact absurd hlm.1.symm hc
  | cons a l ih =>
    intro m r s _ _ hlm
    cases m with
    | nil =>
      obtain ⟨c, u, ha, hc⟩ := ht a
      simp only [List.flatMap_cons, ha, List.flatMap_nil, List.nil_append, List.cons_append,
        List.cons.injEq] at hlm
      exact absurd hlm.1 hc
    | cons b m =>
      simp only [List.flatMap_cons, List.append_assoc] at hlm
      obtain ⟨hab, hrest⟩ := h trivial trivial hlm
      obtain ⟨hlm', hrs⟩ := ih (b := m) trivial trivial (by simpa using hrest)
      exact ⟨by rw [hab, hlm'], hrs⟩

/-! ## Netstrings -/

/-- The decimal digits of a number. -/
abbrev digits (n : ℕ) : List Char := Nat.toDigits 10 n

theorem digits_injective : Function.Injective digits := fun m n h =>
  Nat.repr_injective (String.toList_inj.1 (by rw [Nat.toList_repr, Nat.toList_repr]; exact h))

theorem isDigit_of_mem_digits {n : ℕ} {c : Char} (hc : c ∈ digits n) : c.isDigit = true :=
  Nat.isDigit_of_mem_toDigits (by decide) (by decide) hc

/-- The text of an integer: its digits, after a sign if it is negative. -/
theorem toList_intRepr (i : ℤ) :
    i.repr.toList = digits i.natAbs ∨ i.repr.toList = '-' :: digits i.natAbs := by
  cases i with
  | ofNat n => exact .inl Nat.toList_repr
  | negSucc n =>
    refine .inr ?_
    show ("-" ++ (n + 1).repr).toList = _
    rw [String.toList_append, Nat.toList_repr]
    rfl

/-- A word prefixed by its length and a colon. -/
def netstring (w : List Char) : List Char := digits w.length ++ ':' :: w

/-- A netstring is readable before any rest: its length is read up to the
    colon, and says how much of the text belongs to the word. -/
theorem netstring_readable : Readable (fun _ => True) netstring := by
  intro v w r s _ _ h
  rw [netstring, netstring, List.append_assoc, List.append_assoc] at h
  have hcolon : ∀ t : List Char, Breaks (fun c => c.isDigit = true) (':' :: t) :=
    fun t => breaks_cons (by decide)
  obtain ⟨hlen, hrest⟩ := append_inj_of_breaks (fun _ hc => isDigit_of_mem_digits hc)
    (fun _ hc => isDigit_of_mem_digits hc) (hcolon _) (hcolon _) h
  exact List.append_inj (List.cons.inj hrest).2 (digits_injective hlen)

/-- A concatenation of netstrings determines the words, whatever their number,
    their lengths and their characters. -/
theorem netstrings_injective :
    Function.Injective fun ws : List (List Char) => ws.flatMap netstring := by
  have hne : ∀ w, netstring w ≠ [] := fun w => by simp [netstring]
  intro ws
  induction ws with
  | nil =>
    intro vs h
    cases vs with
    | nil => rfl
    | cons v vs =>
      exact absurd (List.append_eq_nil_iff.1 h.symm).1 (hne v)
  | cons w ws ih =>
    intro vs h
    cases vs with
    | nil => exact absurd (List.append_eq_nil_iff.1 h).1 (hne w)
    -- The first words are the same, and so are the rests after them.
    | cons v vs =>
      simp only [List.flatMap_cons] at h
      obtain ⟨hwv, hrest⟩ := netstring_readable trivial trivial h
      rw [hwv, ih hrest]

end Coding
