import Cogindex.ModelArgs

/-!
# Spellings of model arguments

Providers name the same argument in different ways: `api_key`, `api-key`,
`apiKey`, `APIKey`. What becomes of an argument is decided by the words of its
key, so it must not depend on how they are written.

A key is taken apart by two passes that look for word boundaries
(`splitCamel`, `splitAcronyms`), lowercased, and joined again. Whatever the
naming convention, what is left of it are the words, joined by underscores.

* `Spells`: the keys that spell a list of words, in one of the conventions;
* `normalizeModelArgKey_of_spells`: they are all normalized to one text;
* `modelArgKind_spelling`: so they have one kind, or raise one error.
-/

namespace Cogindex

/-! ## Words -/

/-- A word of a key: two or more lowercase ASCII letters. -/
structure Word where
  letters : List Char
  two_le : 2 ≤ letters.length
  lower : ∀ c ∈ letters, isAsciiLower c = true

/-- How a word is written. -/
inductive WordCase
  | lower
  | capitalized
  | capitals

/-- Writing a word. -/
def Word.write (w : Word) : WordCase → List Char
  | .lower => w.letters
  | .capitalized => w.letters.modifyHead Char.toUpper
  | .capitals => w.letters.map Char.toUpper

/-! ## Naming conventions -/

section Conventions

variable (ws : List Word)

/-- Words that are all written in one way, with a separator. -/
def separated (separator : Char) (form : WordCase) : List Char :=
  [separator].intercalate (ws.map (·.write form))

/-- `access_token`. -/
def snakeCase : List Char := separated ws '_' .lower

/-- `access-token`. -/
def kebabCase : List Char := separated ws '-' .lower

/-- `access.token`. -/
def dotted : List Char := separated ws '.' .lower

/-- `ACCESS_TOKEN`. -/
def screamingSnakeCase : List Char := separated ws '_' .capitals

/-- `AccessToken`. -/
def pascalCase : List Char := ws.flatMap (·.write .capitalized)

/-- `accessToken`. -/
def camelCase : List Word → List Char
  | [] => []
  | w :: ws => w.write .lower ++ pascalCase ws

end Conventions

/-- Words that are each written in a way of their own, without separators. -/
def mixedCase (l : List (Word × WordCase)) : List Char := l.flatMap fun x => x.1.write x.2

/-- Camel or Pascal case, in which words may be in all capitals, but no two
    adjacent ones. -/
structure Humps (l : List (Word × WordCase)) : Prop where
  /-- Only the first word may be in lower case. -/
  tail : ∀ x ∈ l.tail, x.2 ≠ .lower
  capitals : l.IsChain fun x y => ¬(x.2 = .capitals ∧ y.2 = .capitals)

/-- The spellings of a list of words. -/
inductive Spells (ws : List Word) : List Char → Prop
  | snakeCase : Spells ws (snakeCase ws)
  | kebabCase : Spells ws (kebabCase ws)
  | dotted : Spells ws (dotted ws)
  | screamingSnakeCase : Spells ws (screamingSnakeCase ws)
  | camelCase : Spells ws (camelCase ws)
  | pascalCase : Spells ws (pascalCase ws)
  /-- As `APIKey` or `myAPIKey`. -/
  | mixedCase {l : List (Word × WordCase)} (hl : l.map Prod.fst = ws) (hhumps : Humps l) :
    Spells ws (mixedCase l)

/-! ## Letters -/

section Letters

variable {c : Char}

theorem isAsciiLower_iff : isAsciiLower c = true ↔ 97 ≤ c.toNat ∧ c.toNat ≤ 122 := by
  simp [isAsciiLower, Char.le_def, UInt32.le_iff_toNat_le]

theorem isAsciiUpper_iff : isAsciiUpper c = true ↔ 65 ≤ c.toNat ∧ c.toNat ≤ 90 := by
  simp [isAsciiUpper, Char.le_def, UInt32.le_iff_toNat_le]

theorem isAsciiDigit_iff : isAsciiDigit c = true ↔ 48 ≤ c.toNat ∧ c.toNat ≤ 57 := by
  simp [isAsciiDigit, Char.le_def, UInt32.le_iff_toNat_le]

theorem isAsciiUpper_of_lower (hc : isAsciiLower c = true) : isAsciiUpper c = false := by
  rw [← Bool.not_eq_true, isAsciiUpper_iff]
  have := isAsciiLower_iff.1 hc
  omega

theorem isAsciiLower_of_upper (hc : isAsciiUpper c = true) : isAsciiLower c = false := by
  rw [← Bool.not_eq_true, isAsciiLower_iff]
  have := isAsciiUpper_iff.1 hc
  omega

theorem lower_or_digit_of_upper (hc : isAsciiUpper c = true) :
    (isAsciiLower c || isAsciiDigit c) = false := by
  rw [← Bool.not_eq_true, Bool.or_eq_true, isAsciiLower_iff, isAsciiDigit_iff]
  have := isAsciiUpper_iff.1 hc
  omega

/-- A property of the 26 letters. -/
theorem forall_letter {P : Char → Prop} (h : ∀ n < 26, P (Char.ofNat (97 + n)))
    (hc : isAsciiLower c = true) : P c := by
  obtain ⟨hle, hge⟩ := isAsciiLower_iff.1 hc
  have hP := h (c.toNat - 97) (by omega)
  rwa [Nat.add_sub_cancel' hle, Char.ofNat_toNat] at hP

theorem isAsciiUpper_toUpper (hc : isAsciiLower c = true) : isAsciiUpper c.toUpper = true :=
  forall_letter (P := fun c => isAsciiUpper c.toUpper = true) (by decide) hc

theorem ne_underscore (hc : isAsciiLower c = true) : c ≠ '_' := by
  rintro rfl
  exact absurd hc (by decide)

theorem toLower_of_lower (hc : isAsciiLower c = true) : c.toLower = c :=
  forall_letter (P := fun c => c.toLower = c) (by decide) hc

theorem toLower_toUpper (hc : isAsciiLower c = true) : c.toUpper.toLower = c :=
  forall_letter (P := fun c => c.toUpper.toLower = c) (by decide) hc

end Letters

/-! ## Word boundaries -/

section Boundaries

variable {a b c : Char} {u cs : List Char}

/-- No boundary before the next character. -/
theorem splitCamel_cons
    (h : ∀ b ∈ cs.head?, ((isAsciiLower a || isAsciiDigit a) && isAsciiUpper b) = false) :
    splitCamel (a :: cs) = a :: splitCamel cs := by
  cases cs with
  | nil => rfl
  | cons b cs => rw [splitCamel, h b rfl, if_neg Bool.false_ne_true]

theorem splitCamel_append (hu : ∀ c ∈ u, (isAsciiLower c || isAsciiDigit c) = false)
    (cs : List Char) : splitCamel (u ++ cs) = u ++ splitCamel cs := by
  induction u with
  | nil => rfl
  | cons a u ih =>
    obtain ⟨ha, hu⟩ := List.forall_mem_cons.1 hu
    have hcons : splitCamel (a :: (u ++ cs)) = a :: splitCamel (u ++ cs) :=
      splitCamel_cons fun b _ => by rw [ha, Bool.false_and]
    rw [List.cons_append, hcons, ih hu, List.cons_append]

/-- A word in lower case ends where a capital begins. -/
theorem splitCamel_append_lower (hne : u ≠ []) (hu : ∀ c ∈ u, isAsciiLower c = true)
    (hb : isAsciiUpper b = true) :
    splitCamel (u ++ b :: cs) = u ++ '_' :: splitCamel (b :: cs) := by
  induction u with
  | nil => exact absurd rfl hne
  | cons a u ih =>
    obtain ⟨ha, hu⟩ := List.forall_mem_cons.1 hu
    cases u with
    | nil => simp [splitCamel, ha, hb]
    -- No underscore goes between two lower-case letters.
    | cons a' u =>
      have ha' : isAsciiUpper a' = false := isAsciiUpper_of_lower (hu a' List.mem_cons_self)
      have hcons : splitCamel (a :: (a' :: u ++ b :: cs)) = a :: splitCamel (a' :: u ++ b :: cs) :=
        splitCamel_cons fun x hx => by
          cases hx
          rw [ha', Bool.and_false]
      rw [List.cons_append, hcons, ih (List.cons_ne_nil _ _) hu]
      rfl

theorem splitCamel_eq_self (hcs : ∀ c ∈ cs, isAsciiUpper c = false) : splitCamel cs = cs := by
  induction cs with
  | nil => rfl
  | cons a cs ih =>
    obtain ⟨-, hcs⟩ := List.forall_mem_cons.1 hcs
    rw [splitCamel_cons fun b hb => by rw [hcs b (List.mem_of_mem_head? hb), Bool.and_false],
      ih hcs]

/-- The first character stays the first one. -/
theorem exists_splitCamel_cons (a : Char) (cs : List Char) :
    ∃ rest, splitCamel (a :: cs) = a :: rest := by
  cases cs with
  | nil => exact ⟨[], rfl⟩
  | cons b cs =>
    rw [splitCamel]
    split_ifs
    exacts [⟨_, rfl⟩, ⟨_, rfl⟩]

/-- No boundary between two characters that are not both capitals. -/
theorem splitAcronyms_cons (h : ∀ b ∈ cs.head?, (isAsciiUpper a && isAsciiUpper b) = false) :
    splitAcronyms (a :: cs) = a :: splitAcronyms cs := by
  rcases cs with - | ⟨b, - | ⟨c, cs⟩⟩
  · rfl
  · rfl
  · rw [splitAcronyms, h b rfl, Bool.false_and, if_neg Bool.false_ne_true]

theorem splitAcronyms_append (hu : ∀ c ∈ u, isAsciiUpper c = false) (cs : List Char) :
    splitAcronyms (u ++ cs) = u ++ splitAcronyms cs := by
  induction u with
  | nil => rfl
  | cons a u ih =>
    obtain ⟨ha, hu⟩ := List.forall_mem_cons.1 hu
    rw [List.cons_append, splitAcronyms_cons fun b _ => by rw [ha, Bool.false_and], ih hu,
      List.cons_append]

/-- A word in capitals ends where a capitalized one begins. -/
theorem splitAcronyms_append_capitals (hne : u ≠ []) (hu : ∀ c ∈ u, isAsciiUpper c = true)
    (hb : isAsciiUpper b = true) (hc : isAsciiLower c = true) :
    splitAcronyms (u ++ b :: c :: cs) = u ++ '_' :: splitAcronyms (b :: c :: cs) := by
  induction u with
  | nil => exact absurd rfl hne
  | cons a u ih =>
    obtain ⟨ha, hu⟩ := List.forall_mem_cons.1 hu
    rcases u with - | ⟨a', u⟩
    · simp [splitAcronyms, ha, hb, hc]
    · -- The window lies within the capitals, of which `b` is the last.
      have hwindow : splitAcronyms (a :: (a' :: u ++ b :: c :: cs)) =
          a :: splitAcronyms (a' :: u ++ b :: c :: cs) := by
        rcases u with - | ⟨a'', u⟩
        · simp [splitAcronyms, isAsciiLower_of_upper hb]
        · simp [splitAcronyms, isAsciiLower_of_upper (hu a'' (by simp))]
      rw [List.cons_append, hwindow, ih (List.cons_ne_nil _ _) hu]
      rfl

theorem splitAcronyms_eq_self (hcs : ∀ c ∈ cs, isAsciiLower c = false) :
    splitAcronyms cs = cs := by
  induction cs with
  | nil => rfl
  | cons a cs ih =>
    obtain ⟨-, hcs⟩ := List.forall_mem_cons.1 hcs
    rcases cs with - | ⟨b, - | ⟨c, cs⟩⟩
    · rfl
    · rfl
    · rw [splitAcronyms, hcs c (by simp), Bool.and_false, if_neg Bool.false_ne_true, ih hcs]

end Boundaries

/-! ## Splitting words -/

/-- The two passes that put an underscore at the boundaries of words. -/
def splitWords (key : List Char) : List Char := splitAcronyms (splitCamel key)

section Split

variable {a b c : Char} {u cs : List Char}

theorem splitWords_of_no_upper (hcs : ∀ c ∈ cs, isAsciiUpper c = false) : splitWords cs = cs := by
  rw [splitWords, splitCamel_eq_self hcs]
  simpa [splitAcronyms] using splitAcronyms_append hcs []

theorem splitWords_of_no_lower (hcs : ∀ c ∈ cs, (isAsciiLower c || isAsciiDigit c) = false) :
    splitWords cs = cs := by
  have hcamel : splitCamel cs = cs := by
    simpa [splitCamel] using splitCamel_append hcs []
  rw [splitWords, hcamel, splitAcronyms_eq_self fun c hc => (Bool.or_eq_false_iff.1 (hcs c hc)).1]

/-- A word that goes on in lower case, whatever it begins with. -/
theorem splitWords_hump (hu : ∀ c ∈ u, isAsciiLower c = true) : splitWords (a :: u) = a :: u := by
  have hupper : ∀ c ∈ u, isAsciiUpper c = false := fun c hc => isAsciiUpper_of_lower (hu c hc)
  have hhead : ∀ b ∈ u.head?, isAsciiUpper b = false := fun b hb =>
    hupper b (List.mem_of_mem_head? hb)
  have hsplit := splitWords_of_no_upper hupper
  rw [splitWords, splitCamel_eq_self hupper] at hsplit
  rw [splitWords, splitCamel_cons fun b hb => by rw [hhead b hb, Bool.and_false],
    splitCamel_eq_self hupper, splitAcronyms_cons fun b hb => by rw [hhead b hb, Bool.and_false],
    hsplit]

/-- Such a word, and a capital after it. -/
theorem splitWords_hump_append (hne : u ≠ []) (hu : ∀ c ∈ u, isAsciiLower c = true)
    (hb : isAsciiUpper b = true) :
    splitWords (a :: u ++ b :: cs) = a :: u ++ '_' :: splitWords (b :: cs) := by
  have hupper : ∀ c ∈ u ++ ['_'], isAsciiUpper c = false := by
    intro c hc
    rcases List.mem_append.1 hc with hc | hc
    · exact isAsciiUpper_of_lower (hu c hc)
    · rw [List.mem_singleton.1 hc]
      rfl
  have hhead (rest : List Char) : ∀ x ∈ (u ++ rest).head?, isAsciiUpper x = false := by
    obtain ⟨x, u, rfl⟩ := List.exists_cons_of_ne_nil hne
    rintro _ ⟨⟩
    exact isAsciiUpper_of_lower (hu x List.mem_cons_self)
  -- The first pass splits before the next hump, and the second one leaves this hump alone.
  have hcamel : splitCamel (a :: (u ++ b :: cs)) = a :: (u ++ '_' :: splitCamel (b :: cs)) := by
    rw [splitCamel_cons fun x hx => by rw [hhead _ x hx, Bool.and_false],
      splitCamel_append_lower hne hu hb]
  have hlast : splitAcronyms (u ++ '_' :: splitCamel (b :: cs)) =
      u ++ '_' :: splitAcronyms (splitCamel (b :: cs)) := by
    simpa using splitAcronyms_append hupper (splitCamel (b :: cs))
  rw [splitWords, List.cons_append, hcamel,
    splitAcronyms_cons fun x hx => by rw [hhead _ x hx, Bool.and_false], hlast]
  rfl

/-- A word in capitals, and a capitalized one after it. -/
theorem splitWords_capitals_append (hne : u ≠ []) (hu : ∀ c ∈ u, isAsciiUpper c = true)
    (hb : isAsciiUpper b = true) (hc : isAsciiLower c = true) :
    splitWords (u ++ b :: c :: cs) = u ++ '_' :: splitWords (b :: c :: cs) := by
  -- The first pass keeps the two characters that the second one looks at.
  have hkeep : ∃ rest, splitCamel (b :: c :: cs) = b :: c :: rest := by
    obtain ⟨rest, hrest⟩ := exists_splitCamel_cons c cs
    refine ⟨rest, ?_⟩
    rw [splitCamel_cons fun x hx => ?_, hrest]
    cases hx
    rw [isAsciiUpper_of_lower hc, Bool.and_false]
  obtain ⟨rest, hrest⟩ := hkeep
  rw [splitWords, splitCamel_append fun c hc => lower_or_digit_of_upper (hu c hc), splitWords,
    hrest, splitAcronyms_append_capitals hne hu hb hc]

end Split

namespace Word

variable (w : Word)

/-- The first two letters. -/
theorem exists_letters : ∃ a b l, w.letters = a :: b :: l ∧ isAsciiLower a = true ∧
    isAsciiLower b = true ∧ ∀ c ∈ l, isAsciiLower c = true := by
  obtain ⟨letters, htwo, hlower⟩ := w
  rcases letters with - | ⟨a, - | ⟨b, l⟩⟩
  · simp at htwo
  · simp at htwo
  · simp only [List.forall_mem_cons] at hlower
    exact ⟨a, b, l, rfl, hlower⟩

/-- A word that is not in capitals goes on in lower case. -/
theorem exists_hump {form : WordCase} (hform : form ≠ .capitals) :
    ∃ a u, w.write form = a :: u ∧ u ≠ [] ∧ ∀ c ∈ u, isAsciiLower c = true := by
  obtain ⟨a, b, l, hw, -, hb, hl⟩ := w.exists_letters
  cases form with
  | lower => exact ⟨a, b :: l, hw, List.cons_ne_nil _ _, List.forall_mem_cons.2 ⟨hb, hl⟩⟩
  | capitalized =>
    refine ⟨a.toUpper, b :: l, ?_, List.cons_ne_nil _ _, List.forall_mem_cons.2 ⟨hb, hl⟩⟩
    rw [write, hw, List.modifyHead_cons]
  | capitals => exact absurd rfl hform

theorem exists_capitalized : ∃ b c l, w.write .capitalized = b :: c :: l ∧
    isAsciiUpper b = true ∧ isAsciiLower c = true := by
  obtain ⟨a, b, l, hw, ha, hb, -⟩ := w.exists_letters
  exact ⟨a.toUpper, b, l, by rw [write, hw, List.modifyHead_cons], isAsciiUpper_toUpper ha, hb⟩

theorem capitals_ne_nil : w.write .capitals ≠ [] := by
  obtain ⟨a, b, l, hw, -⟩ := w.exists_letters
  rw [write, hw]
  exact List.cons_ne_nil _ _

theorem capitals_upper : ∀ c ∈ w.write .capitals, isAsciiUpper c = true := by
  intro x hx
  obtain ⟨c, hc, rfl⟩ := List.mem_map.1 hx
  exact isAsciiUpper_toUpper (w.lower c hc)

/-- A word that is not in lower case begins with a capital. -/
theorem exists_upper {form : WordCase} (hform : form ≠ .lower) :
    ∃ b l, w.write form = b :: l ∧ isAsciiUpper b = true := by
  cases form with
  | lower => exact absurd rfl hform
  | capitalized =>
    obtain ⟨b, c, l, hw, hb, -⟩ := w.exists_capitalized
    exact ⟨b, c :: l, hw, hb⟩
  | capitals =>
    obtain ⟨b, l, hl⟩ := List.exists_cons_of_ne_nil w.capitals_ne_nil
    exact ⟨b, l, hl, w.capitals_upper b (hl ▸ List.mem_cons_self)⟩

theorem map_toLower_write (form : WordCase) : (w.write form).map Char.toLower = w.letters := by
  have hletters {l : List Char} (hl : ∀ c ∈ l, isAsciiLower c = true) : l.map Char.toLower = l :=
    (List.map_congr_left fun c hc => toLower_of_lower (hl c hc)).trans (List.map_id' l)
  cases form with
  | lower => exact hletters w.lower
  | capitalized =>
    obtain ⟨a, b, l, hw, ha, hb, hl⟩ := w.exists_letters
    rw [write, hw, List.modifyHead_cons, List.map_cons, toLower_toUpper ha,
      hletters (List.forall_mem_cons.2 ⟨hb, hl⟩)]
  | capitals =>
    rw [write, List.map_map]
    exact (List.map_congr_left fun c hc => toLower_toUpper (w.lower c hc)).trans (List.map_id' _)

/-- Written words are made of ASCII letters. -/
theorem mem_write {form : WordCase} {c : Char} (hc : c ∈ w.write form) :
    isAsciiLower c = true ∨ isAsciiUpper c = true := by
  cases form with
  | lower => exact .inl (w.lower c hc)
  | capitalized =>
    obtain ⟨a, b, l, hw, ha, hb, hl⟩ := w.exists_letters
    rw [write, hw, List.modifyHead_cons] at hc
    rcases List.mem_cons.1 hc with rfl | hc
    · exact .inr (isAsciiUpper_toUpper ha)
    · rcases List.mem_cons.1 hc with rfl | hc
      exacts [.inl hb, .inl (hl c hc)]
  | capitals => exact .inr (w.capitals_upper c hc)

theorem splitWords_write (form : WordCase) : splitWords (w.write form) = w.write form := by
  by_cases hform : form = .capitals
  · rw [hform]
    exact splitWords_of_no_lower fun c hc => lower_or_digit_of_upper (w.capitals_upper c hc)
  · obtain ⟨a, u, hw, -, hu⟩ := w.exists_hump hform
    rw [hw]
    exact splitWords_hump hu

end Word

/-- Words without all capitals may be adjacent. -/
theorem humps_of_no_capitals {l : List (Word × WordCase)} (htail : ∀ x ∈ l.tail, x.2 ≠ .lower)
    (h : ∀ x ∈ l, x.2 ≠ .capitals) : Humps l where
  tail := htail
  capitals := List.Pairwise.isChain <| List.pairwise_of_forall_mem_list
    fun x hx _ _ hcapitals => h x hx hcapitals.1

/-- Humps are separated. -/
theorem splitWords_mixedCase {l : List (Word × WordCase)} (h : Humps l) :
    splitWords (mixedCase l) = ['_'].intercalate (l.map fun x => x.1.write x.2) := by
  induction l with
  | nil => rfl
  | cons x l ih =>
    rcases l with - | ⟨y, l⟩
    · simp [mixedCase, Word.splitWords_write]
    have hrest := ih ⟨fun z hz => h.tail z (List.mem_of_mem_tail hz), h.capitals.tail⟩
    have hy : y.2 ≠ .lower := h.tail y List.mem_cons_self
    have hadjacent : ¬(x.2 = .capitals ∧ y.2 = .capitals) := by
      have hchain := h.capitals
      rw [List.isChain_cons_cons] at hchain
      exact hchain.1
    have hsplit : splitWords (x.1.write x.2 ++ mixedCase (y :: l)) =
        x.1.write x.2 ++ '_' :: splitWords (mixedCase (y :: l)) := by
      rw [mixedCase, List.flatMap_cons]
      by_cases hx : x.2 = .capitals
      · -- The next word is capitalized: the second pass finds the boundary.
        have hcapitalized : y.2 = .capitalized := by
          cases hform : y.2 with
          | lower => exact absurd hform hy
          | capitalized => rfl
          | capitals => exact absurd ⟨hx, hform⟩ hadjacent
        obtain ⟨b, c, l', hw, hb, hc⟩ := y.1.exists_capitalized
        rw [hx, hcapitalized, hw]
        exact splitWords_capitals_append x.1.capitals_ne_nil x.1.capitals_upper hb hc
      · -- The next word begins with a capital: the first pass finds it.
        obtain ⟨a, u, hu, hne, hlower⟩ := x.1.exists_hump hx
        obtain ⟨b, l', hw, hb⟩ := y.1.exists_upper hy
        rw [hu, hw]
        exact splitWords_hump_append hne hlower hb
    rw [mixedCase, List.flatMap_cons, ← mixedCase, hsplit, hrest]
    simp

/-! ## Joined texts -/

section Joined

variable {separator : Char} {texts : List (List Char)}

theorem forall_mem_intercalate {P : Char → Prop} (hseparator : P separator)
    (htexts : ∀ t ∈ texts, ∀ c ∈ t, P c) : ∀ c ∈ [separator].intercalate texts, P c := by
  induction texts with
  | nil => exact fun c hc => absurd hc List.not_mem_nil
  | cons t texts ih =>
    obtain ⟨ht, htexts⟩ := List.forall_mem_cons.1 htexts
    rcases texts with - | ⟨t', texts⟩
    · simpa using ht
    · simp only [List.intercalate_cons_cons, List.forall_mem_append, List.forall_mem_singleton]
      exact ⟨⟨ht, hseparator⟩, ih htexts⟩

theorem map_intercalate (f : Char → Char) :
    ([separator].intercalate texts).map f = [f separator].intercalate (texts.map (·.map f)) := by
  induction texts with
  | nil => rfl
  | cons t texts ih =>
    rcases texts with - | ⟨t', texts⟩
    · simp
    · simpa using ih

end Joined

/-! ## Separated words -/

/-- How a text may be separated. -/
def IsSeparator (separator : Char) : Prop := separator = '_' ∨ separator = '-' ∨ separator = '.'

theorem IsSeparator.classes {separator : Char} (h : IsSeparator separator) :
    (isAsciiLower separator || isAsciiDigit separator) = false ∧ isAsciiUpper separator = false ∧
      separator.toLower = separator ∧ separator.toNat < 128 := by
  rcases h with rfl | rfl | rfl <;> decide

/-- The words of a key get separated. -/
def Separates (ws : List Word) (key : List Char) : Prop :=
  ∃ (separator : Char) (l : List (Word × WordCase)), IsSeparator separator ∧
    l.map Prod.fst = ws ∧ splitWords key = [separator].intercalate (l.map fun x => x.1.write x.2)

theorem separates_mixedCase {l : List (Word × WordCase)} (h : Humps l) :
    Separates (l.map Prod.fst) (mixedCase l) :=
  ⟨'_', l, .inl rfl, rfl, splitWords_mixedCase h⟩

/-- Words that are written in one way are separated already, and not split further. -/
theorem separates_separated {ws : List Word} {separator : Char} (hs : IsSeparator separator)
    {form : WordCase} (hform : form = .lower ∨ form = .capitals) :
    Separates ws (separated ws separator form) := by
  have hsplit : splitWords (separated ws separator form) = separated ws separator form := by
    obtain ⟨hlower, hupper, -⟩ := hs.classes
    rcases hform with rfl | rfl
    · refine splitWords_of_no_upper (forall_mem_intercalate hupper fun t ht c hc => ?_)
      obtain ⟨w, -, rfl⟩ := List.mem_map.1 ht
      exact isAsciiUpper_of_lower (w.lower c hc)
    · refine splitWords_of_no_lower (forall_mem_intercalate hlower fun t ht c hc => ?_)
      obtain ⟨w, -, rfl⟩ := List.mem_map.1 ht
      exact lower_or_digit_of_upper (w.capitals_upper c hc)
  refine ⟨separator, ws.map (·, form), hs, by simp [Function.comp_def], ?_⟩
  rw [hsplit, separated, List.map_map]
  rfl

/-- Every convention separates the words, by itself or by the passes over it. -/
theorem separates_of_spells {ws : List Word} {key : List Char} (h : Spells ws key) :
    Separates ws key := by
  cases h with
  | snakeCase => exact separates_separated (.inl rfl) (.inl rfl)
  | kebabCase => exact separates_separated (.inr (.inl rfl)) (.inl rfl)
  | dotted => exact separates_separated (.inr (.inr rfl)) (.inl rfl)
  | screamingSnakeCase => exact separates_separated (.inl rfl) (.inr rfl)
  -- Both camel cases are mixed case, of humps none of which is in capitals.
  | camelCase =>
    cases ws with
    | nil => exact ⟨'_', [], .inl rfl, rfl, rfl⟩
    | cons w ws =>
      have hmixed := separates_mixedCase (l := (w, .lower) :: ws.map (·, .capitalized))
        (humps_of_no_capitals (by simp) (by simp))
      simpa [mixedCase, camelCase, pascalCase, List.flatMap_map, Function.comp_def] using hmixed
  | pascalCase =>
    have hmixed := separates_mixedCase (l := ws.map (·, .capitalized))
      (humps_of_no_capitals (fun x hx => ?_) (by simp))
    · simpa [mixedCase, pascalCase, List.flatMap_map, Function.comp_def] using hmixed
    · obtain ⟨w, -, rfl⟩ := List.mem_map.1 (List.mem_of_mem_tail hx)
      simp
  | mixedCase hl hhumps => exact hl ▸ separates_mixedCase hhumps

/-! ## Normalizing -/

section Squeeze

variable {separator : Char} {u cs : List Char}

theorem squeeze_append (hu : ∀ c ∈ u, isAsciiLower c = true) (cs : List Char) :
    squeeze (u ++ cs) = u ++ squeeze cs := by
  induction u with
  | nil => rfl
  | cons a u ih =>
    obtain ⟨ha, hu⟩ := List.forall_mem_cons.1 hu
    rw [List.cons_append, squeeze, ha, Bool.true_or, if_pos rfl, ih hu, List.cons_append]

/-- The words of a key, joined by underscores. -/
def joinWords (ws : List Word) : List Char := ['_'].intercalate (ws.map Word.letters)

theorem joinWords_cons_cons (w w' : Word) (ws : List Word) :
    joinWords (w :: w' :: ws) = w.letters ++ '_' :: joinWords (w' :: ws) := by
  simp [joinWords]

/-- Joined words begin with a letter. -/
theorem exists_joinWords_cons (w : Word) (ws : List Word) :
    ∃ b rest, joinWords (w :: ws) = b :: rest ∧ b ≠ '_' := by
  obtain ⟨b, c, l, hw, hb, -⟩ := w.exists_letters
  cases ws with
  | nil => exact ⟨b, c :: l, by simp [joinWords, hw], ne_underscore hb⟩
  | cons w' ws => exact ⟨b, _, by rw [joinWords_cons_cons, hw]; rfl, ne_underscore hb⟩

/-- They end with one. -/
theorem exists_joinWords_concat (w : Word) (ws : List Word) :
    ∃ rest z, joinWords (w :: ws) = rest ++ [z] ∧ z ≠ '_' := by
  induction ws generalizing w with
  | nil =>
    have hne : w.letters ≠ [] := by
      obtain ⟨b, c, l, hw, -⟩ := w.exists_letters
      rw [hw]
      exact List.cons_ne_nil _ _
    refine ⟨w.letters.dropLast, w.letters.getLast hne, ?_, ?_⟩
    · rw [List.dropLast_append_getLast]
      simp [joinWords]
    · exact ne_underscore (w.lower _ (List.getLast_mem hne))
  | cons w' ws ih =>
    obtain ⟨rest, z, hrest, hz⟩ := ih w'
    exact ⟨w.letters ++ '_' :: rest, z, by rw [joinWords_cons_cons, hrest]; simp, hz⟩

theorem squeeze_joined (hseparator : IsSeparator separator) (ws : List Word) :
    squeeze ([separator].intercalate (ws.map Word.letters)) = joinWords ws := by
  induction ws with
  | nil => rfl
  | cons w ws ih =>
    rcases ws with - | ⟨w', ws⟩
    · simpa [squeeze, joinWords] using squeeze_append w.lower []
    · -- The next word begins with a letter: there is one underscore before it.
      obtain ⟨b, rest, hrest, hb⟩ := exists_joinWords_cons w' ws
      have hdrop : (joinWords (w' :: ws)).dropWhile (· = '_') = joinWords (w' :: ws) := by
        rw [hrest, List.dropWhile_cons_of_neg (by simpa using hb)]
      rw [List.map_cons, List.map_cons, List.intercalate_cons_cons, ← List.map_cons,
        List.append_assoc, squeeze_append w.lower, List.singleton_append, squeeze,
        hseparator.classes.1, if_neg Bool.false_ne_true, ih, hdrop, joinWords_cons_cons]

theorem stripWhile_joinWords (ws : List Word) :
    stripWhile (· = '_') (joinWords ws) = joinWords ws := by
  cases ws with
  | nil => rfl
  | cons w ws =>
    obtain ⟨b, rest, hrest, hb⟩ := exists_joinWords_cons w ws
    obtain ⟨init, z, hinit, hz⟩ := exists_joinWords_concat w ws
    rw [stripWhile, hrest, List.dropWhile_cons_of_neg (by simpa using hb), ← hrest, hinit,
      List.rdropWhile_concat_neg _ _ _ (by simpa using hz)]

end Squeeze

section

variable [Platform]

/-- What is left of a key to decide on. -/
def normalizeModelArgKey (key : String) : List Char :=
  stripWhile (· = '_')
    (squeeze (Platform.lower (String.ofList (splitWords key.toList))).toList)

/-- The kind of a key is that of its normalized text. -/
theorem modelArgKind_congr {key key' : String}
    (h : normalizeModelArgKey key = normalizeModelArgKey key') :
    (modelArgKind key).toOption = (modelArgKind key').toOption := by
  simp only [normalizeModelArgKey, splitWords] at h
  simp only [modelArgKind, h]
  -- The two differ in the key that the error names.
  split_ifs <;> rfl

/-! ## Spellings -/

/-- The words of a key are what is left of them, once they are separated. -/
theorem normalizeModelArgKey_joined (hlower : AsciiLower) {separator : Char}
    (hseparator : IsSeparator separator) {l : List (Word × WordCase)} {key : List Char}
    (hkey : splitWords key = [separator].intercalate (l.map fun x => x.1.write x.2)) :
    normalizeModelArgKey (String.ofList key) = joinWords (l.map Prod.fst) := by
  obtain ⟨-, -, hsame, hascii⟩ := hseparator.classes
  -- The words and the separator are ASCII, where lower-casing goes letter by letter.
  have htext : ∀ c ∈ splitWords key, c.toNat < 128 := by
    rw [hkey]
    refine forall_mem_intercalate hascii fun t ht c hc => ?_
    obtain ⟨x, -, rfl⟩ := List.mem_map.1 ht
    rcases x.1.mem_write hc with hc | hc
    · have := isAsciiLower_iff.1 hc
      omega
    · have := isAsciiUpper_iff.1 hc
      omega
  have hwords : (l.map fun x => x.1.write x.2).map (·.map Char.toLower) =
      (l.map Prod.fst).map Word.letters := by
    simp [Function.comp_def, Word.map_toLower_write]
  rw [normalizeModelArgKey, String.toList_ofList, hlower _ (by simpa using htext),
    String.toList_ofList, String.toList_ofList, hkey, map_intercalate, hsame, hwords,
    squeeze_joined hseparator, stripWhile_joinWords]

/-- All spellings of a list of words are normalized to the same text. -/
theorem normalizeModelArgKey_of_spells (hlower : AsciiLower) {ws : List Word} {key : List Char}
    (h : Spells ws key) : normalizeModelArgKey (String.ofList key) = joinWords ws := by
  obtain ⟨separator, l, hseparator, rfl, hkey⟩ := separates_of_spells h
  exact normalizeModelArgKey_joined hlower hseparator hkey

/-- The kind of an argument, and whether it is rejected, does not depend on the
    naming convention of its key. -/
theorem modelArgKind_spelling (hlower : AsciiLower) {ws : List Word} {key key' : List Char}
    (h : Spells ws key) (h' : Spells ws key') :
    (modelArgKind (String.ofList key)).toOption = (modelArgKind (String.ofList key')).toOption := by
  refine modelArgKind_congr ?_
  rw [normalizeModelArgKey_of_spells hlower h, normalizeModelArgKey_of_spells hlower h']

end

/-- The words `my`, `api` and `key`. -/
def Word.sample : List Word :=
  [⟨['m', 'y'], by simp, by simp [isAsciiLower]⟩,
   ⟨['a', 'p', 'i'], by simp, by simp [isAsciiLower]⟩,
   ⟨['k', 'e', 'y'], by simp, by simp [isAsciiLower]⟩]

/-- `myAPIKey` and `my_api_key`. -/
theorem modelArgKind_spelling_sample :
    let key := mixedCase (Word.sample.zip [.lower, .capitals, .capitalized])
    let key' := snakeCase Word.sample
    String.ofList key = "myAPIKey" ∧ String.ofList key' = "my_api_key" ∧
      (@modelArgKind .sample (String.ofList key)).toOption =
        (@modelArgKind .sample (String.ofList key')).toOption := by
  refine ⟨rfl, rfl, @modelArgKind_spelling .sample Platform.sample_lower Word.sample _ _
    (.mixedCase rfl ⟨?_, ?_⟩) .snakeCase⟩
  · simp [Word.sample]
  · simp [Word.sample]

end Cogindex
