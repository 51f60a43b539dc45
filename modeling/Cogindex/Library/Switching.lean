import Cogindex.Library.Coroutine
import Mathlib.Logic.Function.Basic
import Mathlib.Logic.Relation

/-!
# Coroutines that share a state

Coroutines of one event loop share a state. A coroutine runs until a call that
*suspends* it; what it does before that, to the state as well, no other coroutine
sees in between. While it is suspended, others run, and the state changes by
steps of a *rely* relation.

* `Safe`: a coroutine makes each suspending call `c` in a state with `P c`, and
  changes the state by steps of the relation only, whatever happens while it is
  suspended; there is one rule for each constructor and combinator;
* `safe_run`: in every run of any number of safe coroutines, beside an
  environment that steps by the relation, each call is made where it may be.
-/

namespace Coroutine

open Function Relation

/-- What coroutines share, between the calls that suspend them. -/
structure Switching (C : Type) (R : C → Type) (ε : Type) (σ : Type*) where
  /-- The calls at which others may run. -/
  suspends : C → Prop
  /-- The answers to the other calls. -/
  step : (c : C) → σ → Except ε (R c) → σ → Prop
  /-- What may happen to the state while a coroutine is suspended. -/
  rely : σ → σ → Prop
  refl : ∀ s, rely s s
  trans : ∀ {s t u}, rely s t → rely t u → rely s u

variable {C : Type} {R : C → Type} {ε α β : Type} {σ : Type*} (W : Switching C R ε σ)

/-- The answers to the calls that do not suspend a coroutine. -/
def Switching.Inner (c : C) (s : σ) (r : Except ε (R c)) (s' : σ) : Prop :=
  ¬W.suspends c ∧ W.step c s r s'

/-! ## Safety -/

section Safe

variable (P : C → σ → Prop)

/-- A coroutine that runs now keeps to the relation, makes its suspending calls
    where it may, and ends with `Q` or `E`. -/
def Safe : Coroutine C R ε α → (α → σ → Prop) → (ε → σ → Prop) → σ → Prop
  | ret a, Q, _, s => Q a s
  | raise e, _, E, s => E e s
  | await c k, Q, E, s =>
    (W.suspends c → P c s ∧ ∀ r s', W.rely s s' → Safe (k r) Q E s') ∧
      ∀ r s', W.Inner c s r s' → W.rely s s' ∧ Safe (k r) Q E s'

variable {W P} {Q Q' : α → σ → Prop} {E E' : ε → σ → Prop} {s t : σ}

theorem Safe.mono {p : Coroutine C R ε α} (h : Safe W P p Q E s) (hQ : ∀ a t, Q a t → Q' a t)
    (hE : ∀ e t, E e t → E' e t) : Safe W P p Q' E' s := by
  induction p generalizing s with
  | ret a => exact hQ _ _ h
  | raise e => exact hE _ _ h
  | await c k ih =>
    refine ⟨fun hc => ⟨(h.1 hc).1, fun r s' hs => ih r ((h.1 hc).2 r s' hs)⟩, fun r s' hs => ?_⟩
    exact ⟨(h.2 r s' hs).1, ih r (h.2 r s' hs).2⟩

theorem safe_bind {p : Coroutine C R ε α} {f : α → Coroutine C R ε β} {Q : β → σ → Prop} :
    Safe W P (p >>= f) Q E s ↔ Safe W P p (fun a t => Safe W P (f a) Q E t) E s := by
  induction p generalizing s with
  | ret a => exact Iff.rfl
  | raise e => exact Iff.rfl
  | await c k ih =>
    refine and_congr ?_ ?_
    · exact imp_congr_right fun _ => and_congr_right fun _ => forall_congr' fun r =>
        forall₂_congr fun s' _ => ih r
    · exact forall_congr' fun r => forall₂_congr fun s' _ => and_congr_right fun _ => ih r

/-- A suspending call, made where it may be; what happens meanwhile is kept track of. -/
theorem safe_suspend {c : C} {Q : R c → σ → Prop} (hc : W.suspends c) (hP : P c s)
    (hQ : ∀ v t, W.rely s t → Q v t) (hE : ∀ e t, W.rely s t → E e t) :
    Safe W P (call c) Q E s := by
  refine ⟨fun _ => ⟨hP, fun r t ht => ?_⟩, fun r t ht => absurd hc ht.1⟩
  cases r with
  | ok v => exact hQ v t ht
  | error e => exact hE e t ht

/-- A call that does not suspend the coroutine. -/
theorem safe_inner {c : C} {Q : R c → σ → Prop} (hc : ¬W.suspends c)
    (hrely : ∀ r t, W.step c s r t → W.rely s t) (hQ : ∀ v t, W.step c s (.ok v) t → Q v t)
    (hE : ∀ e t, W.step c s (.error e) t → E e t) : Safe W P (call c) Q E s := by
  refine ⟨fun h => absurd h hc, fun r t ht => ⟨hrely r t ht.2, ?_⟩⟩
  cases r with
  | ok v => exact hQ v t ht.2
  | error e => exact hE e t ht.2

theorem safe_ofExcept {x : Except ε α} : Safe W P (ofExcept x) Q E s ↔
    (∀ a, x = .ok a → Q a s) ∧ ∀ e, x = .error e → E e s := by
  cases x with
  | ok a => exact ⟨fun h => ⟨fun b hb => Except.ok.inj hb ▸ h, nofun⟩, fun h => h.1 a rfl⟩
  | error e => exact ⟨fun h => ⟨nofun, fun e' he => Except.error.inj he ▸ h⟩, fun h => h.2 e rfl⟩

/-- Either branch of a condition. -/
theorem safe_ite {c : Prop} [Decidable c] {p q : Coroutine C R ε α} (hp : c → Safe W P p Q E s)
    (hq : ¬c → Safe W P q Q E s) : Safe W P (if c then p else q) Q E s := by
  by_cases h : c
  · rw [if_pos h]
    exact hp h
  · rw [if_neg h]
    exact hq h

theorem safe_attempt {p : Coroutine C R ε α} {Q : Except ε α → σ → Prop} :
    Safe W P p.attempt Q E s ↔
      Safe W P p (fun a t => Q (.ok a) t) (fun e t => Q (.error e) t) s := by
  induction p generalizing s with
  | ret a => exact Iff.rfl
  | raise e => exact Iff.rfl
  | await c k ih =>
    refine and_congr ?_ ?_
    · exact imp_congr_right fun _ => and_congr_right fun _ => forall_congr' fun r =>
        forall₂_congr fun s' _ => ih r
    · exact forall_congr' fun r => forall₂_congr fun s' _ => and_congr_right fun _ => ih r

/-- The handler of a coroutine is run where the coroutine raises. -/
theorem safe_handle {p : Coroutine C R ε α} {f : ε → Coroutine C R ε α} :
    Safe W P (p.handle f) Q E s ↔ Safe W P p Q (fun e t => Safe W P (f e) Q E t) s := by
  rw [handle, safe_bind, safe_attempt]
  exact Iff.rfl

/-- The last coroutine of `finally'` runs where the body ends. -/
theorem safe_finally {p : Coroutine C R ε α} {last : Coroutine C R ε Unit} :
    Safe W P (p.finally' last) Q E s ↔
      Safe W P p (fun a t => Safe W P last (fun _ u => Q a u) E t)
        (fun e t => Safe W P last (fun _ u => E e u) E t) s := by
  rw [finally', safe_bind, safe_attempt]
  simp only [safe_bind, ofExcept_ok, ofExcept_error, Safe]

/-- Up to the next suspending call, a safe coroutine stays one. -/
theorem Safe.runs {p q : Coroutine C R ε α} (h : Safe W P p Q E s) (hr : Runs W.Inner p s q t) :
    W.rely s t ∧ Safe W P q Q E t := by
  induction hr with
  | refl => exact ⟨W.refl _, h⟩
  | await hs _ ih =>
    obtain ⟨hrely, h⟩ := h.2 _ _ hs
    obtain ⟨hrely', h⟩ := ih h
    exact ⟨W.trans hrely hrely', h⟩

end Safe

/-! ## Runs -/

/-- A coroutine in the event loop: ready to run, suspended in a call, or ended. -/
inductive Fiber (C : Type) (R : C → Type) (ε α : Type)
  | ready (p : Coroutine C R ε α)
  | suspended (c : C) (k : Except ε (R c) → Coroutine C R ε α)
  | ended (outcome : Except ε α)

/-- The shared state and the coroutines, with the suspending calls that were
    made, each with the state it was made in. -/
structure Loop (C : Type) (R : C → Type) (ε α : Type) (ι : Type) (σ : Type*) where
  shared : σ
  fibers : ι → Fiber C R ε α
  made : List (ι × C × σ)

/-- Coroutines that are all ready to run. -/
def Loop.start {ι : Type} (s : σ) (ps : ι → Coroutine C R ε α) : Loop C R ε α ι σ :=
  ⟨s, fun i => .ready (ps i), []⟩

variable {ι : Type} [DecidableEq ι] (environment : σ → σ → Prop)

/-- A step of the event loop. -/
inductive Switching.Step : Loop C R ε α ι σ → Loop C R ε α ι σ → Prop
  /-- A call is answered, in any way. -/
  | answer {m : Loop C R ε α ι σ} {i : ι} {c : C} {k : Except ε (R c) → Coroutine C R ε α}
    (hi : m.fibers i = .suspended c k) (r : Except ε (R c)) :
    Step m { m with fibers := update m.fibers i (.ready (k r)) }
  | suspend {m : Loop C R ε α ι σ} {i : ι} {p : Coroutine C R ε α} {c : C}
    {k : Except ε (R c) → Coroutine C R ε α} {s : σ} (hi : m.fibers i = .ready p)
    (hrun : Runs W.Inner p m.shared (await c k) s) (hc : W.suspends c) :
    Step m ⟨s, update m.fibers i (.suspended c k), m.made ++ [(i, c, s)]⟩
  | finish {m : Loop C R ε α ι σ} {i : ι} {p : Coroutine C R ε α} {outcome : Except ε α} {s : σ}
    (hi : m.fibers i = .ready p) (hrun : Runs W.Inner p m.shared (ofExcept outcome) s) :
    Step m ⟨s, update m.fibers i (.ended outcome), m.made⟩
  | environment {m : Loop C R ε α ι σ} {s : σ} (hs : environment m.shared s) :
    Step m { m with shared := s }

variable {W environment}

/-- A coroutine in the loop that stays safe, whatever others do. -/
def Fiber.Stable (W : Switching C R ε σ) (P : C → σ → Prop) (s : σ) : Fiber C R ε α → Prop
  | ready p => ∀ t, W.rely s t → Safe W P p (fun _ _ => True) (fun _ _ => True) t
  | suspended _ k => ∀ r t, W.rely s t → Safe W P (k r) (fun _ _ => True) (fun _ _ => True) t
  | ended _ => True

theorem Fiber.Stable.rely {P : C → σ → Prop} {s t : σ} {f : Fiber C R ε α}
    (h : f.Stable W P s) (ht : W.rely s t) : f.Stable W P t := by
  cases f with
  | ready p => exact fun u hu => h u (W.trans ht hu)
  | suspended c k => exact fun r u hu => h r u (W.trans ht hu)
  | ended outcome => trivial

variable {P : ι → C → σ → Prop} {m m' : Loop C R ε α ι σ}

/-- Every coroutine of the loop is stable, and every call was made where it may be. -/
structure Loop.Sound (W : Switching C R ε σ) (P : ι → C → σ → Prop) (s : σ)
    (m : Loop C R ε α ι σ) : Prop where
  stable : ∀ i, (m.fibers i).Stable W (P i) m.shared
  made : ∀ x ∈ m.made, P x.1 x.2.1 x.2.2
  since : W.rely s m.shared
  rely : ∀ x ∈ m.made, W.rely x.2.2 m.shared
  ordered : m.made.Pairwise fun x y => W.rely x.2.2 y.2.2

/-- A coroutine that moves the state by the relation, and others that do not run. -/
theorem Loop.Sound.update {s t : σ} (h : m.Sound W P s) (ht : W.rely m.shared t) {i : ι}
    {f : Fiber C R ε α} (hf : f.Stable W (P i) t) :
    Loop.Sound W P s ⟨t, update m.fibers i f, m.made⟩ where
  stable := (forall_update_iff m.fibers fun j f => f.Stable W (P j) t).2
    ⟨hf, fun j _ => (h.stable j).rely ht⟩
  made := h.made
  since := W.trans h.since ht
  rely x hx := W.trans (h.rely x hx) ht
  ordered := h.ordered

theorem Loop.Sound.step {s : σ} (henvironment : ∀ s t, environment s t → W.rely s t)
    (h : m.Sound W P s) (hs : W.Step environment m m') : m'.Sound W P s := by
  have hready {i : ι} {p : Coroutine C R ε α} (hi : m.fibers i = .ready p) :
      Safe W (P i) p (fun _ _ => True) (fun _ _ => True) m.shared := by
    have hstable := h.stable i
    rw [hi] at hstable
    exact hstable _ (W.refl _)
  cases hs with
  | @answer i c k hi r =>
    refine h.update (W.refl _) fun t ht => ?_
    have hstable := h.stable i
    rw [hi] at hstable
    exact hstable r t ht
  | @suspend i p c k t hi hrun hc =>
    obtain ⟨ht, hsafe⟩ := (hready hi).runs hrun
    have hupdate := h.update ht (f := .suspended c k) (hsafe.1 hc).2
    -- The call is made in the state that the coroutine has come to.
    refine ⟨hupdate.stable, List.forall_mem_append.2 ⟨h.made, fun x hx => ?_⟩, hupdate.since,
      List.forall_mem_append.2 ⟨hupdate.rely, fun x hx => ?_⟩, ?_⟩
    · obtain rfl := List.mem_singleton.1 hx
      exact (hsafe.1 hc).1
    · obtain rfl := List.mem_singleton.1 hx
      exact W.refl _
    · refine List.pairwise_append.2 ⟨h.ordered, List.pairwise_singleton _ _, fun x hx y hy => ?_⟩
      obtain rfl := List.mem_singleton.1 hy
      exact hupdate.rely x hx
  | @finish i p outcome t hi hrun =>
    exact h.update ((hready hi).runs hrun).1 trivial
  | @environment t ht =>
    have hrely := henvironment _ _ ht
    exact ⟨fun i => (h.stable i).rely hrely, h.made, W.trans h.since hrely,
      fun x hx => W.trans (h.rely x hx) hrely, h.ordered⟩

/-- Coroutines that are safe one by one are safe together. -/
theorem safe_run {s : σ} {ps : ι → Coroutine C R ε α}
    (henvironment : ∀ s t, environment s t → W.rely s t)
    (hps : ∀ i t, W.rely s t → Safe W (P i) (ps i) (fun _ _ => True) (fun _ _ => True) t)
    (hrun : ReflTransGen (W.Step environment) (.start s ps) m) : m.Sound W P s := by
  induction hrun with
  | refl => exact ⟨hps, fun _ hx => absurd hx List.not_mem_nil, W.refl _,
      fun _ hx => absurd hx List.not_mem_nil, .nil⟩
  | tail _ hs ih => exact ih.step henvironment hs

/-! ## One coroutine at a time -/

/-- The answers to the calls of a coroutine that runs alone, with the suspending
    calls, each with the state it was made in. -/
inductive Switching.Alone (W : Switching C R ε σ) :
    (c : C) → σ × List (C × σ) → Except ε (R c) → σ × List (C × σ) → Prop
  | inner {c : C} {s t : σ} {r : Except ε (R c)} (h : W.Inner c s r t) (made : List (C × σ)) :
    Alone W c (s, made) r (t, made)
  | suspend {c : C} (hc : W.suspends c) (s : σ) (made : List (C × σ)) (r : Except ε (R c)) :
    Alone W c (s, made) r (s, made ++ [(c, s)])

/-- What a coroutine does alone, it does in the loop while the others wait. -/
theorem runs_alone {i : ι} {fibers : ι → Fiber C R ε α} {p₀ p : Coroutine C R ε α}
    {outcome : Except ε α} {s₀ s t : σ} {made made' : List (C × σ)}
    {before : List (ι × C × σ)} (hinner : Runs W.Inner p₀ s₀ p s)
    (h : Runs W.Alone p (s, made) (ofExcept outcome) (t, made')) :
    ∃ rest, made' = made ++ rest ∧
      ReflTransGen (W.Step environment) ⟨s₀, update fibers i (.ready p₀), before⟩
        ⟨t, update fibers i (.ended outcome), before ++ rest.map fun x => (i, x)⟩ := by
  generalize hx : (s, made) = x at h
  generalize hy : (t, made') = y at h
  generalize hq : ofExcept outcome = q at h
  induction h generalizing p₀ s₀ s made before with
  | refl =>
    obtain ⟨rfl, rfl⟩ := Prod.mk.inj (hx.trans hy.symm)
    subst hq
    have hfinish : W.Step environment ⟨s₀, update fibers i (.ready p₀), before⟩
        ⟨_, update (update fibers i (.ready p₀)) i (.ended outcome), before⟩ :=
      .finish (update_self i _ fibers) hinner
    refine ⟨[], (List.append_nil _).symm, .single ?_⟩
    simpa using hfinish
  | @await c k r x x' y q hs _ ih =>
    subst hx
    cases hs with
    | inner h made =>
      exact ih (hinner.snoc h) rfl hy hq
    | suspend hc s made r =>
      obtain ⟨rest, hrest, hrun⟩ : ∃ rest, made' = made ++ [(c, s)] ++ rest ∧
          ReflTransGen (W.Step environment)
            ⟨s, update fibers i (.ready (k r)), before ++ [(i, c, s)]⟩
            ⟨t, update fibers i (.ended outcome),
              before ++ [(i, c, s)] ++ rest.map fun x => (i, x)⟩ := ih .refl rfl hy hq
      have hsuspend : W.Step environment ⟨s₀, update fibers i (.ready p₀), before⟩
          ⟨s, update (update fibers i (.ready p₀)) i (.suspended c k), before ++ [(i, c, s)]⟩ :=
        .suspend (update_self i _ fibers) hinner hc
      have hanswer : W.Step environment ⟨s, update fibers i (.suspended c k), before ++ [(i, c, s)]⟩
          ⟨s, update (update fibers i (.suspended c k)) i (.ready (k r)), before ++ [(i, c, s)]⟩ :=
        .answer (update_self i _ fibers) r
      refine ⟨(c, s) :: rest, by rw [hrest, List.append_assoc, List.singleton_append], ?_⟩
      simp only [update_idem] at hsuspend hanswer
      rw [List.map_cons, ← List.singleton_append, ← List.append_assoc]
      exact .head hsuspend (.head hanswer hrun)

/-- A coroutine of the loop that is ready may run alone, from here to its end. -/
theorem Loop.alone {m : Loop C R ε α ι σ} {i : ι} {p : Coroutine C R ε α} {outcome : Except ε α}
    {t : σ} {made : List (C × σ)} (hi : m.fibers i = .ready p)
    (h : Runs W.Alone p (m.shared, []) (ofExcept outcome) (t, made)) :
    ReflTransGen (W.Step environment) m
      ⟨t, update m.fibers i (.ended outcome), m.made ++ made.map fun x => (i, x)⟩ := by
  have hrun : ∃ rest, made = [] ++ rest ∧ ReflTransGen (W.Step environment)
      ⟨m.shared, update m.fibers i (.ready p), m.made⟩
      ⟨t, update m.fibers i (.ended outcome), m.made ++ rest.map fun x => (i, x)⟩ :=
    runs_alone .refl h
  rw [← hi, update_eq_self] at hrun
  obtain ⟨rest, rfl, hrun⟩ := hrun
  exact hrun

end Coroutine
