import Mathlib.Logic.Basic
import Mathlib.Data.List.Forall2
import Mathlib.Data.Prod.Basic

/-!
# Coroutines

A coroutine computes between *awaits*: it returns, raises, or awaits the
response to a call and goes on with it (`Coroutine`). A response is a value or
an error, and it is the coroutine that decides what an error does: `call`
raises it, `attempt` hands it over, `finally'` runs a last coroutine first.

The world answers the calls: a *step* relation says which responses and next
states a call may have. `Runs` is the alternation of awaits and responses, and
`wp` its weakest preconditions, one rule per constructor and combinator:
`wp_runs` says that what they promise holds of every run. An executable world
takes a scripted fault (or none) at each call (`run`), and is the step relation
of all faults (`Scripted`); a world that scripts its faults itself (`exec`) runs
as this one does (`exists_run_of_exec`). A *monitor* follows the events of a
coroutine and says where its calls may be made (`Monitored`). Where the calls are
served by coroutines over other calls (`interpret`), what a monitor knows is related
to what another one knows of the interpretation (`monitored_interpret`), and what is
promised of a coroutine in one world to what is promised of its interpretation in
another (`wp_interpret`). A *candid* coroutine fails if, and only if, one of its
calls did (`Candid`).
-/

/-- A coroutine with the calls `C`, their responses `R`, the errors `ε` and the
    results `α`. -/
inductive Coroutine (C : Type) (R : C → Type) (ε α : Type)
  | ret (a : α)
  | raise (e : ε)
  | await (c : C) (k : Except ε (R c) → Coroutine C R ε α)

namespace Coroutine

variable {C : Type} {R : C → Type} {ε α β γ : Type}

/-- Going on with the result of a coroutine; an error ends it. -/
def bind : Coroutine C R ε α → (α → Coroutine C R ε β) → Coroutine C R ε β
  | ret a, f => f a
  | raise e, _ => raise e
  | await c k, f => await c fun r => (k r).bind f

instance : Monad (Coroutine C R ε) where
  pure := ret
  bind := bind

@[simp] theorem pure_eq (a : α) : (pure a : Coroutine C R ε α) = ret a := rfl

@[simp] theorem ret_bind (a : α) (f : α → Coroutine C R ε β) : ret a >>= f = f a := rfl

@[simp] theorem raise_bind (e : ε) (f : α → Coroutine C R ε β) :
    (raise e : Coroutine C R ε α) >>= f = raise e := rfl

@[simp] theorem await_bind (c : C) (k : Except ε (R c) → Coroutine C R ε α)
    (f : α → Coroutine C R ε β) : await c k >>= f = await c fun r => k r >>= f := rfl

theorem bind_ret (p : Coroutine C R ε α) : p >>= ret = p := by
  induction p with
  | ret a => rfl
  | raise e => rfl
  | await c k ih => exact congrArg (await c) (funext ih)

theorem bind_assoc' (p : Coroutine C R ε α) (f : α → Coroutine C R ε β)
    (g : β → Coroutine C R ε γ) : p >>= f >>= g = p >>= fun a => f a >>= g := by
  induction p with
  | ret a => rfl
  | raise e => rfl
  | await c k ih => exact congrArg (await c) (funext ih)

instance : LawfulMonad (Coroutine C R ε) :=
  LawfulMonad.mk' _ bind_ret (fun _ _ => rfl) bind_assoc'

/-- Awaiting a call, whose error is raised. -/
def call (c : C) : Coroutine C R ε (R c) := await c fun
  | .ok v => ret v
  | .error e => raise e

/-- A computation without awaits. -/
def ofExcept : Except ε α → Coroutine C R ε α
  | .ok a => ret a
  | .error e => raise e

@[simp] theorem ofExcept_ok (a : α) : (ofExcept (.ok a) : Coroutine C R ε α) = ret a := rfl

@[simp] theorem ofExcept_error (e : ε) : (ofExcept (.error e) : Coroutine C R ε α) = raise e := rfl

theorem ofExcept_injective : Function.Injective (ofExcept : Except ε α → Coroutine C R ε α)
  | .ok _, .ok _, h => congrArg Except.ok (ret.inj h)
  | .error _, .error _, h => congrArg Except.error (raise.inj h)
  | .ok _, .error _, h => nomatch h
  | .error _, .ok _, h => nomatch h

/-- The outcome of a coroutine: it never raises. -/
def attempt : Coroutine C R ε α → Coroutine C R ε (Except ε α)
  | ret a => ret (.ok a)
  | raise e => ret (.error e)
  | await c k => await c fun r => (k r).attempt

/-- A coroutine with a last one, run whether it returns or raises. -/
def finally' (body : Coroutine C R ε α) (last : Coroutine C R ε Unit) : Coroutine C R ε α := do
  let r ← body.attempt
  last
  ofExcept r

/-- A coroutine with a handler of its errors. -/
def handle (body : Coroutine C R ε α) (h : ε → Coroutine C R ε α) : Coroutine C R ε α := do
  match ← body.attempt with
  | .ok a => ret a
  | .error e => h e

/-- The passes of a loop, each of which awaits at least one call: where one of
    them ends without a result, the next one begins. -/
def next {τ : Type} (pass : τ → Coroutine C R ε (τ ⊕ α)) :
    Coroutine C R ε (τ ⊕ α) → Coroutine C R ε (τ ⊕ α)
  | ret (.inl t) => pass t
  | ret (.inr a) => ret (.inr a)
  | raise e => raise e
  | await c k => await c k

/-- Between two passes there is nothing left to do. -/
theorem next_ne {τ : Type} {pass : τ → Coroutine C R ε (τ ⊕ α)}
    (hpass : ∀ t t', pass t ≠ ret (.inl t')) {p : Coroutine C R ε (τ ⊕ α)} (t : τ) :
    next pass p ≠ ret (.inl t) := by
  rcases p with (t' | a) | e | ⟨c, k⟩
  exacts [hpass t' t, by simp [next], by simp [next], by simp [next]]

/-! ## Runs -/

variable {σ : Type*} (step : (c : C) → σ → Except ε (R c) → σ → Prop)

/-- A run from a coroutine in a state to what is left of it in a later state. -/
inductive Runs : Coroutine C R ε α → σ → Coroutine C R ε α → σ → Prop
  | refl {p : Coroutine C R ε α} {s : σ} : Runs p s p s
  | await {c : C} {k : Except ε (R c) → Coroutine C R ε α} {r : Except ε (R c)} {s s' t : σ}
      {p : Coroutine C R ε α} : step c s r s' → Runs (k r) s' p t → Runs (await c k) s p t

variable {step}

theorem Runs.trans {p q r : Coroutine C R ε α} {s t u : σ} (h : Runs step p s q t)
    (h' : Runs step q t r u) : Runs step p s r u := by
  induction h with
  | refl => exact h'
  | await hs _ ih => exact .await hs (ih h')

/-- A run goes on with one more call. -/
theorem Runs.snoc {p : Coroutine C R ε α} {c : C} {k : Except ε (R c) → Coroutine C R ε α}
    {r : Except ε (R c)} {s t u : σ} (h : Runs step p s (.await c k) t) (hs : step c t r u) :
    Runs step p s (k r) u :=
  h.trans (.await hs .refl)

/-- A call that is answered with a value. -/
theorem Runs.call {c : C} {v : R c} {s t : σ} (h : step c s (.ok v) t) :
    Runs step (call c) s (ret v) t :=
  .await h .refl

/-- The answer to a call is handed over. -/
theorem Runs.attempt_call {c : C} {r : Except ε (R c)} {s t : σ} (h : step c s r t) :
    Runs step (Coroutine.call c).attempt s (ret r) t := by
  cases r <;> exact .await h .refl

theorem Runs.ofExcept {x : Except ε α} {a : α} {s : σ} (h : x = .ok a) :
    Runs step (ofExcept x) s (ret a) s := by
  rw [h]
  exact .refl

/-- A coroutine runs, and then what goes on with its result. -/
theorem Runs.bind {p : Coroutine C R ε α} {a : α} {f : α → Coroutine C R ε β}
    {q : Coroutine C R ε β} {s t u : σ} (h : Runs step p s (ret a) t) (h' : Runs step (f a) t q u) :
    Runs step (p >>= f) s q u := by
  induction p generalizing s with
  | ret b =>
    cases h
    exact h'
  | raise e => cases h
  | await c k ih =>
    cases h with
    | await hs h => exact .await hs (ih _ h)

/-- An error ends a coroutine and what would go on with its result. -/
theorem Runs.bind_raise {p : Coroutine C R ε α} {e : ε} {f : α → Coroutine C R ε β} {s t : σ}
    (h : Runs step p s (raise e) t) : Runs step (p >>= f) s (raise e) t := by
  induction p generalizing s with
  | ret b => cases h
  | raise e' =>
    cases h
    exact .refl
  | await c k ih =>
    cases h with
    | await hs h => exact .await hs (ih _ h)

/-- A world that may answer every call in a way that keeps something lets a
    coroutine run to its end and keeps it. -/
theorem exists_runs_keeping {K : σ → σ → Prop} (hrefl : ∀ s, K s s)
    (htrans : ∀ s t u, K s t → K t u → K s u) (h : ∀ c s, ∃ r s', step c s r s' ∧ K s s')
    (p : Coroutine C R ε α) (s : σ) :
    ∃ (outcome : Except ε α) (t : σ), Runs step p s (ofExcept outcome) t ∧ K s t := by
  induction p generalizing s with
  | ret a => exact ⟨.ok a, s, .refl, hrefl s⟩
  | raise e => exact ⟨.error e, s, .refl, hrefl s⟩
  | await c k ih =>
    obtain ⟨r, s', hs, hk⟩ := h c s
    obtain ⟨outcome, t, ht, hkt⟩ := ih r s'
    exact ⟨outcome, t, .await hs ht, htrans s s' t hk hkt⟩

/-- A world that answers every call lets a coroutine run to its end. -/
theorem exists_runs (h : ∀ c s, ∃ r s', step c s r s') (p : Coroutine C R ε α) (s : σ) :
    ∃ (outcome : Except ε α) (t : σ), Runs step p s (ofExcept outcome) t := by
  have hkeeping (c : C) (s : σ) : ∃ r s', step c s r s' ∧ True := by
    obtain ⟨r, s', hs⟩ := h c s
    exact ⟨r, s', hs, trivial⟩
  obtain ⟨outcome, t, ht, -⟩ := exists_runs_keeping (K := fun _ _ => True) (fun _ => trivial)
    (fun _ _ _ _ _ => trivial) hkeeping p s
  exact ⟨outcome, t, ht⟩

/-- What is left of a coroutine after an answer. -/
inductive Answered : Coroutine C R ε α → Coroutine C R ε α → Prop
  | intro (c : C) (k : Except ε (R c) → Coroutine C R ε α) (r : Except ε (R c)) :
    Answered (k r) (await c k)

/-- A coroutine is not answered forever. -/
theorem wellFounded_answered : WellFounded (Answered (C := C) (R := R) (ε := ε) (α := α)) := by
  refine ⟨fun p => ?_⟩
  induction p with
  | ret a => exact ⟨_, fun q h => by cases h⟩
  | raise e => exact ⟨_, fun q h => by cases h⟩
  | await c k ih =>
    refine ⟨_, fun q h => ?_⟩
    cases h with
    | intro _ _ r => exact ih r

/-! ## Weakest preconditions -/

variable (step)

/-- The weakest precondition of a coroutine: however its calls are answered,
    a result `a` is reached with `Q a` and an error `e` with `E e`. -/
def wp : Coroutine C R ε α → (α → σ → Prop) → (ε → σ → Prop) → σ → Prop
  | ret a, Q, _, s => Q a s
  | raise e, _, E, s => E e s
  | await c k, Q, E, s => ∀ r s', step c s r s' → wp (k r) Q E s'

variable {step} {Q Q' : α → σ → Prop} {E E' : ε → σ → Prop} {s t : σ}

@[simp] theorem wp_ret (a : α) : wp step (ret a : Coroutine C R ε α) Q E s ↔ Q a s := Iff.rfl

@[simp] theorem wp_raise (e : ε) : wp step (raise e : Coroutine C R ε α) Q E s ↔ E e s := Iff.rfl

theorem wp_mono {p : Coroutine C R ε α} (h : wp step p Q E s) (hQ : ∀ a t, Q a t → Q' a t)
    (hE : ∀ e t, E e t → E' e t) : wp step p Q' E' s := by
  induction p generalizing s with
  | ret a => exact hQ _ _ h
  | raise e => exact hE _ _ h
  | await c k ih => exact fun r s' hs => ih r (h r s' hs)

theorem wp_bind {p : Coroutine C R ε α} {f : α → Coroutine C R ε β} {Q : β → σ → Prop} :
    wp step (p >>= f) Q E s ↔ wp step p (fun a t => wp step (f a) Q E t) E s := by
  induction p generalizing s with
  | ret a => exact Iff.rfl
  | raise e => exact Iff.rfl
  | await c k ih => exact forall_congr' fun r => forall₂_congr fun s' _ => ih r

theorem wp_call {c : C} {Q : R c → σ → Prop} : wp step (call c) Q E s ↔
    (∀ v s', step c s (.ok v) s' → Q v s') ∧ ∀ e s', step c s (.error e) s' → E e s' := by
  constructor
  · exact fun h => ⟨fun v s' hs => h (.ok v) s' hs, fun e s' hs => h (.error e) s' hs⟩
  · rintro ⟨hQ, hE⟩ (e | v) s' hs
    exacts [hE e s' hs, hQ v s' hs]

/-- A call that is always answered with a value. -/
theorem wp_call_ok {c : C} {Q : R c → σ → Prop}
    (h : ∀ r s', step c s r s' → ∃ v, r = .ok v ∧ Q v s') : wp step (call c) Q E s := by
  refine wp_call.2 ⟨fun v s' hs => ?_, fun e s' hs => ?_⟩
  · obtain ⟨w, hw, hQ⟩ := h _ _ hs
    exact Except.ok.inj hw ▸ hQ
  · obtain ⟨_, he, -⟩ := h _ _ hs
    cases he

theorem wp_ofExcept {x : Except ε α} : wp step (ofExcept x) Q E s ↔
    (∀ a, x = .ok a → Q a s) ∧ ∀ e, x = .error e → E e s := by
  cases x with
  | ok a => exact ⟨fun h => ⟨fun b hb => Except.ok.inj hb ▸ h, nofun⟩, fun h => h.1 a rfl⟩
  | error e => exact ⟨fun h => ⟨nofun, fun e' he => Except.error.inj he ▸ h⟩, fun h => h.2 e rfl⟩

/-- Either branch of a condition. -/
theorem wp_ite {c : Prop} [Decidable c] {p q : Coroutine C R ε α} (hp : c → wp step p Q E s)
    (hq : ¬c → wp step q Q E s) : wp step (if c then p else q) Q E s := by
  by_cases h : c
  · rw [if_pos h]
    exact hp h
  · rw [if_neg h]
    exact hq h

theorem wp_attempt {p : Coroutine C R ε α} {Q : Except ε α → σ → Prop} :
    wp step p.attempt Q E s ↔ wp step p (fun a t => Q (.ok a) t) (fun e t => Q (.error e) t) s := by
  induction p generalizing s with
  | ret a => exact Iff.rfl
  | raise e => exact Iff.rfl
  | await c k ih => exact forall_congr' fun r => forall₂_congr fun s' _ => ih r

/-- The last coroutine of `finally'` runs in the states the body ends in, and
    its own error replaces the outcome of the body. -/
theorem wp_finally {p : Coroutine C R ε α} {last : Coroutine C R ε Unit} :
    wp step (p.finally' last) Q E s ↔
      wp step p (fun a t => wp step last (fun _ u => Q a u) E t)
        (fun e t => wp step last (fun _ u => E e u) E t) s := by
  rw [finally', wp_bind, wp_attempt]
  simp only [wp_bind, ofExcept_ok, ofExcept_error, wp_ret, wp_raise]

/-- What the weakest precondition promises holds of every run. -/
theorem wp_runs {p q : Coroutine C R ε α} (hr : Runs step p s q t) (h : wp step p Q E s) :
    wp step q Q E t := by
  induction hr with
  | refl => exact h
  | await hs _ ih => exact ih (h _ _ hs)

/-! ## Calls -/

/-- Every call that a coroutine may make, whatever the responses, is one of `P`. -/
def AllCalls (P : C → Prop) : Coroutine C R ε α → Prop
  | ret _ => True
  | raise _ => True
  | await c k => P c ∧ ∀ r, (k r).AllCalls P

section AllCalls

variable {P P' : C → Prop}

theorem AllCalls.mono {p : Coroutine C R ε α} (h : p.AllCalls P) (hP : ∀ c, P c → P' c) :
    p.AllCalls P' := by
  induction p with
  | ret a => trivial
  | raise e => trivial
  | await c k ih => exact ⟨hP c h.1, fun r => ih r (h.2 r)⟩

theorem allCalls_call {c : C} (h : P c) : (call c : Coroutine C R ε (R c)).AllCalls P :=
  ⟨h, fun r => by cases r <;> trivial⟩

theorem allCalls_ofExcept (x : Except ε α) :
    (ofExcept x : Coroutine C R ε α).AllCalls P := by
  cases x <;> trivial

theorem AllCalls.bind {p : Coroutine C R ε α} {f : α → Coroutine C R ε β} (h : p.AllCalls P)
    (hf : ∀ a, (f a).AllCalls P) : (p >>= f).AllCalls P := by
  induction p with
  | ret a => exact hf a
  | raise e => trivial
  | await c k ih => exact ⟨h.1, fun r => ih r (h.2 r)⟩

theorem AllCalls.ite {c : Prop} [Decidable c] {p q : Coroutine C R ε α} (hp : c → p.AllCalls P)
    (hq : ¬c → q.AllCalls P) : (if c then p else q).AllCalls P := by
  by_cases h : c
  · rw [if_pos h]
    exact hp h
  · rw [if_neg h]
    exact hq h

theorem AllCalls.attempt {p : Coroutine C R ε α} (h : p.AllCalls P) : p.attempt.AllCalls P := by
  induction p with
  | ret a => trivial
  | raise e => trivial
  | await c k ih => exact ⟨h.1, fun r => ih r (h.2 r)⟩

theorem AllCalls.finally' {p : Coroutine C R ε α} {last : Coroutine C R ε Unit}
    (h : p.AllCalls P) (hlast : last.AllCalls P) : (p.finally' last).AllCalls P :=
  h.attempt.bind fun r => hlast.bind fun _ => by cases r <;> trivial

theorem AllCalls.handle {p : Coroutine C R ε α} {f : ε → Coroutine C R ε α} (h : p.AllCalls P)
    (hf : ∀ e, (f e).AllCalls P) : (p.handle f).AllCalls P :=
  h.attempt.bind fun
    | .ok _ => trivial
    | .error e => hf e

/-- What every call of a coroutine preserves holds at every point of a run. -/
theorem AllCalls.runs {p q : Coroutine C R ε α} (h : p.AllCalls P) {I : σ → Prop}
    (hI : ∀ c r s s', P c → I s → step c s r s' → I s') (hs : I s) (hr : Runs step p s q t) :
    I t := by
  induction hr with
  | refl => exact hs
  | await hstep _ ih => exact ih (h.2 _) (hI _ _ _ _ h.1 hs hstep)

/-- What every call of a coroutine preserves holds in every state that it ends in. -/
theorem AllCalls.wp {p : Coroutine C R ε α} (h : p.AllCalls P) {I : σ → Prop}
    (hI : ∀ c r s s', P c → I s → step c s r s' → I s') (hs : I s) :
    wp step p (fun _ => I) (fun _ => I) s := by
  induction p generalizing s with
  | ret a => exact hs
  | raise e => exact hs
  | await c k ih => exact fun r s' hstep => ih r (h.2 r) (hI c r s s' h.1 hs hstep)

end AllCalls

/-! ## Recorded worlds -/

/-- A call, and its response. -/
structure Event (C : Type) (R : C → Type) (ε : Type) where
  call : C
  response : Except ε (R call)

/-- The step relation of any world at all, which records the events. -/
def Records (c : C) (log : List (Event C R ε)) (r : Except ε (R c))
    (log' : List (Event C R ε)) : Prop :=
  log' = log ++ [⟨c, r⟩]

section Records

variable {log : List (Event C R ε)} {EL : ε → List (Event C R ε) → Prop}

theorem wp_records_call {c : C} {Q : R c → List (Event C R ε) → Prop}
    (hok : ∀ v, Q v (log ++ [⟨c, .ok v⟩])) (herr : ∀ e, EL e (log ++ [⟨c, .error e⟩])) :
    wp Records (call c) Q EL log :=
  wp_call.2 ⟨fun v _ h => h ▸ hok v, fun e _ h => h ▸ herr e⟩

/-- A call that is made only under a condition. -/
theorem wp_records_ite {P : Prop} [Decidable P] {c : C} {d : R c}
    {Q : R c → List (Event C R ε) → Prop} (hskip : ¬P → Q d log)
    (hok : P → ∀ v, Q v (log ++ [⟨c, .ok v⟩])) (herr : P → ∀ e, EL e (log ++ [⟨c, .error e⟩])) :
    wp Records (if P then call c else ret d) Q EL log :=
  wp_ite (fun h => wp_records_call (hok h) (herr h)) hskip

/-- What the weakest precondition promises holds of the whole record. -/
theorem wp_records {p : Coroutine C R ε α} {Q : α → List (Event C R ε) → Prop}
    (h : wp Records p Q EL []) {outcome : Except ε α}
    (hrun : Runs Records p [] (ofExcept outcome) log) :
    match outcome with
    | .ok a => Q a log
    | .error e => EL e log := by
  have hend := wp_runs hrun h
  cases outcome <;> exact hend

end Records

/-- What is recorded of a coroutine for each of a list of items: they take their
    turns, until one fails. -/
inductive EachRun (P : α → Except ε β → List (Event C R ε) → Prop) :
    List α → Except ε (List β) → List (Event C R ε) → Prop
  | nil : EachRun P [] (.ok []) []
  | cons {x : α} {xs : List α} {b : β} {outcome : Except ε (List β)}
    {events rest : List (Event C R ε)} (h : P x (.ok b) events)
    (hrest : EachRun P xs outcome rest) :
    EachRun P (x :: xs) (outcome.map (b :: ·)) (events ++ rest)
  | stopped {x : α} {xs : List α} {e : ε} {events : List (Event C R ε)}
    (h : P x (.error e) events) : EachRun P (x :: xs) (.error e) events

section EachRun

variable {P P' : α → Except ε β → List (Event C R ε) → Prop} {xs : List α}
  {outcome : Except ε (List β)} {events : List (Event C R ε)}

theorem EachRun.imp (h : EachRun P xs outcome events)
    (hP : ∀ x ∈ xs, ∀ r events, P x r events → P' x r events) : EachRun P' xs outcome events := by
  induction h with
  | nil => exact .nil
  | cons h _ ih =>
    exact .cons (hP _ List.mem_cons_self _ _ h) (ih fun x hx => hP x (List.mem_cons_of_mem _ hx))
  | stopped h => exact .stopped (hP _ List.mem_cons_self _ _ h)

/-- Items that come from others. -/
theorem EachRun.of_map {f : γ → α} {ys : List γ} (h : EachRun P (ys.map f) outcome events) :
    EachRun (fun y => P (f y)) ys outcome events := by
  induction ys generalizing outcome events with
  | nil =>
    cases h
    exact .nil
  | cons y ys ih =>
    cases h with
    | cons h hrest => exact .cons h (ih hrest)
    | stopped h => exact .stopped h

/-- If no item fails, there is one result for each of them. -/
theorem EachRun.forall₂ {bs : List β} (h : EachRun P xs (.ok bs) events) :
    List.Forall₂ (fun x b => ∃ events, P x (.ok b) events) xs bs := by
  generalize houtcome : (.ok bs : Except ε (List β)) = outcome at h
  induction h generalizing bs with
  | nil =>
    cases houtcome
    exact .nil
  | @cons _ _ _ outcome _ _ h _ ih =>
    cases outcome with
    | ok bs' =>
      cases houtcome
      exact .cons ⟨_, h⟩ (ih rfl)
    | error e => cases houtcome
  | stopped => cases houtcome

/-- A loop over items is recorded item by item. -/
theorem wp_records_mapM {f : α → Coroutine C R ε β}
    (h : ∀ x log, wp Records (f x)
      (fun b log' => ∃ events, log' = log ++ events ∧ P x (.ok b) events)
      (fun e log' => ∃ events, log' = log ++ events ∧ P x (.error e) events) log)
    (xs : List α) (log : List (Event C R ε)) :
    wp Records (xs.mapM f)
      (fun bs log' => ∃ events, log' = log ++ events ∧ EachRun P xs (.ok bs) events)
      (fun e log' => ∃ events, log' = log ++ events ∧ EachRun P xs (.error e) events) log := by
  induction xs generalizing log with
  | nil => exact ⟨[], (List.append_nil _).symm, .nil⟩
  | cons x xs ih =>
    rw [List.mapM_cons, wp_bind]
    refine wp_mono (h x log) ?_ ?_
    · rintro b _ ⟨events, rfl, hb⟩
      rw [wp_bind]
      refine wp_mono (ih _) ?_ ?_
      · rintro bs _ ⟨rest, rfl, hbs⟩
        exact ⟨events ++ rest, List.append_assoc _ _ _, .cons hb hbs⟩
      · rintro e _ ⟨rest, rfl, he⟩
        exact ⟨events ++ rest, List.append_assoc _ _ _, .cons hb he⟩
    · rintro e _ ⟨events, rfl, he⟩
      exact ⟨events, rfl, .stopped he⟩

end EachRun

/-! ## Monitors -/

section Monitored

variable (add : σ → Event C R ε → σ) (P : C → σ → Prop)

/-- A monitor with the states `σ` follows the events of a coroutine: whatever
    the responses, each call `c` is made where `P c` holds, and a result `a` is
    reached with `Q a` and an error `e` with `E e`. -/
def Monitored : Coroutine C R ε α → (α → σ → Prop) → (ε → σ → Prop) → σ → Prop
  | ret a, Q, _, s => Q a s
  | raise e, _, E, s => E e s
  | await c k, Q, E, s => P c s ∧ ∀ r, Monitored (k r) Q E (add s ⟨c, r⟩)

variable {add P}

theorem Monitored.mono {p : Coroutine C R ε α} (h : Monitored add P p Q E s)
    (hQ : ∀ a t, Q a t → Q' a t) (hE : ∀ e t, E e t → E' e t) : Monitored add P p Q' E' s := by
  induction p generalizing s with
  | ret a => exact hQ _ _ h
  | raise e => exact hE _ _ h
  | await c k ih => exact ⟨h.1, fun r => ih r (h.2 r)⟩

theorem monitored_bind {p : Coroutine C R ε α} {f : α → Coroutine C R ε β} {Q : β → σ → Prop} :
    Monitored add P (p >>= f) Q E s ↔
      Monitored add P p (fun a t => Monitored add P (f a) Q E t) E s := by
  induction p generalizing s with
  | ret a => exact Iff.rfl
  | raise e => exact Iff.rfl
  | await c k ih => exact and_congr_right fun _ => forall_congr' fun r => ih r

theorem monitored_call {c : C} {Q : R c → σ → Prop} (hP : P c s)
    (hQ : ∀ v, Q v (add s ⟨c, .ok v⟩)) (hE : ∀ e, E e (add s ⟨c, .error e⟩)) :
    Monitored add P (call c) Q E s := by
  refine ⟨hP, fun r => ?_⟩
  cases r with
  | ok v => exact hQ v
  | error e => exact hE e

theorem monitored_attempt {p : Coroutine C R ε α} {Q : Except ε α → σ → Prop} :
    Monitored add P p.attempt Q E s ↔
      Monitored add P p (fun a t => Q (.ok a) t) (fun e t => Q (.error e) t) s := by
  induction p generalizing s with
  | ret a => exact Iff.rfl
  | raise e => exact Iff.rfl
  | await c k ih => exact and_congr_right fun _ => forall_congr' fun r => ih r

/-- The handler of a coroutine is run where the coroutine raises. -/
theorem monitored_handle {p : Coroutine C R ε α} {f : ε → Coroutine C R ε α} :
    Monitored add P (p.handle f) Q E s ↔
      Monitored add P p Q (fun e t => Monitored add P (f e) Q E t) s := by
  rw [handle, monitored_bind, monitored_attempt]
  exact Iff.rfl

theorem monitored_ofExcept {x : Except ε α} : Monitored add P (ofExcept x) Q E s ↔
    (∀ a, x = .ok a → Q a s) ∧ ∀ e, x = .error e → E e s := by
  cases x with
  | ok a => exact ⟨fun h => ⟨fun b hb => Except.ok.inj hb ▸ h, nofun⟩, fun h => h.1 a rfl⟩
  | error e => exact ⟨fun h => ⟨nofun, fun e' he => Except.error.inj he ▸ h⟩, fun h => h.2 e rfl⟩

/-- Either branch of a condition. -/
theorem monitored_ite {c : Prop} [Decidable c] {p q : Coroutine C R ε α}
    (hp : c → Monitored add P p Q E s) (hq : ¬c → Monitored add P q Q E s) :
    Monitored add P (if c then p else q) Q E s := by
  by_cases h : c
  · rw [if_pos h]
    exact hp h
  · rw [if_neg h]
    exact hq h

/-- The last coroutine of `finally'` runs where the body ends. -/
theorem monitored_finally {p : Coroutine C R ε α} {last : Coroutine C R ε Unit} :
    Monitored add P (p.finally' last) Q E s ↔
      Monitored add P p (fun a t => Monitored add P last (fun _ u => Q a u) E t)
        (fun e t => Monitored add P last (fun _ u => E e u) E t) s := by
  rw [finally', monitored_bind, monitored_attempt]
  simp only [monitored_bind, ofExcept_ok, ofExcept_error, Monitored]

/-- The invariant `I` of a loop holds where a pass begins. -/
theorem monitored_next {τ : Type} {pass : τ → Coroutine C R ε (τ ⊕ α)} {I : τ → σ → Prop}
    {p : Coroutine C R ε (τ ⊕ α)}
    (hpass : ∀ t s, I t s → Monitored add P (pass t) (Sum.elim I Q) E s)
    (h : Monitored add P p (Sum.elim I Q) E s) :
    Monitored add P (next pass p) (Sum.elim I Q) E s := by
  rcases p with (t | a) | e | ⟨c, k⟩
  exacts [hpass t s h, h, h, h]

end Monitored

/-! ## Failures -/

/-- The error that a call is answered with. -/
def Event.error? (event : Event C R ε) : Option ε :=
  match event.response with
  | .ok _ => none
  | .error e => some e

section Failures

variable (A : (c : C) → Except ε (R c) → Prop) (failure : Event C R ε → Option ε)

/-- The step relation of a world that answers as `A` says, and keeps a list of
    the failures in its answers. -/
def Tallies (c : C) (fs : List ε) (r : Except ε (R c)) (fs' : List ε) : Prop :=
  A c r ∧ fs' = fs ++ (failure ⟨c, r⟩).toList

/-- A coroutine that neither hides a failure nor makes one up: it returns where
    nothing has failed, with a result of `G`, and raises one of the failures. -/
def Candid (p : Coroutine C R ε α) (G : α → Prop) : Prop :=
  ∀ fs, wp (Tallies A failure) p (fun a fs' => fs' = fs ∧ G a) (fun e fs' => e ∈ fs') fs

variable {A failure} {p : Coroutine C R ε α} {G : α → Prop} {G' : β → Prop}

theorem candid_ret {a : α} (h : G a) : Candid A failure (ret a : Coroutine C R ε α) G :=
  fun _ => ⟨rfl, h⟩

/-- A computation without awaits must not fail by itself. -/
theorem candid_ofExcept {x : Except ε α} {a : α} (hx : x = .ok a) (h : G a) :
    Candid A failure (ofExcept x : Coroutine C R ε α) G := by
  rw [hx]
  exact candid_ret h

/-- A call whose failures are the errors it is answered with. -/
theorem candid_call {c : C} {G : R c → Prop} (herr : ∀ e, failure ⟨c, .error e⟩ = some e)
    (hok : ∀ v, failure ⟨c, .ok v⟩ = none) (h : ∀ v, A c (.ok v) → G v) :
    Candid A failure (call c) G := by
  refine fun fs => wp_call.2 ⟨?_, ?_⟩
  · rintro v _ ⟨hv, rfl⟩
    rw [hok v]
    exact ⟨List.append_nil fs, h v hv⟩
  · rintro e _ ⟨-, rfl⟩
    rw [herr e]
    exact List.mem_append_right fs (List.mem_singleton.2 rfl)

theorem Candid.bind (h : Candid A failure p G) {f : α → Coroutine C R ε β}
    (hf : ∀ a, G a → Candid A failure (f a) G') : Candid A failure (p >>= f) G' := by
  refine fun fs => wp_bind.2 (wp_mono (h fs) ?_ fun _ _ => id)
  rintro a _ ⟨rfl, ha⟩
  exact hf a ha _

/-- Either branch of a condition. -/
theorem Candid.ite {P : Prop} [Decidable P] {q : Coroutine C R ε α}
    (hp : P → Candid A failure p G) (hq : ¬P → Candid A failure q G) :
    Candid A failure (if P then p else q) G :=
  fun fs => wp_ite (fun h => hp h fs) fun h => hq h fs

/-- A last coroutine that fails hides the failure of the body, but raises its own. -/
theorem Candid.finally' (h : Candid A failure p G) {last : Coroutine C R ε Unit}
    (hlast : Candid A failure last fun _ => True) : Candid A failure (p.finally' last) G := by
  refine fun fs => wp_finally.2 (wp_mono (h fs) ?_ fun e fs' he => ?_)
  · rintro a _ ⟨rfl, ha⟩
    exact wp_mono (hlast _) (fun _ _ hu => ⟨hu.1, ha⟩) fun _ _ => id
  · refine wp_mono (hlast fs') ?_ fun _ _ => id
    rintro - _ ⟨rfl, -⟩
    exact he

/-- Where every call may be answered without a failure, a coroutine may run to
    its end without one. -/
theorem exists_runs_tallies (h : ∀ c, ∃ v, A c (.ok v) ∧ failure ⟨c, .ok v⟩ = none)
    (p : Coroutine C R ε α) (fs : List ε) :
    ∃ outcome : Except ε α, Runs (Tallies A failure) p fs (ofExcept outcome) fs := by
  have hanswer (c : C) (fs : List ε) : ∃ r fs', Tallies A failure c fs r fs' ∧ fs' = fs := by
    obtain ⟨v, hv, hnone⟩ := h c
    exact ⟨.ok v, _, ⟨hv, rfl⟩, by rw [hnone]; exact List.append_nil fs⟩
  obtain ⟨outcome, _, hrun, rfl⟩ := exists_runs_keeping (K := fun fs fs' => fs' = fs)
    (fun _ => rfl) (fun _ _ _ hst htu => htu.trans hst) hanswer p fs
  exact ⟨outcome, hrun⟩

/-- A candid coroutine, run to its end, returns if, and only if, nothing failed,
    and raises one of the failures otherwise. -/
theorem Candid.runs (h : Candid A failure p G) {outcome : Except ε α} {fs : List ε}
    (hrun : Runs (Tallies A failure) p [] (ofExcept outcome) fs) :
    ((∃ a, outcome = .ok a ∧ G a) ↔ fs = []) ∧ ∀ e, outcome = .error e → e ∈ fs := by
  have hend := wp_runs hrun (h [])
  cases outcome with
  | ok a => exact ⟨⟨fun _ => hend.1, fun _ => ⟨a, rfl, hend.2⟩⟩, fun e he => by cases he⟩
  | error e =>
    refine ⟨⟨?_, fun hnil => ?_⟩, fun e' he => Except.error.inj he ▸ hend⟩
    · rintro ⟨a, ha, -⟩
      cases ha
    · exact absurd (hnil ▸ hend) List.not_mem_nil

end Failures

/-! ## Interpretation -/

section Interpretation

variable {C' : Type} {R' : C' → Type} (serve : (c : C) → Coroutine C' R' ε (R c))

/-- A coroutine whose calls are served by coroutines over other calls. -/
def interpret : Coroutine C R ε α → Coroutine C' R' ε α
  | ret a => ret a
  | raise e => raise e
  | await c k => (serve c).attempt >>= fun r => interpret (k r)

@[simp] theorem interpret_ret (a : α) :
    interpret serve (ret a : Coroutine C R ε α) = ret a := rfl

@[simp] theorem interpret_raise (e : ε) :
    interpret serve (raise e : Coroutine C R ε α) = raise e := rfl

theorem interpret_call (c : C) : interpret serve (call c) = serve c := by
  show ((serve c).attempt >>= fun r => interpret serve _) = serve c
  induction serve c with
  | ret a => rfl
  | raise e => rfl
  | await c' k ih => exact congrArg (await c') (funext ih)

theorem interpret_bind (p : Coroutine C R ε α) (f : α → Coroutine C R ε β) :
    interpret serve (p >>= f) = interpret serve p >>= fun a => interpret serve (f a) := by
  induction p with
  | ret a => rfl
  | raise e => rfl
  | await c k ih =>
    show ((serve c).attempt >>= fun r => interpret serve (k r >>= f)) = _
    simp only [ih]
    exact (bind_assoc' _ _ _).symm

theorem interpret_ofExcept (x : Except ε α) :
    interpret serve (ofExcept x : Coroutine C R ε α) = ofExcept x := by
  cases x <;> rfl

/-- Nothing is raised by an outcome, so only what goes on with it is attempted. -/
theorem attempt_attempt_bind (p : Coroutine C R ε α) (f : Except ε α → Coroutine C R ε β) :
    (p.attempt >>= f).attempt = p.attempt >>= fun r => (f r).attempt := by
  induction p with
  | ret a => rfl
  | raise e => rfl
  | await c k ih => exact congrArg (await c) (funext ih)

theorem interpret_attempt (p : Coroutine C R ε α) :
    interpret serve p.attempt = (interpret serve p).attempt := by
  induction p with
  | ret a => rfl
  | raise e => rfl
  | await c k ih =>
    show ((serve c).attempt >>= fun r => interpret serve (k r).attempt) =
      ((serve c).attempt >>= fun r => interpret serve (k r)).attempt
    rw [attempt_attempt_bind]
    exact congrArg _ (funext ih)

theorem interpret_finally (p : Coroutine C R ε α) (last : Coroutine C R ε Unit) :
    interpret serve (p.finally' last) = (interpret serve p).finally' (interpret serve last) := by
  simp only [finally', interpret_bind, interpret_attempt, interpret_ofExcept]

theorem interpret_ite {P : Prop} [Decidable P] (p q : Coroutine C R ε α) :
    interpret serve (if P then p else q) = if P then interpret serve p else interpret serve q :=
  apply_ite _ _ _ _

variable {serve} {add : σ → Event C R ε → σ} {P : C → σ → Prop} {σ' : Type*}
  {add' : σ' → Event C' R' ε → σ'} {P' : C' → σ' → Prop} {S : σ → σ' → Prop} {u : σ'}

/-- What a monitor knows of a coroutine holds of its interpretation, in the states that
    another monitor relates: it is enough that each call is served as it was allowed. -/
theorem monitored_interpret {p : Coroutine C R ε α} (hp : Monitored add P p Q E s)
    (hserve : ∀ c s u, P c s → S s u → Monitored add' P' (serve c)
      (fun v u' => S (add s ⟨c, .ok v⟩) u') (fun e u' => S (add s ⟨c, .error e⟩) u') u)
    (hsu : S s u) : Monitored add' P' (interpret serve p) (fun a u' => ∃ s', S s' u' ∧ Q a s')
      (fun e u' => ∃ s', S s' u' ∧ E e s') u := by
  induction p generalizing s u with
  | ret a => exact ⟨s, hsu, hp⟩
  | raise e => exact ⟨s, hsu, hp⟩
  | await c k ih =>
    refine monitored_bind.2 (monitored_attempt.2 ((hserve c s u hp.1 hsu).mono ?_ ?_))
    · exact fun v u' hu' => ih (.ok v) (hp.2 _) hu'
    · exact fun e u' hu' => ih (.error e) (hp.2 _) hu'

variable {step' : (c : C') → σ' → Except ε (R' c) → σ' → Prop}

/-- What the weakest precondition promises of a coroutine holds of its
    interpretation in another world: it is enough that serving a call ends as the
    call may be answered. -/
theorem wp_interpret {p : Coroutine C R ε α} (hp : wp step p Q E s)
    (hserve : ∀ c s u, S s u → wp step' (serve c)
      (fun v u' => ∃ s', step c s (.ok v) s' ∧ S s' u')
      (fun e u' => ∃ s', step c s (.error e) s' ∧ S s' u') u)
    (hsu : S s u) : wp step' (interpret serve p) (fun a u' => ∃ s', S s' u' ∧ Q a s')
      (fun e u' => ∃ s', S s' u' ∧ E e s') u := by
  induction p generalizing s u with
  | ret a => exact ⟨s, hsu, hp⟩
  | raise e => exact ⟨s, hsu, hp⟩
  | await c k ih =>
    refine wp_bind.2 (wp_attempt.2 (wp_mono (hserve c s u hsu) ?_ ?_))
    · rintro v u' ⟨s', hs, hu'⟩
      exact ih (.ok v) (hp _ _ hs) hu'
    · rintro e u' ⟨s', hs, hu'⟩
      exact ih (.error e) (hp _ _ hs) hu'

/-- A coroutine stays candid where each of its calls is served as it is answered. -/
theorem Candid.interpret {A : (c : C) → Except ε (R c) → Prop}
    {failure : Event C R ε → Option ε} {A' : (c : C') → Except ε (R' c) → Prop}
    {failure' : Event C' R' ε → Option ε} {p : Coroutine C R ε α} {G : α → Prop}
    (h : Candid A failure p G) (hserve : ∀ c fs, wp (Tallies A' failure') (serve c)
      (fun v => Tallies A failure c fs (.ok v)) (fun e => Tallies A failure c fs (.error e)) fs) :
    Candid A' failure' (interpret serve p) G := by
  refine fun fs => wp_mono (wp_interpret (S := Eq) (h fs) ?_ rfl) ?_ ?_
  · rintro c fs _ rfl
    exact wp_mono (hserve c fs) (fun _ u hu => ⟨u, hu, rfl⟩) fun _ u hu => ⟨u, hu, rfl⟩
  · rintro a _ ⟨_, rfl, ha⟩
    exact ha
  · rintro e _ ⟨_, rfl, he⟩
    exact he

/-- A run of a coroutine is one of its interpretation, if each answer is served. -/
theorem Runs.interpret {p q : Coroutine C R ε α} {t : σ} (h : Runs step p s q t)
    (hserve : ∀ c s r s' u, step c s r s' → S s u →
      ∃ u', Runs step' (serve c).attempt u (ret r) u' ∧ S s' u') (hsu : S s u) :
    ∃ u', Runs step' (interpret serve p) u (interpret serve q) u' ∧ S t u' := by
  induction h generalizing u with
  | refl => exact ⟨u, .refl, hsu⟩
  | await hs _ ih =>
    obtain ⟨u₁, hserved, hu₁⟩ := hserve _ _ _ _ u hs hsu
    obtain ⟨u₂, hrest, hu₂⟩ := ih hu₁
    exact ⟨u₂, hserved.bind hrest, hu₂⟩

end Interpretation

/-! ## Scripted worlds -/

variable {φ : Type} (perform : Option φ → (c : C) → σ → Except ε (R c) × σ)

/-- The step relation of a world that takes a fault at each call: any of its faults, or none. -/
def Scripted (c : C) (s : σ) (r : Except ε (R c)) (s' : σ) : Prop :=
  ∃ f, perform f c s = (r, s')

/-- The run of a coroutine under a script of faults, the outcome and the final
    state; calls after the end of the script have no fault. -/
def run : Coroutine C R ε α → List (Option φ) → σ → Except ε α × σ
  | ret a, _, s => (.ok a, s)
  | raise e, _, s => (.error e, s)
  | await c k, fs, s =>
    run (k (perform (fs.headD none) c s).1) fs.tail (perform (fs.headD none) c s).2

/-- The calls that a coroutine makes under a script of faults, failing ones included. -/
def trace : Coroutine C R ε α → List (Option φ) → σ → List C
  | ret _, _, _ => []
  | raise _, _, _ => []
  | await c k, fs, s =>
    c :: trace (k (perform (fs.headD none) c s).1) fs.tail (perform (fs.headD none) c s).2

theorem AllCalls.mem_trace {P : C → Prop} {p : Coroutine C R ε α} (h : p.AllCalls P)
    {fs : List (Option φ)} {c : C} (hc : c ∈ trace perform p fs s) : P c := by
  induction p generalizing fs s with
  | ret a => exact absurd hc List.not_mem_nil
  | raise e => exact absurd hc List.not_mem_nil
  | await c' k ih =>
    rcases List.mem_cons.1 hc with rfl | hc
    exacts [h.1, ih _ (h.2 _) hc]

/-- What the weakest precondition promises holds of every scripted run. -/
theorem wp_run {p : Coroutine C R ε α} {fs : List (Option φ)}
    (h : wp (Scripted perform) p Q E s) :
    (∀ a, (run perform p fs s).1 = .ok a → Q a (run perform p fs s).2) ∧
      ∀ e, (run perform p fs s).1 = .error e → E e (run perform p fs s).2 := by
  induction p generalizing fs s with
  | ret a => exact ⟨fun _ hb => Except.ok.inj hb ▸ h, nofun⟩
  | raise e => exact ⟨nofun, fun _ he => Except.error.inj he ▸ h⟩
  | await c k ih => exact ih _ (h _ _ ⟨fs.headD none, rfl⟩)

/-- The scripted run is one of the runs of the scripted world. -/
theorem runs_run (p : Coroutine C R ε α) (fs : List (Option φ)) (s : σ) :
    Runs (Scripted perform) p s (ofExcept (run perform p fs s).1) (run perform p fs s).2 := by
  induction p generalizing fs s with
  | ret a => exact .refl
  | raise e => exact .refl
  | await c k ih => exact .await ⟨fs.headD none, rfl⟩ (ih _ _ _)

/-- The step relation of a scripted world in which nothing fails. -/
def Unfaulted (c : C) (s : σ) (r : Except ε (R c)) (s' : σ) : Prop := perform none c s = (r, s')

/-- What the weakest precondition promises without faults holds of the run
    without faults. -/
theorem wp_run_nil {p : Coroutine C R ε α} (h : wp (Unfaulted perform) p Q E s) :
    (∀ a, (run perform p [] s).1 = .ok a → Q a (run perform p [] s).2) ∧
      ∀ e, (run perform p [] s).1 = .error e → E e (run perform p [] s).2 := by
  induction p generalizing s with
  | ret a => exact ⟨fun _ hb => Except.ok.inj hb ▸ h, nofun⟩
  | raise e => exact ⟨nofun, fun _ he => Except.error.inj he ▸ h⟩
  | await c k ih => exact ih _ (h _ _ rfl)

/-! ## Worlds that answer by themselves -/

variable {τ : Type}

/-- The run of a coroutine in a world that decides by its own state how it
    answers, the outcome and the final state. -/
def exec (answer : (c : C) → τ → Except ε (R c) × τ) :
    Coroutine C R ε α → τ → Except ε α × τ
  | ret a, t => (.ok a, t)
  | raise e, t => (.error e, t)
  | await c k, t => exec answer (k (answer c t).1) (answer c t).2

variable {answer : (c : C) → τ → Except ε (R c) × τ} {view : τ → σ} {budget : τ → ℕ}

/-- A world that answers as a scripted one does, and pays for each fault from a
    budget, runs a coroutine as the scripted world does under some script, and
    under none if it paid nothing. -/
theorem exists_run_of_exec (h : ∀ c t, ∃ f,
      perform f c (view t) = ((answer c t).1, view (answer c t).2) ∧
      budget (answer c t).2 ≤ budget t ∧ (f ≠ none → budget (answer c t).2 < budget t))
    (p : Coroutine C R ε α) (t : τ) : ∃ fs,
      run perform p fs (view t) = ((exec answer p t).1, view (exec answer p t).2) ∧
      budget (exec answer p t).2 ≤ budget t ∧
      (fs ≠ [] → budget (exec answer p t).2 < budget t) := by
  induction p generalizing t with
  | ret a => exact ⟨[], rfl, Nat.le_refl _, fun hne => absurd rfl hne⟩
  | raise e => exact ⟨[], rfl, Nat.le_refl _, fun hne => absurd rfl hne⟩
  | await c k ih =>
    obtain ⟨f, hanswer, hle, hlt⟩ := h c t
    obtain ⟨fs, hrun, hle', hlt'⟩ := ih (answer c t).1 (answer c t).2
    have hnext : run perform (k (perform f c (view t)).1) fs (perform f c (view t)).2 =
        ((exec answer (await c k) t).1, view (exec answer (await c k) t).2) := by
      rw [hanswer]
      exact hrun
    have htotal := Nat.le_trans hle' hle
    -- A script without faults is the empty one.
    cases f with
    | some f =>
      exact ⟨some f :: fs, hnext, htotal, fun _ => Nat.lt_of_le_of_lt hle' (hlt (by simp))⟩
    | none =>
      cases fs with
      | nil => exact ⟨[], hnext, htotal, fun hne => absurd rfl hne⟩
      | cons f fs =>
        exact ⟨none :: f :: fs, hnext, htotal, fun _ => Nat.lt_of_lt_of_le (hlt' (by simp)) hle⟩

end Coroutine
