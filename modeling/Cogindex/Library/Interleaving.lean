import Mathlib.Data.DFinsupp.WellFounded
import Mathlib.Logic.Function.Basic
import Mathlib.Logic.Relation

/-!
# Interleaving under a lock

Any number of processes share a store and a lock. In each step one of them
makes a move of its own or has one of its calls answered (`System.Step`); what
a call has to do with the lock is its `Kind`.

Processes that touch the store only between taking and leaving the lock
(`Discipline`) are serializable: every reachable configuration is one of the
*serial* system, in which a process goes through all of a section at once
(`System.SerialStep`), but for a section in progress (`System.Section`).

* `Discipline.serializable`: the theorem, for all interleavings;
* `Discipline.Separated.mutual_exclusion`: only the holder of the lock is inside.
-/

namespace Interleaving

open Function

/-- What a call has to do with the lock. -/
inductive Kind
  | plain
  | enter
  | leave
  deriving DecidableEq

/-- Processes with the states `Λ`, over the calls `C` with the responses `R` or
    errors `ε`, and a store with the states `σ`. -/
structure System (ι Λ σ C : Type*) (R : C → Type*) (ε : Type*) where
  /-- The moves of a process by itself. -/
  internal : ι → Λ → Λ → Prop
  /-- The call that a process awaits, and how it goes on. -/
  awaits : Λ → Option ((c : C) × (Except ε (R c) → Λ))
  kind : C → Kind
  /-- The answers of the store. -/
  step : (c : C) → σ → Except ε (R c) → σ → Prop

/-- The store, the holder of the lock, and the states of the processes. -/
@[ext]
structure Config (ι Λ σ : Type*) where
  store : σ
  holder : Option ι
  procs : ι → Λ

variable {ι Λ σ C : Type*} {R : C → Type*} {ε : Type*} [DecidableEq ι]

namespace System

variable (sys : System ι Λ σ C R ε)

/-- A step of one process. -/
inductive Step : Config ι Λ σ → Config ι Λ σ → Prop
  | internal {m : Config ι Λ σ} {i : ι} {l : Λ} (h : sys.internal i (m.procs i) l) :
    Step m ⟨m.store, m.holder, update m.procs i l⟩
  | plain {m : Config ι Λ σ} {i : ι} {c : C} {k : Except ε (R c) → Λ} {r : Except ε (R c)} {s : σ}
    (ha : sys.awaits (m.procs i) = some ⟨c, k⟩) (hc : sys.kind c = .plain)
    (hs : sys.step c m.store r s) : Step m ⟨s, m.holder, update m.procs i (k r)⟩
  /-- The lock is not taken: the call fails, or gives up waiting. -/
  | refused {m : Config ι Λ σ} {i : ι} {c : C} {k : Except ε (R c) → Λ} {e : ε} {s : σ}
    (ha : sys.awaits (m.procs i) = some ⟨c, k⟩) (hc : sys.kind c = .enter)
    (hs : sys.step c m.store (.error e) s) :
    Step m ⟨s, m.holder, update m.procs i (k (.error e))⟩
  | enter {m : Config ι Λ σ} {i : ι} {c : C} {k : Except ε (R c) → Λ} {v : R c} {s : σ}
    (ha : sys.awaits (m.procs i) = some ⟨c, k⟩) (hc : sys.kind c = .enter)
    (hfree : m.holder = none) (hs : sys.step c m.store (.ok v) s) :
    Step m ⟨s, some i, update m.procs i (k (.ok v))⟩
  | leave {m : Config ι Λ σ} {i : ι} {c : C} {k : Except ε (R c) → Λ} {r : Except ε (R c)} {s : σ}
    (ha : sys.awaits (m.procs i) = some ⟨c, k⟩) (hc : sys.kind c = .leave)
    (hheld : m.holder = some i) (hs : sys.step c m.store r s) :
    Step m ⟨s, none, update m.procs i (k r)⟩

/-- Plain calls of one process by itself. -/
inductive Within : Λ → σ → Λ → σ → Prop
  | refl {l : Λ} {s : σ} : Within l s l s
  | call {l l' : Λ} {s s' t : σ} {c : C} {k : Except ε (R c) → Λ} {r : Except ε (R c)}
    (h : Within l s l' s') (ha : sys.awaits l' = some ⟨c, k⟩) (hc : sys.kind c = .plain)
    (hs : sys.step c s' r t) : Within l s (k r) t

/-- A process takes the lock and makes plain calls. -/
inductive Section (l : Λ) (s : σ) : Λ → σ → Prop
  | intro {c : C} {k : Except ε (R c) → Λ} {v : R c} {t : σ} {l' : Λ} {s' : σ}
    (ha : sys.awaits l = some ⟨c, k⟩) (hc : sys.kind c = .enter) (hs : sys.step c s (.ok v) t)
    (h : sys.Within (k (.ok v)) t l' s') : Section l s l' s'

/-- A step of the serial system: the calls of a section are answered at once,
    and other calls leave the store as it is; they may have been answered in any
    good state of it. -/
inductive SerialStep (Good : σ → Prop) : σ × (ι → Λ) → σ × (ι → Λ) → Prop
  | internal {b : σ} {ps : ι → Λ} {i : ι} {l : Λ} (h : sys.internal i (ps i) l) :
    SerialStep Good (b, ps) (b, update ps i l)
  | plain {b s t : σ} {ps : ι → Λ} {i : ι} {c : C} {k : Except ε (R c) → Λ} {r : Except ε (R c)}
    (ha : sys.awaits (ps i) = some ⟨c, k⟩) (hc : sys.kind c = .plain) (hgood : Good s)
    (hs : sys.step c s r t) : SerialStep Good (b, ps) (b, update ps i (k r))
  | refused {b s t : σ} {ps : ι → Λ} {i : ι} {c : C} {k : Except ε (R c) → Λ} {e : ε}
    (ha : sys.awaits (ps i) = some ⟨c, k⟩) (hc : sys.kind c = .enter) (hgood : Good s)
    (hs : sys.step c s (.error e) t) : SerialStep Good (b, ps) (b, update ps i (k (.error e)))
  | section {b s t : σ} {ps : ι → Λ} {i : ι} {l : Λ} {c : C} {k : Except ε (R c) → Λ}
    {r : Except ε (R c)} (h : sys.Section (ps i) b l s) (ha : sys.awaits l = some ⟨c, k⟩)
    (hc : sys.kind c = .leave) (hs : sys.step c s r t) :
    SerialStep Good (b, ps) (t, update ps i (k r))

/-- The serial configuration, or the one with a section of it in progress. -/
inductive InProgress (b : σ) (ps : ι → Λ) : Config ι Λ σ → Prop
  | free : InProgress b ps ⟨b, none, ps⟩
  | held {i : ι} {l : Λ} {s : σ} (h : sys.Section (ps i) b l s) :
    InProgress b ps ⟨s, some i, update ps i l⟩

end System

/-- Processes that touch the store only inside the lock. -/
structure Discipline (sys : System ι Λ σ C R ε) where
  /-- The states of the store that are ever reached. -/
  Good : σ → Prop
  Outside : ι → Λ → Prop
  Inside : ι → Λ → Prop
  good : ∀ {c s r t}, Good s → sys.step c s r t → Good t
  outside_internal : ∀ {i l l'}, Outside i l → sys.internal i l l' → Outside i l'
  outside_plain : ∀ {i l c k s r t}, Outside i l → sys.awaits l = some ⟨c, k⟩ →
    sys.kind c = .plain → Good s → sys.step c s r t → t = s ∧ Outside i (k r)
  outside_refused : ∀ {i l c k s e t}, Outside i l → sys.awaits l = some ⟨c, k⟩ →
    sys.kind c = .enter → Good s → sys.step c s (.error e) t → t = s ∧ Outside i (k (.error e))
  outside_enter : ∀ {i l c k s v t}, Outside i l → sys.awaits l = some ⟨c, k⟩ →
    sys.kind c = .enter → Good s → sys.step c s (.ok v) t → Inside i (k (.ok v))
  outside_leave : ∀ {i l c k}, Outside i l → sys.awaits l = some ⟨c, k⟩ → sys.kind c ≠ .leave
  inside_internal : ∀ {i l l'}, Inside i l → ¬sys.internal i l l'
  inside_plain : ∀ {i l c k s r t}, Inside i l → sys.awaits l = some ⟨c, k⟩ →
    sys.kind c = .plain → Good s → sys.step c s r t → Inside i (k r)
  inside_enter : ∀ {i l c k}, Inside i l → sys.awaits l = some ⟨c, k⟩ → sys.kind c ≠ .enter
  inside_leave : ∀ {i l c k s r t}, Inside i l → sys.awaits l = some ⟨c, k⟩ →
    sys.kind c = .leave → Good s → sys.step c s r t → Outside i (k r)

namespace Discipline

variable {sys : System ι Λ σ C R ε} (D : Discipline sys)

/-- Only the holder of the lock is inside. -/
structure Separated (m : Config ι Λ σ) : Prop where
  good : D.Good m.store
  outside : ∀ i, m.holder ≠ some i → D.Outside i (m.procs i)
  inside : ∀ i, m.holder = some i → D.Inside i (m.procs i)

variable {D} {m m' : Config ι Λ σ}

/-- A process that is outside, and stays there. -/
theorem Separated.update_outside (h : D.Separated m) {i : ι} (hi : m.holder ≠ some i) {l : Λ}
    (hl : D.Outside i l) : D.Separated ⟨m.store, m.holder, update m.procs i l⟩ where
  good := h.good
  outside := (forall_update_iff m.procs fun j l => m.holder ≠ some j → D.Outside j l).2
    ⟨fun _ => hl, fun j _ => h.outside j⟩
  inside := (forall_update_iff m.procs fun j l => m.holder = some j → D.Inside j l).2
    ⟨fun hheld => absurd hheld hi, fun j _ => h.inside j⟩

/-- The holder, which stays inside. -/
theorem Separated.update_inside (h : D.Separated m) {i : ι} (hi : m.holder = some i) {l : Λ} {s : σ}
    (hgood : D.Good s) (hl : D.Inside i l) : D.Separated ⟨s, m.holder, update m.procs i l⟩ where
  good := hgood
  outside := (forall_update_iff m.procs fun j l => m.holder ≠ some j → D.Outside j l).2
    ⟨fun hne => absurd hi hne, fun j _ => h.outside j⟩
  inside := (forall_update_iff m.procs fun j l => m.holder = some j → D.Inside j l).2
    ⟨fun _ => hl, fun j _ => h.inside j⟩

/-- A process that takes the lock. -/
theorem Separated.enter (h : D.Separated m) (hfree : m.holder = none) {i : ι} {l : Λ} {s : σ}
    (hgood : D.Good s) (hl : D.Inside i l) : D.Separated ⟨s, some i, update m.procs i l⟩ where
  good := hgood
  outside := (forall_update_iff m.procs fun j l => some i ≠ some j → D.Outside j l).2
    ⟨fun hne => absurd rfl hne, fun j _ _ => h.outside j (hfree ▸ nofun)⟩
  inside := (forall_update_iff m.procs fun j l => some i = some j → D.Inside j l).2
    ⟨fun _ => hl, fun _ hne hj => absurd (Option.some.inj hj).symm hne⟩

/-- A process that leaves the lock. -/
theorem Separated.leave (h : D.Separated m) {i : ι} (hheld : m.holder = some i) {l : Λ} {s : σ}
    (hgood : D.Good s) (hl : D.Outside i l) : D.Separated ⟨s, none, update m.procs i l⟩ where
  good := hgood
  outside := (forall_update_iff m.procs fun j l => none ≠ some j → D.Outside j l).2
    ⟨fun _ => hl, fun j hne _ => h.outside j fun hj => hne (Option.some.inj (hj.symm.trans hheld))⟩
  inside _ hj := absurd hj nofun

/-- Taking steps, and only the holder being inside. -/
theorem Separated.step (h : D.Separated m) (hs : sys.Step m m') : D.Separated m' := by
  -- Where the process is decides which of the conditions of the discipline apply.
  have hcases (i : ι) : D.Inside i (m.procs i) ∧ m.holder = some i ∨
      D.Outside i (m.procs i) ∧ m.holder ≠ some i := by
    by_cases hi : m.holder = some i
    exacts [.inl ⟨h.inside i hi, hi⟩, .inr ⟨h.outside i hi, hi⟩]
  cases hs with
  | @internal i l hmove =>
    rcases hcases i with ⟨hin, -⟩ | ⟨hout, hi⟩
    · exact absurd hmove (D.inside_internal hin)
    · exact h.update_outside hi (D.outside_internal hout hmove)
  | @plain i c k r s ha hc hs =>
    rcases hcases i with ⟨hin, hi⟩ | ⟨hout, hi⟩
    · exact h.update_inside hi (D.good h.good hs) (D.inside_plain hin ha hc h.good hs)
    · obtain ⟨rfl, hl⟩ := D.outside_plain hout ha hc h.good hs
      exact h.update_outside hi hl
  | @refused i c k e s ha hc hs =>
    rcases hcases i with ⟨hin, -⟩ | ⟨hout, hi⟩
    · exact absurd hc (D.inside_enter hin ha)
    · obtain ⟨rfl, hl⟩ := D.outside_refused hout ha hc h.good hs
      exact h.update_outside hi hl
  | @enter i c k v s ha hc hfree hs =>
    have hout := h.outside i (hfree ▸ nofun)
    exact h.enter hfree (D.good h.good hs) (D.outside_enter hout ha hc h.good hs)
  | @leave i c k r s ha hc hheld hs =>
    exact h.leave hheld (D.good h.good hs) (D.inside_leave (h.inside i hheld) ha hc h.good hs)

theorem Separated.run (h : D.Separated m) (hs : Relation.ReflTransGen sys.Step m m') :
    D.Separated m' := by
  induction hs with
  | refl => exact h
  | tail _ hs ih => exact ih.step hs

omit [DecidableEq ι] in
/-- Only one process is inside. -/
theorem Separated.mutual_exclusion (h : D.Separated m) {i : ι}
    (hi : ¬D.Outside i (m.procs i)) : m.holder = some i :=
  not_not.1 fun hne => hi (h.outside i hne)

end Discipline

variable {sys : System ι Λ σ C R ε} {D : Discipline sys} {m m' : Config ι Λ σ}

/-- A step of another process leaves the section of the holder as it is. -/
theorem System.InProgress.update_other {b : σ} {ps : ι → Λ} {i j : ι} {l l' : Λ} {s : σ}
    (h : sys.Section (ps i) b l s) (hne : j ≠ i) :
    sys.InProgress b (update ps j l') ⟨s, some i, update (update ps i l) j l'⟩ := by
  rw [update_comm hne.symm]
  exact .held (by rwa [update_of_ne hne.symm])

/-- A step of a configuration with a section in progress is one of the serial
    system, or goes on with the section. -/
theorem System.InProgress.step {b : σ} {ps : ι → Λ} (h : D.Separated m) (hm : sys.InProgress b ps m)
    (hs : sys.Step m m') : ∃ x, Relation.ReflTransGen (sys.SerialStep D.Good) (b, ps) x ∧
      sys.InProgress x.1 x.2 m' := by
  cases hm with
  | free =>
    have hout (i : ι) : D.Outside i (ps i) := h.outside i nofun
    cases hs with
    | @internal i l hmove => exact ⟨_, .single (.internal hmove), .free⟩
    | @plain i c k r s ha hc hs =>
      obtain ⟨rfl, -⟩ := D.outside_plain (hout i) ha hc h.good hs
      exact ⟨_, .single (.plain ha hc h.good hs), .free⟩
    | @refused i c k e s ha hc hs =>
      obtain ⟨rfl, -⟩ := D.outside_refused (hout i) ha hc h.good hs
      exact ⟨_, .single (.refused ha hc h.good hs), .free⟩
    | enter ha hc _ hs => exact ⟨_, .refl, .held (.intro ha hc hs .refl)⟩
    | leave _ _ hheld => cases hheld
  | @held i l s hsection =>
    have hin : D.Inside i l := by
      have hin : D.Inside i (update ps i l i) := h.inside i rfl
      rwa [update_self] at hin
    have hproc {j : ι} (hne : j ≠ i) : update ps i l j = ps j := update_of_ne hne l ps
    have hout {j : ι} (hne : j ≠ i) : D.Outside j (ps j) :=
      hproc hne ▸ h.outside j fun hj => hne (Option.some.inj hj).symm
    cases hs with
    | @internal j l' hmove =>
      by_cases hj : j = i
      · subst hj
        simp only [update_self] at hmove
        exact absurd hmove (D.inside_internal hin)
      · simp only [hproc hj] at hmove
        exact ⟨_, .single (.internal hmove), .update_other hsection hj⟩
    | @plain j c k r t ha hc hs =>
      by_cases hj : j = i
      · -- The holder goes on with its section.
        subst hj
        simp only [update_self] at ha
        obtain ⟨ha', hc', hs', hwithin⟩ := hsection
        simp only [update_idem]
        exact ⟨_, .refl, .held (.intro ha' hc' hs' (hwithin.call ha hc hs))⟩
      · simp only [hproc hj] at ha
        obtain ⟨rfl, -⟩ := D.outside_plain (hout hj) ha hc h.good hs
        exact ⟨_, .single (.plain ha hc h.good hs), .update_other hsection hj⟩
    | @refused j c k e t ha hc hs =>
      by_cases hj : j = i
      · subst hj
        simp only [update_self] at ha
        exact absurd hc (D.inside_enter hin ha)
      · simp only [hproc hj] at ha
        obtain ⟨rfl, -⟩ := D.outside_refused (hout hj) ha hc h.good hs
        exact ⟨_, .single (.refused ha hc h.good hs), .update_other hsection hj⟩
    | enter _ _ hfree => cases hfree
    | @leave j c k r t ha hc hheld hs =>
      obtain rfl := Option.some.inj hheld
      simp only [update_self] at ha
      simp only [update_idem]
      exact ⟨_, .single (.section hsection ha hc hs), .free⟩

/-- Every reachable configuration is one of the serial system, but for a
    section in progress. -/
theorem Discipline.serializable {s : σ} {ps : ι → Λ} (hgood : D.Good s)
    (hout : ∀ i, D.Outside i (ps i))
    (h : Relation.ReflTransGen sys.Step ⟨s, none, ps⟩ m) :
    D.Separated m ∧ ∃ x, Relation.ReflTransGen (sys.SerialStep D.Good) (s, ps) x ∧
      sys.InProgress x.1 x.2 m := by
  have hinit : D.Separated ⟨s, none, ps⟩ := ⟨hgood, fun i _ => hout i, fun i hi => absurd hi nofun⟩
  refine ⟨hinit.run h, ?_⟩
  induction h with
  | refl => exact ⟨_, .refl, .free⟩
  | tail hrun hs ih =>
    obtain ⟨⟨b, ps'⟩, hserial, hprogress⟩ := ih
    obtain ⟨x, hx, hprogress'⟩ := hprogress.step (hinit.run hrun) hs
    exact ⟨x, hserial.trans hx, hprogress'⟩

/-! ## Processes that end -/

/-- Finitely many processes, one of which gets closer to its end in each step. -/
theorem wellFounded_update [Finite ι] {r : Λ → Λ → Prop} (hr : WellFounded r) :
    WellFounded fun ps qs : ι → Λ => ∃ i l, r l (qs i) ∧ ps = update qs i l := by
  refine Subrelation.wf ?_ (Pi.Lex.wellFounded (WellOrderingRel : ι → ι → Prop) fun _ => hr)
  rintro ps qs ⟨i, l, hl, rfl⟩
  refine ⟨i, fun j hj => ?_, by rwa [update_self]⟩
  have hne : j ≠ i := by
    rintro rfl
    exact irrefl_of WellOrderingRel j hj
  exact update_of_ne hne _ _

/-! ## Processes that run others -/

/-- A process that runs another one now and then. -/
structure Nesting (Λ Λ' : Type*) where
  /-- What a process runs, if it does. -/
  active : Λ → Option Λ'
  /-- A process that runs something else. -/
  resume : Λ → Λ' → Λ
  active_resume : ∀ l a, active (resume l a) = some a
  resume_active : ∀ {l a}, active l = some a → resume l a = l
  resume_resume : ∀ l a b, resume (resume l a) b = resume l b

namespace Nesting

variable {Λ' : Type*} (N : Nesting Λ Λ')

/-- What a process awaits is what it runs awaits. -/
def awaits (f : Λ' → Option ((c : C) × (Except ε (R c) → Λ'))) (l : Λ) :
    Option ((c : C) × (Except ε (R c) → Λ)) :=
  (N.active l).bind fun a => (f a).map fun x => ⟨x.1, fun r => N.resume l (x.2 r)⟩

variable {N} in
theorem awaits_eq_some {f : Λ' → Option ((c : C) × (Except ε (R c) → Λ'))} {l : Λ} {c : C}
    {k : Except ε (R c) → Λ} (h : N.awaits f l = some ⟨c, k⟩) :
    ∃ a k', N.active l = some a ∧ f a = some ⟨c, k'⟩ ∧ k = fun r => N.resume l (k' r) := by
  obtain ⟨a, ha, hx⟩ := Option.bind_eq_some_iff.1 h
  obtain ⟨⟨c', k'⟩, hk', heq⟩ := Option.map_eq_some_iff.1 hx
  cases heq
  exact ⟨a, k', ha, hk', rfl⟩

variable (sub : System ι Λ' σ C R ε) (internal : ι → Λ → Λ → Prop)

/-- The processes that run those of a system, with moves of their own. -/
def system : System ι Λ σ C R ε where
  internal := internal
  awaits := N.awaits sub.awaits
  kind := sub.kind
  step := sub.step

variable {N sub internal} {l l' : Λ} {a : Λ'} {s s' : σ}

omit [DecidableEq ι] in
theorem within (h : (N.system sub internal).Within l s l' s') (hl : N.active l = some a) :
    ∃ a', l' = N.resume l a' ∧ sub.Within a s a' s' := by
  induction h with
  | refl => exact ⟨a, (N.resume_active hl).symm, .refl⟩
  | call _ ha hc hs ih =>
    obtain ⟨a', rfl, hwithin⟩ := ih
    obtain ⟨a'', k', ha'', hk', rfl⟩ := awaits_eq_some ha
    rw [N.active_resume] at ha''
    cases ha''
    exact ⟨_, N.resume_resume _ _ _, hwithin.call hk' hc hs⟩

omit [DecidableEq ι] in
/-- A section of a process is one of what it runs. -/
theorem «section» (h : (N.system sub internal).Section l s l' s') :
    ∃ a a', N.active l = some a ∧ l' = N.resume l a' ∧ sub.Section a s a' s' := by
  obtain ⟨ha, hc, hs, hwithin⟩ := h
  obtain ⟨a, k', hl, hk', rfl⟩ := awaits_eq_some ha
  obtain ⟨a', rfl, hwithin'⟩ := within hwithin (N.active_resume _ _)
  exact ⟨a, a', hl, N.resume_resume _ _ _, .intro hk' hc hs hwithin'⟩

/-- Processes that keep to a discipline in what they run, and do not move by
    themselves while that is inside. -/
def discipline (D : Discipline sub)
    (houtside : ∀ {i l l'}, internal i l l' → (∀ a ∈ N.active l, D.Outside i a) →
      ∀ a ∈ N.active l', D.Outside i a)
    (hinside : ∀ {i l l' a}, internal i l l' → N.active l = some a → ¬D.Inside i a) :
    Discipline (N.system sub internal) where
  Good := D.Good
  Outside i l := ∀ a ∈ N.active l, D.Outside i a
  Inside i l := ∃ a, N.active l = some a ∧ D.Inside i a
  good := D.good
  outside_internal h hmove := houtside hmove h
  outside_plain := by
    intro i l c k s r t h ha hc hs hstep
    obtain ⟨a, k', hl, hk', rfl⟩ := awaits_eq_some ha
    obtain ⟨rfl, hout⟩ := D.outside_plain (h a hl) hk' hc hs hstep
    exact ⟨rfl, fun b hb => Option.some.inj ((N.active_resume _ _).symm.trans hb) ▸ hout⟩
  outside_refused := by
    intro i l c k s e t h ha hc hs hstep
    obtain ⟨a, k', hl, hk', rfl⟩ := awaits_eq_some ha
    obtain ⟨rfl, hout⟩ := D.outside_refused (h a hl) hk' hc hs hstep
    exact ⟨rfl, fun b hb => Option.some.inj ((N.active_resume _ _).symm.trans hb) ▸ hout⟩
  outside_enter := by
    intro i l c k s v t h ha hc hs hstep
    obtain ⟨a, k', hl, hk', rfl⟩ := awaits_eq_some ha
    exact ⟨_, N.active_resume _ _, D.outside_enter (h a hl) hk' hc hs hstep⟩
  outside_leave := by
    intro i l c k h ha
    obtain ⟨a, k', hl, hk', rfl⟩ := awaits_eq_some ha
    exact D.outside_leave (h a hl) hk'
  inside_internal := by
    rintro i l l' ⟨a, hl, hin⟩ hmove
    exact hinside hmove hl hin
  inside_plain := by
    rintro i l c k s r t ⟨a, hl, hin⟩ ha hc hs hstep
    obtain ⟨a', k', hl', hk', rfl⟩ := awaits_eq_some ha
    cases hl.symm.trans hl'
    exact ⟨_, N.active_resume _ _, D.inside_plain hin hk' hc hs hstep⟩
  inside_enter := by
    rintro i l c k ⟨a, hl, hin⟩ ha
    obtain ⟨a', k', hl', hk', rfl⟩ := awaits_eq_some ha
    cases hl.symm.trans hl'
    exact D.inside_enter hin hk'
  inside_leave := by
    rintro i l c k s r t ⟨a, hl, hin⟩ ha hc hs hstep b hb
    obtain ⟨a', k', hl', hk', rfl⟩ := awaits_eq_some ha
    cases hl.symm.trans hl'
    cases (N.active_resume _ _).symm.trans hb
    exact D.inside_leave hin hk' hc hs hstep

end Nesting

end Interleaving
