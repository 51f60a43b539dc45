import Cogindex.Library.Interleaving
import Cogindex.Locks

/-!
# Tasks and locks

Tasks that run concurrently in one event loop, each of them switching to the
others at every await, and whose calls may take the locks of one
`InProcessLockProvider`. A task that asks for a lock registers itself with the
provider, waits, and is then granted the lock or gives up.

For each scope this is a refinement of an `Interleaving.System` with one lock:
`TaskSystem.simulates` says that the provider, with all its entries that come
and go, does what a lock should do.
-/

namespace Cogindex

open Function Relation

/-- What a call has to do with the locks of the provider. -/
inductive LockOp
  | enter (scope : String)
  | leave (scope : String)
  deriving DecidableEq

/-- Tasks with the states `Λ`, over the calls `C`, and a store with the states `σ`. -/
structure TaskSystem (ι Λ σ C : Type) (R : C → Type) (ε : Type) where
  /-- The moves of a task by itself. -/
  internal : ι → Λ → Λ → Prop
  /-- The call that a task awaits, and how it goes on. -/
  awaits : Λ → Option ((c : C) × (Except ε (R c) → Λ))
  lockOp : C → Option LockOp
  /-- The answers of the store. -/
  step : (c : C) → σ → Except ε (R c) → σ → Prop

/-- The store, the lock provider, and the tasks. -/
structure Tasks (ι Λ σ : Type) where
  store : σ
  provider : InProcessLockProvider
  phase : ι → LockPhase
  procs : ι → Λ

/-- Tasks before any of them asked for a lock. -/
def Tasks.start {ι Λ σ : Type} (s : σ) (ps : ι → Λ) : Tasks ι Λ σ := ⟨s, {}, fun _ => .outside, ps⟩

variable {ι Λ σ C : Type} {R : C → Type} {ε : Type} [DecidableEq ι]

namespace TaskSystem

variable (sys : TaskSystem ι Λ σ C R ε)

/-- A step of one task. -/
inductive Step : Tasks ι Λ σ → Tasks ι Λ σ → Prop
  | internal {t : Tasks ι Λ σ} {i : ι} {l : Λ} (h : sys.internal i (t.procs i) l)
    (hp : ∀ scope e, t.phase i ≠ .waiting scope e) :
    Step t { t with procs := update t.procs i l }
  | plain {t : Tasks ι Λ σ} {i : ι} {c : C} {k : Except ε (R c) → Λ} {r : Except ε (R c)} {s : σ}
    (ha : sys.awaits (t.procs i) = some ⟨c, k⟩) (hc : sys.lockOp c = none)
    (hs : sys.step c t.store r s) : Step t { t with store := s, procs := update t.procs i (k r) }
  /-- The runtime fails before it asks the provider. -/
  | refused {t : Tasks ι Λ σ} {i : ι} {c : C} {k : Except ε (R c) → Λ} {scope : String} {e : ε}
    {s : σ} (ha : sys.awaits (t.procs i) = some ⟨c, k⟩) (hc : sys.lockOp c = some (.enter scope))
    (hp : t.phase i = .outside) (hs : sys.step c t.store (.error e) s) :
    Step t { t with store := s, procs := update t.procs i (k (.error e)) }
  | wait {t : Tasks ι Λ σ} {i : ι} {c : C} {k : Except ε (R c) → Λ} {scope : String}
    (ha : sys.awaits (t.procs i) = some ⟨c, k⟩) (hc : sys.lockOp c = some (.enter scope))
    (hp : t.phase i = .outside) (hscope : validateScope scope = .ok ())
    (hs : ∃ v s, sys.step c t.store (.ok v) s) :
    Step t { t with provider := (t.provider.enter scope).2
                    phase := update t.phase i (.waiting scope (t.provider.enter scope).1) }
  /-- A task that waits times out or is cancelled. -/
  | abandon {t : Tasks ι Λ σ} {i : ι} {c : C} {k : Except ε (R c) → Λ} {scope : String}
    {entry : EntryId} {e : ε} {s : σ} (ha : sys.awaits (t.procs i) = some ⟨c, k⟩)
    (hc : sys.lockOp c = some (.enter scope)) (hp : t.phase i = .waiting scope entry)
    (hs : sys.step c t.store (.error e) s) :
    Step t ⟨s, t.provider.leave scope entry, update t.phase i .outside,
      update t.procs i (k (.error e))⟩
  | acquired {t : Tasks ι Λ σ} {i : ι} {c : C} {k : Except ε (R c) → Λ} {scope : String}
    {entry : EntryId} {v : R c} {s : σ} (ha : sys.awaits (t.procs i) = some ⟨c, k⟩)
    (hc : sys.lockOp c = some (.enter scope)) (hp : t.phase i = .waiting scope entry)
    (hfree : (t.provider.entries entry).locked = false) (hs : sys.step c t.store (.ok v) s) :
    Step t ⟨s, t.provider.acquired entry, update t.phase i (.inside scope entry),
      update t.procs i (k (.ok v))⟩
  | leave {t : Tasks ι Λ σ} {i : ι} {c : C} {k : Except ε (R c) → Λ} {scope : String}
    {entry : EntryId} {r : Except ε (R c)} {s : σ} (ha : sys.awaits (t.procs i) = some ⟨c, k⟩)
    (hc : sys.lockOp c = some (.leave scope)) (hp : t.phase i = .inside scope entry)
    (hs : sys.step c t.store r s) :
    Step t ⟨s, (t.provider.release entry).leave scope entry, update t.phase i .outside,
      update t.procs i (k r)⟩

/-- What a call has to do with the lock of a scope. -/
def kindOf (scope : String) : Option LockOp → Interleaving.Kind
  | some (.enter sc) => if sc = scope then .enter else .plain
  | some (.leave sc) => if sc = scope then .leave else .plain
  | none => .plain

/-- The tasks, with only the lock of one scope. -/
def under (scope : String) : Interleaving.System ι Λ σ C R ε where
  internal := sys.internal
  awaits := sys.awaits
  kind c := kindOf scope (sys.lockOp c)
  step := sys.step

end TaskSystem

/-- The task that is inside the lock of a scope, if there is one. -/
def Holds (phase : ι → LockPhase) (scope : String) : Option ι → Prop
  | none => ∀ i e, phase i ≠ .inside scope e
  | some i => ∃ e, phase i = .inside scope e

section Holds

variable {phase : ι → LockPhase} {scope : String} {holder : Option ι} {i : ι} {l : LockPhase}

/-- A task that is not inside, before and after. -/
theorem Holds.update (h : Holds phase scope holder) (hi : ∀ e, phase i ≠ .inside scope e)
    (hl : ∀ e, l ≠ .inside scope e) : Holds (Function.update phase i l) scope holder := by
  cases holder with
  | none =>
    exact (forall_update_iff phase fun _ l => ∀ e, l ≠ .inside scope e).2 ⟨hl, fun j _ => h j⟩
  | some j =>
    obtain ⟨e, hj⟩ := h
    have hji : j ≠ i := by
      rintro rfl
      exact hi e hj
    exact ⟨e, by rwa [update_of_ne hji]⟩

variable [Fintype ι] {p : InProcessLockProvider} {e : EntryId}

omit [DecidableEq ι] in
/-- A lock that is free is held by nobody. -/
theorem Holds.eq_none (h : Holds phase scope holder) (hp : Coherent p phase)
    (hi : (phase i).ref = some (scope, e)) (hfree : (p.entries e).locked = false) :
    holder = none := by
  refine Option.eq_none_iff_forall_ne_some.2 ?_
  rintro j rfl
  obtain ⟨e', hj⟩ := h
  have he' := hp.registered j scope e' (by rw [hj]; rfl)
  obtain rfl := Option.some.inj ((hp.registered i scope e hi).symm.trans he')
  exact absurd ((hp.locked e).2 ⟨j, scope, hj⟩) (by rw [hfree]; exact Bool.false_ne_true)

omit [DecidableEq ι] in
/-- The task that is inside is the holder. -/
theorem Holds.eq_some (h : Holds phase scope holder) (hp : Coherent p phase)
    (hi : phase i = .inside scope e) : holder = some i := by
  cases holder with
  | none => exact absurd hi (h i e)
  | some j =>
    obtain ⟨e', hj⟩ := h
    rw [hp.inside_unique hj hi]

end Holds

namespace TaskSystem

variable {sys : TaskSystem ι Λ σ C R ε} [Fintype ι] {t t' : Tasks ι Λ σ}

omit [Fintype ι] in
/-- A step leaves the provider alone, or is one of the provider. -/
theorem Step.lock (hs : sys.Step t t') :
    (t'.provider = t.provider ∧ t'.phase = t.phase) ∨
      LockStep.Any (t.provider, t.phase) (t'.provider, t'.phase) := by
  cases hs with
  | internal => exact .inl ⟨rfl, rfl⟩
  | plain => exact .inl ⟨rfl, rfl⟩
  | refused => exact .inl ⟨rfl, rfl⟩
  | wait _ _ hi hscope => exact .inr ⟨_, _, .enter hscope hi⟩
  | abandon _ _ hi => exact .inr ⟨_, _, .abandon hi⟩
  | acquired _ _ hi hfree => exact .inr ⟨_, _, .granted hi hfree⟩
  | leave _ _ hi => exact .inr ⟨_, _, .exit hi⟩

theorem Step.coherent (hp : Coherent t.provider t.phase) (hs : sys.Step t t') :
    Coherent t'.provider t'.phase := by
  rcases hs.lock with ⟨hprovider, hphase⟩ | ⟨i, scope, hlock⟩
  · rwa [hprovider, hphase]
  · exact hlock.coherent hp

/-- A step of the tasks is one under the lock of each scope, or none at all. -/
theorem Step.simulates (hp : Coherent t.provider t.phase) {scope : String} {holder : Option ι}
    (h : Holds t.phase scope holder) (hs : sys.Step t t') :
    ∃ holder', Holds t'.phase scope holder' ∧ ReflTransGen (sys.under scope).Step
      ⟨t.store, holder, t.procs⟩ ⟨t'.store, holder', t'.procs⟩ := by
  cases hs with
  | internal hmove => exact ⟨holder, h, .single (.internal hmove)⟩
  | plain ha hc hs => exact ⟨holder, h, .single (.plain ha (congrArg (kindOf scope) hc) hs)⟩
  | @refused i c k sc e s ha hc _ hs =>
    have hkind : (sys.under scope).kind c = kindOf scope (some (.enter sc)) :=
      congrArg (kindOf scope) hc
    refine ⟨holder, h, .single ?_⟩
    by_cases hsc : sc = scope
    · exact .refused ha (hkind.trans (if_pos hsc)) hs
    · exact .plain ha (hkind.trans (if_neg hsc)) hs
  | wait ha hc hi _ _ =>
    refine ⟨holder, h.update (fun e => ?_) (fun e => nofun), .refl⟩
    rw [hi]
    nofun
  | @abandon i c k sc entry e s ha hc hi hs =>
    have hkind : (sys.under scope).kind c = kindOf scope (some (.enter sc)) :=
      congrArg (kindOf scope) hc
    refine ⟨holder, h.update (fun e => ?_) (fun e => nofun), .single ?_⟩
    · rw [hi]
      nofun
    · by_cases hsc : sc = scope
      · exact .refused ha (hkind.trans (if_pos hsc)) hs
      · exact .plain ha (hkind.trans (if_neg hsc)) hs
  | @acquired i c k sc entry v s ha hc hi hfree hs =>
    have hkind : (sys.under scope).kind c = kindOf scope (some (.enter sc)) :=
      congrArg (kindOf scope) hc
    by_cases hsc : sc = scope
    · -- The lock is free, so nobody holds it.
      subst hsc
      obtain rfl := h.eq_none hp (by rw [hi]; rfl) hfree
      exact ⟨some i, ⟨entry, update_self _ _ _⟩,
        .single (.enter ha (hkind.trans (if_pos rfl)) rfl hs)⟩
    · refine ⟨holder, h.update (fun e => ?_) (fun e heq => ?_),
        .single (.plain ha (hkind.trans (if_neg hsc)) hs)⟩
      · rw [hi]
        nofun
      · exact hsc (LockPhase.inside.inj heq).1
  | @leave i c k sc entry r s ha hc hi hs =>
    have hkind : (sys.under scope).kind c = kindOf scope (some (.leave sc)) :=
      congrArg (kindOf scope) hc
    by_cases hsc : sc = scope
    · subst hsc
      obtain rfl := h.eq_some hp hi
      refine ⟨none, (forall_update_iff t.phase fun _ l => ∀ e, l ≠ .inside sc e).2
        ⟨fun e => nofun, fun j hj e hinside => hj (hp.inside_unique hinside hi)⟩,
        .single (.leave ha (hkind.trans (if_pos rfl)) rfl hs)⟩
    · refine ⟨holder, h.update (fun e heq => ?_) (fun e => nofun),
        .single (.plain ha (hkind.trans (if_neg hsc)) hs)⟩
      exact hsc (LockPhase.inside.inj (hi.symm.trans heq)).1

/-- The tasks refine the system with the lock of each scope. -/
theorem simulates {s : σ} {ps : ι → Λ} (h : ReflTransGen sys.Step (.start s ps) t)
    (scope : String) : Coherent t.provider t.phase ∧ ∃ holder, Holds t.phase scope holder ∧
      ReflTransGen (sys.under scope).Step ⟨s, none, ps⟩ ⟨t.store, holder, t.procs⟩ := by
  induction h with
  | refl => exact ⟨.start, none, fun _ _ => nofun, .refl⟩
  | tail _ hs ih =>
    obtain ⟨hp, holder, hholds, hrun⟩ := ih
    obtain ⟨holder', hholds', hrun'⟩ := Step.simulates hp hholds hs
    exact ⟨hs.coherent hp, holder', hholds', hrun.trans hrun'⟩

/-- A task that waits awaits the lock of its scope. -/
def Waits (sys : TaskSystem ι Λ σ C R ε) (t : Tasks ι Λ σ) : Prop :=
  ∀ i scope e, t.phase i = .waiting scope e →
    ∃ c k, sys.awaits (t.procs i) = some ⟨c, k⟩ ∧ sys.lockOp c = some (.enter scope)

omit [Fintype ι] in
theorem Step.waits (h : sys.Waits t) (hs : sys.Step t t') : sys.Waits t' := by
  intro j scope e hj
  -- A task other than the one that made the step awaits what it awaited.
  have hother {i : ι} {l : Λ} (hne : j ≠ i) (hj : t.phase j = .waiting scope e) :
      ∃ c k, sys.awaits (update t.procs i l j) = some ⟨c, k⟩ ∧
        sys.lockOp c = some (.enter scope) := by
    rw [update_of_ne hne]
    exact h j scope e hj
  have hphase {i : ι} (l : LockPhase) (hl : l ≠ .waiting scope e)
      (hj : update t.phase i l j = .waiting scope e) : j ≠ i ∧ t.phase j = .waiting scope e := by
    by_cases hne : j = i
    · subst hne
      rw [update_self] at hj
      exact absurd hj hl
    · rw [update_of_ne hne] at hj
      exact ⟨hne, hj⟩
  cases hs with
  | internal _ hi =>
    refine hother ?_ hj
    rintro rfl
    exact hi scope e hj
  | plain ha hc _ =>
    refine hother ?_ hj
    rintro rfl
    obtain ⟨c', k', ha', hc'⟩ := h j scope e hj
    cases ha.symm.trans ha'
    cases hc.symm.trans hc'
  | refused _ _ hi _ =>
    refine hother ?_ hj
    rintro rfl
    cases hi.symm.trans hj
  | @wait i c k sc ha hc _ _ _ =>
    by_cases hne : j = i
    · subst hne
      simp only [update_self] at hj
      cases hj
      exact ⟨c, k, ha, hc⟩
    · simp only [update_of_ne hne] at hj
      exact h j scope e hj
  | abandon =>
    obtain ⟨hne, hj⟩ := hphase .outside nofun hj
    exact hother hne hj
  | acquired =>
    obtain ⟨hne, hj⟩ := hphase (.inside _ _) nofun hj
    exact hother hne hj
  | leave =>
    obtain ⟨hne, hj⟩ := hphase .outside nofun hj
    exact hother hne hj

omit [Fintype ι] in
/-- The scope of a task is one that a task asked for, and that was not rejected. -/
theorem Step.ref_scope {Q : String → Prop}
    (hQ : ∀ i c k scope, sys.awaits (t.procs i) = some ⟨c, k⟩ →
      sys.lockOp c = some (.enter scope) → validateScope scope = .ok () → Q scope)
    (h : ∀ i scope e, (t.phase i).ref = some (scope, e) → Q scope) (hs : sys.Step t t') :
    ∀ i scope e, (t'.phase i).ref = some (scope, e) → Q scope := by
  -- A step moves at most one task to another phase.
  have hupdate {i : ι} {l : LockPhase} (hl : ∀ scope e, l.ref = some (scope, e) → Q scope) :
      ∀ j scope e, (update t.phase i l j).ref = some (scope, e) → Q scope :=
    (forall_update_iff t.phase fun _ l => ∀ scope e, l.ref = some (scope, e) → Q scope).2
      ⟨hl, fun j _ => h j⟩
  cases hs with
  | internal => exact h
  | plain => exact h
  | refused => exact h
  | wait ha hc _ hscope =>
    refine hupdate fun scope e hl => ?_
    cases hl
    exact hQ _ _ _ _ ha hc hscope
  | abandon => exact hupdate fun scope e hl => nomatch hl
  | acquired _ _ hp =>
    refine hupdate fun scope e hl => ?_
    cases hl
    exact h _ _ _ (by rw [hp]; rfl)
  | leave => exact hupdate fun scope e hl => nomatch hl

end TaskSystem

end Cogindex
