import Cogindex.Identity
import Mathlib.Data.Fintype.Card

/-!
# In-process locks

`InProcessLockProvider` keeps one entry for each scope that a task holds or
waits for: an `asyncio.Lock`, and the number of its users. A task registers
itself at the entry of its scope before it waits, and the last one to go
removes the entry.

Entries are objects, so the model has them under identities: the provider maps
scopes to identities, and a task keeps the one that it got. That all tasks of a
scope have the same one, although entries come and go, is part of `Coherent`,
which every step of a task preserves (`LockStep.coherent`).

* `LockStep`: what a task does between two awaits.
* `mutex_without_leaks`: at most one task of a scope is inside, and the provider
  has exactly the entries that tasks use, with the number of their users.
-/

namespace Cogindex

open Function Relation

/-! ## The provider -/

/-- The identity of an entry. -/
abbrev EntryId : Type := ℕ

/-- One lock, and the holders and waiters that still reference it. -/
structure LockEntry where
  locked : Bool := false
  users : ℕ := 0

/-- The entries of the scopes, and all entries that were ever made, by their identities. -/
structure InProcessLockProvider where
  locks : Std.ExtTreeMap String EntryId := ∅
  entries : EntryId → LockEntry := fun _ => {}
  /-- The identity of the next entry. -/
  fresh : EntryId := 0

/-- A scope has to be non-empty and free of NUL. -/
def validateScope (scope : String) : Except PyError Unit :=
  if scope = "" then .error ⟨.valueError, "lock scope must be non-empty"⟩
  else if '\x00' ∈ scope.toList then
    .error ⟨.valueError, "lock scope must not contain NUL characters"⟩
  else .ok ()

namespace InProcessLockProvider

variable (p : InProcessLockProvider)

/-- Changing an entry. -/
def modify (e : EntryId) (f : LockEntry → LockEntry) : InProcessLockProvider :=
  { p with entries := update p.entries e (f (p.entries e)) }

/-- `self._locks.setdefault(scope, _LockEntry())`. -/
def setdefault (scope : String) : EntryId × InProcessLockProvider :=
  match p.locks[scope]? with
  | some e => (e, p)
  | none => (p.fresh, { locks := p.locks.insert scope p.fresh
                        entries := update p.entries p.fresh {}
                        fresh := p.fresh + 1 })

/-- A task starts to use the entry of a scope. -/
def enter (scope : String) : EntryId × InProcessLockProvider :=
  let (e, p') := p.setdefault scope
  (e, p'.modify e fun entry => { entry with users := entry.users + 1 })

/-- `entry.lock.acquire()` returned. -/
def acquired (e : EntryId) : InProcessLockProvider :=
  p.modify e fun entry => { entry with locked := true }

/-- `entry.lock.release()`. -/
def release (e : EntryId) : InProcessLockProvider :=
  p.modify e fun entry => { entry with locked := false }

/-- A task no longer uses an entry; the last one removes it. -/
def leave (scope : String) (e : EntryId) : InProcessLockProvider :=
  let p' := p.modify e fun entry => { entry with users := entry.users - 1 }
  if (p'.entries e).users = 0 ∧ p'.locks[scope]? = some e then
    { p' with locks := p'.locks.erase scope }
  else p'

section Leave

variable (scope : String) (e : EntryId)

@[simp] theorem leave_fresh : (p.leave scope e).fresh = p.fresh := by
  simp only [leave]
  split_ifs <;> rfl

theorem leave_entries (e' : EntryId) : (p.leave scope e).entries e' =
    if e' = e then ⟨(p.entries e).locked, (p.entries e).users - 1⟩ else p.entries e' := by
  have hentries : (p.leave scope e).entries =
      (p.modify e fun entry => { entry with users := entry.users - 1 }).entries := by
    simp only [leave]
    split_ifs <;> rfl
  rw [hentries]
  exact update_apply _ _ _ _

/-- The scope is forgotten if its entry has no users any more. -/
theorem leave_locks (hscope : p.locks[scope]? = some e) (sc : String) (e' : EntryId) :
    (p.leave scope e).locks[sc]? = some e' ↔
      p.locks[sc]? = some e' ∧ (sc = scope → (p.entries e).users - 1 ≠ 0) := by
  have husers :
      ((p.modify e fun entry => { entry with users := entry.users - 1 }).entries e).users =
        (p.entries e).users - 1 := by
    simp [modify]
  simp only [leave, husers]
  split_ifs with h
  · rw [Std.ExtTreeMap.getElem?_erase]
    by_cases hsc : scope = sc
    · simp [hsc, h.1]
    · simp [hsc, Ne.symm hsc, modify]
  · refine (and_iff_left ?_).symm
    rintro - hzero
    exact h ⟨hzero, hscope⟩

end Leave

end InProcessLockProvider

/-! ## Tasks -/

/-- Where a task is: outside, waiting for the lock of a scope, or inside its
    body; with the entry that it references. -/
inductive LockPhase
  | outside
  | waiting (scope : String) (e : EntryId)
  | inside (scope : String) (e : EntryId)
  deriving DecidableEq

namespace LockPhase

/-- The scope and the entry of a task. -/
def ref : LockPhase → Option (String × EntryId)
  | outside => none
  | waiting scope e => some (scope, e)
  | inside scope e => some (scope, e)

/-- The scope of a task. -/
def scope : LockPhase → Option String
  | outside => none
  | waiting scope _ => some scope
  | inside scope _ => some scope

theorem map_fst_ref (l : LockPhase) : l.ref.map Prod.fst = l.scope := by
  cases l <;> rfl

theorem ref_eq_some {l : LockPhase} {scope : String} {e : EntryId} :
    l.ref = some (scope, e) ↔ l = .waiting scope e ∨ l = .inside scope e := by
  cases l <;> simp [ref]

end LockPhase

variable {ι : Type} [Fintype ι] [DecidableEq ι]

/-- The tasks that reference an entry. -/
def referrers (phase : ι → LockPhase) (e : EntryId) : Finset ι :=
  {i | (phase i).ref.map Prod.snd = some e}

/-- The provider knows exactly the tasks that wait or are inside, and at most
    one of those of a scope is inside. -/
structure Coherent (p : InProcessLockProvider) (phase : ι → LockPhase) : Prop where
  /-- The users of an entry are counted. -/
  users : ∀ e, (p.entries e).users = (referrers phase e).card
  locked : ∀ e, (p.entries e).locked = true ↔ ∃ i scope, phase i = .inside scope e
  exclusive : ∀ i j scope scope' e, phase i = .inside scope e → phase j = .inside scope' e → i = j
  /-- A task references the entry of its scope. -/
  registered : ∀ i (scope : String) e, (phase i).ref = some (scope, e) → p.locks[scope]? = some e
  /-- An entry of a scope is referenced by a task of this scope. -/
  used : ∀ (scope : String) e, p.locks[scope]? = some e → ∃ i, (phase i).ref = some (scope, e)
  fresh : ∀ (scope : String) e, p.locks[scope]? = some e → e < p.fresh
  /-- Scopes do not share entries. -/
  injective : ∀ (scope scope' : String) e, p.locks[scope]? = some e → p.locks[scope']? = some e →
    scope = scope'

section Referrers

variable {phase : ι → LockPhase} {i : ι} {e : EntryId} {l : LockPhase}

omit [DecidableEq ι] in
theorem mem_referrers : i ∈ referrers phase e ↔ ∃ scope, (phase i).ref = some (scope, e) := by
  simp [referrers, Option.map_eq_some_iff]

/-- A task that now references an entry, and no other. -/
theorem referrers_update_some {scope : String} {e' : EntryId} (hl : l.ref = some (scope, e)) :
    referrers (update phase i l) e' =
      if e' = e then insert i (referrers phase e') else (referrers phase e').erase i := by
  ext j
  by_cases hj : j = i
  · subst hj
    by_cases h : e' = e
    · simp [referrers, hl, h]
    · simp [referrers, hl, h, Ne.symm h]
  · split_ifs <;> simp [referrers, hj]

/-- A task that now references nothing. -/
theorem referrers_update_none (hl : l.ref = none) :
    referrers (update phase i l) e = (referrers phase e).erase i := by
  ext j
  by_cases hj : j = i
  · subst hj
    simp [referrers, hl]
  · simp [referrers, hj]

end Referrers

namespace Coherent

variable {p : InProcessLockProvider} {phase : ι → LockPhase} {i : ι} {scope : String} {e : EntryId}

omit [DecidableEq ι] in
/-- An identity that was not given out has an unused entry. -/
theorem entries_fresh (h : Coherent p phase) : p.entries p.fresh = {} := by
  -- A reference would make the identity one of a scope, and these are smaller.
  have hnone : referrers phase p.fresh = ∅ := by
    refine Finset.eq_empty_of_forall_notMem fun i hi => ?_
    obtain ⟨scope, href⟩ := mem_referrers.1 hi
    exact absurd (h.fresh scope _ (h.registered i scope _ href)) (lt_irrefl _)
  have hlocked : (p.entries p.fresh).locked = false := by
    refine Bool.eq_false_iff.2 fun hl => ?_
    obtain ⟨i, scope, hi⟩ := (h.locked _).1 hl
    have hmem : i ∈ referrers phase p.fresh := mem_referrers.2 ⟨scope, by rw [hi]; rfl⟩
    rw [hnone] at hmem
    exact absurd hmem (Finset.notMem_empty i)
  have husers := h.users p.fresh
  rw [hnone, Finset.card_empty] at husers
  cases hentry : p.entries p.fresh
  rw [hentry] at hlocked husers
  cases hlocked
  cases husers
  rfl

omit [DecidableEq ι] in
/-- What a lookup with a default leaves: only the scope may be new. -/
theorem setdefault (h : Coherent p phase) (scope : String) :
    (p.setdefault scope).2.entries = p.entries ∧ p.fresh ≤ (p.setdefault scope).2.fresh ∧
      (∀ sc e, (p.setdefault scope).2.locks[sc]? = some e ↔
        p.locks[sc]? = some e ∨ sc = scope ∧ e = (p.setdefault scope).1) ∧
      (p.locks[scope]? = some (p.setdefault scope).1 ∨
        p.locks[scope]? = none ∧ (p.setdefault scope).1 = p.fresh) ∧
      (p.setdefault scope).1 < (p.setdefault scope).2.fresh := by
  unfold InProcessLockProvider.setdefault
  cases hlock : p.locks[scope]? with
  | some e =>
    refine ⟨rfl, le_rfl, fun sc e' => ?_, .inl rfl, h.fresh scope e hlock⟩
    refine (or_iff_left_of_imp ?_).symm
    rintro ⟨rfl, rfl⟩
    exact hlock
  | none =>
    refine ⟨?_, Nat.le_succ _, fun sc e => ?_, .inr ⟨rfl, rfl⟩, Nat.lt_succ_self _⟩
    · exact (congrArg _ h.entries_fresh.symm).trans (update_eq_self _ _)
    · rw [Std.ExtTreeMap.getElem?_insert]
      by_cases hsc : scope = sc
      · subst hsc
        simp [hlock, eq_comm]
      · simp [hsc, Ne.symm hsc]

omit [Fintype ι] [DecidableEq ι] in
/-- A task that was outside references nothing. -/
theorem ref_ne_of_outside (hi : phase i = .outside) {j : ι} {x : String × EntryId}
    (hj : (phase j).ref = some x) : j ≠ i := by
  rintro rfl
  rw [hi] at hj
  cases hj

omit [DecidableEq ι] in
/-- Only the entry that the task gets has a user more. -/
theorem enter_entries (h : Coherent p phase) (scope : String) (e : EntryId) :
    (p.enter scope).2.entries e = if e = (p.enter scope).1 then
      ⟨(p.entries (p.enter scope).1).locked, (p.entries (p.enter scope).1).users + 1⟩
      else p.entries e := by
  rw [← (h.setdefault scope).1]
  exact update_apply _ _ _ _

/-- A task that starts to use the entry of a scope. -/
theorem enter (h : Coherent p phase) (hi : phase i = .outside) (scope : String) :
    Coherent (p.enter scope).2 (update phase i (.waiting scope (p.enter scope).1)) := by
  obtain ⟨hentries, hle, hlocks, hold, hlt⟩ := h.setdefault scope
  set e := (p.setdefault scope).1 with he
  show Coherent _ (update phase i (.waiting scope e))
  have hentry : ∀ e', (p.enter scope).2.entries e' = if e' = e then
      ⟨(p.entries e).locked, (p.entries e).users + 1⟩ else p.entries e' := h.enter_entries scope
  have hinside {j : ι} {sc : String} {e' : EntryId} :
      update phase i (.waiting scope e) j = .inside sc e' ↔ phase j = .inside sc e' := by
    by_cases hj : j = i
    · subst hj
      simp [hi]
    · rw [update_of_ne hj]
  have hnot (e' : EntryId) : i ∉ referrers phase e' := fun hmem => by
    obtain ⟨sc, href⟩ := mem_referrers.1 hmem
    exact ref_ne_of_outside hi href rfl
  refine ⟨fun e' => ?_, fun e' => ?_, fun j j' sc sc' e' hj hj' => ?_, fun j sc e' hj => ?_,
    fun sc e' hsc => ?_, fun sc e' hsc => ?_, fun sc sc' e' hsc hsc' => ?_⟩
  · rw [hentry, referrers_update_some rfl]
    by_cases he' : e' = e
    · rw [if_pos he', if_pos he', Finset.card_insert_of_notMem (hnot _), he', h.users]
    · rw [if_neg he', if_neg he', Finset.erase_eq_of_notMem (hnot _), h.users]
  · rw [hentry]
    refine Iff.trans ?_ ((h.locked e').trans (exists₂_congr fun j sc => hinside.symm))
    split_ifs with he'
    · rw [he']
    · rfl
  · exact h.exclusive j j' sc sc' e' (hinside.1 hj) (hinside.1 hj')
  · refine (hlocks sc e').2 ?_
    by_cases hji : j = i
    · subst hji
      rw [update_self] at hj
      cases hj
      exact .inr ⟨rfl, rfl⟩
    · rw [update_of_ne hji] at hj
      exact .inl (h.registered j sc e' hj)
  · rcases (hlocks sc e').1 hsc with hsc | ⟨rfl, rfl⟩
    · obtain ⟨j, hj⟩ := h.used sc e' hsc
      exact ⟨j, by rwa [update_of_ne (ref_ne_of_outside hi hj)]⟩
    · exact ⟨i, by rw [update_self]; rfl⟩
  · rcases (hlocks sc e').1 hsc with hsc | ⟨rfl, rfl⟩
    exacts [(h.fresh sc e' hsc).trans_le hle, hlt]
  · -- The entry of the scope is its old one, or a new one that no scope had.
    have hscope {sc : String} (hsc : p.locks[sc]? = some e) : sc = scope := by
      rcases hold with hold | ⟨-, hfresh⟩
      · exact h.injective _ _ _ hsc hold
      · exact absurd (h.fresh sc e hsc) (hfresh ▸ lt_irrefl _)
    rcases (hlocks sc e').1 hsc with hp | ⟨hsc, he'⟩
    · rcases (hlocks sc' e').1 hsc' with hp' | ⟨hsc', he'⟩
      exacts [h.injective _ _ _ hp hp', (hscope (he' ▸ hp)).trans hsc'.symm]
    · rcases (hlocks sc' e').1 hsc' with hp' | ⟨hsc', -⟩
      exacts [hsc.trans (hscope (he' ▸ hp')).symm, hsc.trans hsc'.symm]

/-- The lock of an entry is taken or released by a task that references it. -/
theorem relock (h : Coherent p phase) {l : LockPhase} (hl : l.ref = (phase i).ref) {locked : Bool}
    (hlocked : ∀ e', (if e' = e then locked else (p.entries e').locked) = true ↔
      ∃ j scope, update phase i l j = .inside scope e')
    (hexclusive : ∀ j j' scope scope' e', update phase i l j = .inside scope e' →
      update phase i l j' = .inside scope' e' → j = j') :
    Coherent (p.modify e fun entry => { entry with locked }) (update phase i l) := by
  -- No reference changes, and with them neither users nor scopes.
  have href (j : ι) : (update phase i l j).ref = (phase j).ref := by
    by_cases hj : j = i
    · subst hj
      rw [update_self, hl]
    · rw [update_of_ne hj]
  have hentry (e' : EntryId) : (p.modify e fun entry => { entry with locked }).entries e' =
      if e' = e then ⟨locked, (p.entries e).users⟩ else p.entries e' := update_apply _ _ _ _
  refine ⟨fun e' => ?_, fun e' => ?_, hexclusive, fun j sc e' hj => h.registered j sc e' ?_,
    fun sc e' hsc => ?_, h.fresh, h.injective⟩
  · have hreferrers : referrers (update phase i l) e' = referrers phase e' := by
      simp only [referrers, href]
    rw [hentry, hreferrers, ← h.users]
    split_ifs with he'
    exacts [he' ▸ rfl, rfl]
  · rw [hentry, ← hlocked e']
    split_ifs <;> rfl
  · rw [← href j, hj]
  · obtain ⟨j, hj⟩ := h.used sc e' hsc
    exact ⟨j, (href j).trans hj⟩

/-- A task that was granted the lock. -/
theorem acquired (h : Coherent p phase) (hi : phase i = .waiting scope e)
    (hfree : (p.entries e).locked = false) :
    Coherent (p.acquired e) (update phase i (.inside scope e)) := by
  -- Nobody was inside with this entry.
  have hnone (j : ι) (sc : String) : phase j ≠ .inside sc e := fun hj =>
    absurd ((h.locked e).2 ⟨j, sc, hj⟩) (by rw [hfree]; exact Bool.false_ne_true)
  have hinside {j : ι} {sc : String} {e' : EntryId} :
      update phase i (.inside scope e) j = .inside sc e' ↔
        j = i ∧ scope = sc ∧ e = e' ∨ j ≠ i ∧ phase j = .inside sc e' := by
    by_cases hj : j = i
    · subst hj
      simp
    · simp [hj]
  refine h.relock (by rw [hi]; rfl) (fun e' => ?_) fun j j' sc sc' e' hj hj' => ?_
  · by_cases he' : e' = e
    · rw [if_pos he', he']
      exact iff_of_true rfl ⟨i, scope, update_self _ _ _⟩
    · rw [if_neg he', h.locked e']
      refine exists₂_congr fun j sc => (hinside.trans ?_).symm
      rw [or_iff_right fun heq => he' heq.2.2.symm]
      refine and_iff_right_of_imp ?_
      rintro hj rfl
      rw [hi] at hj
      cases hj
  · rcases hinside.1 hj with ⟨rfl, -, rfl⟩ | ⟨-, hj⟩
    · rcases hinside.1 hj' with ⟨rfl, -⟩ | ⟨-, hj'⟩
      exacts [rfl, absurd hj' (hnone j' sc')]
    · rcases hinside.1 hj' with ⟨-, -, rfl⟩ | ⟨-, hj'⟩
      exacts [absurd hj (hnone j sc), h.exclusive j j' sc sc' e' hj hj']

/-- A task that released the lock, and is still counted. -/
theorem released (h : Coherent p phase) (hi : phase i = .inside scope e) :
    Coherent (p.release e) (update phase i (.waiting scope e)) := by
  have hinside {j : ι} {sc : String} {e' : EntryId} :
      update phase i (.waiting scope e) j = .inside sc e' ↔ j ≠ i ∧ phase j = .inside sc e' := by
    by_cases hj : j = i
    · subst hj
      simp
    · rw [update_of_ne hj]
      exact (and_iff_right hj).symm
  refine h.relock (by rw [hi]; rfl) (fun e' => ?_) fun j j' sc sc' e' hj hj' =>
    h.exclusive j j' sc sc' e' (hinside.1 hj).2 (hinside.1 hj').2
  by_cases he' : e' = e
  · rw [if_pos he', he']
    refine iff_of_false Bool.false_ne_true ?_
    rintro ⟨j, sc, hj⟩
    exact (hinside.1 hj).1 (h.exclusive j i sc scope e (hinside.1 hj).2 hi)
  · rw [if_neg he', h.locked e']
    refine exists₂_congr fun j sc => (hinside.trans (and_iff_right_of_imp ?_)).symm
    rintro hj rfl
    exact he' (LockPhase.inside.inj (hj.symm.trans hi)).2

/-- A task that is no longer counted. -/
theorem leave (h : Coherent p phase) (hi : phase i = .waiting scope e) :
    Coherent (p.leave scope e) (update phase i .outside) := by
  have hscope : p.locks[scope]? = some e := h.registered i scope e (by rw [hi]; rfl)
  have hmem : i ∈ referrers phase e := mem_referrers.2 ⟨scope, by rw [hi]; rfl⟩
  have hnot {e' : EntryId} (he' : e' ≠ e) : i ∉ referrers phase e' := fun hmem' => by
    obtain ⟨sc, href⟩ := mem_referrers.1 hmem'
    rw [hi] at href
    cases href
    exact he' rfl
  have hcount : (referrers (update phase i .outside) e).card = (p.entries e).users - 1 := by
    rw [referrers_update_none rfl, Finset.card_erase_of_mem hmem, h.users]
  have href {j : ι} {x : String × EntryId} :
      (update phase i .outside j).ref = some x ↔ j ≠ i ∧ (phase j).ref = some x := by
    by_cases hj : j = i
    · subst hj
      simp [LockPhase.ref]
    · simp [hj]
  have hinside {j : ι} {sc : String} {e' : EntryId} :
      update phase i .outside j = .inside sc e' ↔ phase j = .inside sc e' := by
    by_cases hj : j = i
    · subst hj
      simp [hi]
    · rw [update_of_ne hj]
  refine ⟨fun e' => ?_, fun e' => ?_, fun j j' sc sc' e' hj hj' => ?_, fun j sc e' hj => ?_,
    fun sc e' hsc => ?_, fun sc e' hsc => ?_, fun sc sc' e' hsc hsc' => ?_⟩
  · rw [p.leave_entries]
    by_cases he' : e' = e
    · rw [if_pos he', he', hcount]
    · rw [if_neg he', referrers_update_none rfl, Finset.erase_eq_of_notMem (hnot he'), h.users]
  · rw [p.leave_entries]
    refine Iff.trans ?_ ((h.locked e').trans (exists₂_congr fun j sc => hinside.symm))
    split_ifs with he'
    · rw [he']
    · rfl
  · exact h.exclusive j j' sc sc' e' (hinside.1 hj) (hinside.1 hj')
  · obtain ⟨-, hj'⟩ := href.1 hj
    refine (p.leave_locks scope e hscope sc e').2 ⟨h.registered j sc e' hj', ?_⟩
    -- The scope of a task that remains still has users.
    rintro rfl
    obtain rfl := Option.some.inj (hscope.symm.trans (h.registered j sc e' hj'))
    rw [← hcount]
    exact Finset.card_ne_zero_of_mem (mem_referrers.2 ⟨sc, hj⟩)
  · obtain ⟨hsc', husers⟩ := (p.leave_locks scope e hscope sc e').1 hsc
    obtain ⟨j, hj⟩ := h.used sc e' hsc'
    by_cases hji : j = i
    · -- The task that goes was not the only user.
      subst hji
      rw [hi] at hj
      cases hj
      have hcard := husers rfl
      rw [← hcount, Finset.card_ne_zero] at hcard
      obtain ⟨j', hj'⟩ := hcard
      obtain ⟨sc', href'⟩ := mem_referrers.1 hj'
      obtain rfl := h.injective _ _ _ hsc' (h.registered j' sc' e (href.1 href').2)
      exact ⟨j', href'⟩
    · exact ⟨j, href.2 ⟨hji, hj⟩⟩
  · rw [p.leave_fresh]
    exact h.fresh sc e' ((p.leave_locks scope e hscope sc e').1 hsc).1
  · exact h.injective sc sc' e' ((p.leave_locks scope e hscope sc e').1 hsc).1
      ((p.leave_locks scope e hscope sc' e').1 hsc').1

/-- A task that leaves the body. -/
theorem exit (h : Coherent p phase) (hi : phase i = .inside scope e) :
    Coherent ((p.release e).leave scope e) (update phase i .outside) := by
  have hleave := (h.released hi).leave (update_self _ _ _)
  rwa [update_idem] at hleave

omit [DecidableEq ι] in
/-- Before any task asked for a lock. -/
theorem start : Coherent {} fun _ : ι => LockPhase.outside where
  users e := by simp [referrers, LockPhase.ref]
  locked e := iff_of_false Bool.false_ne_true nofun
  exclusive i j scope scope' e hi := nomatch hi
  registered i scope e hi := nomatch hi
  used scope e he := by simp at he
  fresh scope e he := by simp at he
  injective scope scope' e he := by simp at he

omit [DecidableEq ι] in
/-- The tasks of a scope have one entry. -/
theorem ref_unique (h : Coherent p phase) {j : ι} {e' : EntryId}
    (hi : (phase i).ref = some (scope, e)) (hj : (phase j).ref = some (scope, e')) : e = e' :=
  Option.some.inj ((h.registered i scope e hi).symm.trans (h.registered j scope e' hj))

omit [DecidableEq ι] in
/-- At most one task is inside. -/
theorem inside_unique (h : Coherent p phase) {j : ι} {e' : EntryId}
    (hi : phase i = .inside scope e) (hj : phase j = .inside scope e') : i = j := by
  obtain rfl : e = e' := h.ref_unique (by rw [hi]; rfl) (by rw [hj]; rfl)
  exact h.exclusive i j scope scope e hi hj

omit [DecidableEq ι] in
/-- A scope has an entry while a task waits for its lock, or is inside. -/
theorem mem_locks_iff (h : Coherent p phase) :
    scope ∈ p.locks ↔ ∃ i e, (phase i).ref = some (scope, e) := by
  rw [Std.ExtTreeMap.mem_iff_isSome_getElem?, Option.isSome_iff_exists]
  constructor
  · rintro ⟨e, he⟩
    obtain ⟨i, hi⟩ := h.used scope e he
    exact ⟨i, e, hi⟩
  · rintro ⟨i, e, hi⟩
    exact ⟨e, h.registered i scope e hi⟩

omit [DecidableEq ι] in
/-- The users of the entry of a scope are the tasks of the scope. -/
theorem referrers_eq (h : Coherent p phase) (he : p.locks[scope]? = some e) :
    referrers phase e = ({i | (phase i).scope = some scope} : Finset ι) := by
  ext i
  rw [mem_referrers, Finset.mem_filter_univ, ← LockPhase.map_fst_ref, Option.map_eq_some_iff]
  constructor
  · rintro ⟨scope', hi⟩
    obtain rfl := h.injective _ _ _ he (h.registered i scope' e hi)
    exact ⟨_, hi, rfl⟩
  · rintro ⟨⟨scope', e'⟩, hi, rfl⟩
    obtain rfl := Option.some.inj (he.symm.trans (h.registered i scope' e' hi))
    exact ⟨_, hi⟩

omit [DecidableEq ι] in
/-- When all tasks are outside, the provider has no entries. -/
theorem locks_eq_empty (h : Coherent p phase) (hall : ∀ i, phase i = .outside) :
    p.locks = ∅ := by
  refine Std.ExtTreeMap.ext_getElem? fun scope => ?_
  rw [Std.ExtTreeMap.getElem?_empty, Option.eq_none_iff_forall_ne_some]
  intro e he
  obtain ⟨i, hi⟩ := h.used scope e he
  rw [hall i] at hi
  cases hi

end Coherent

/-! ## Steps -/

/-- A step of a task between two awaits, on a scope: the provider, and the phases of all tasks. -/
inductive LockStep (i : ι) (scope : String) :
    InProcessLockProvider × (ι → LockPhase) → InProcessLockProvider × (ι → LockPhase) → Prop
  | enter {p : InProcessLockProvider} {phase : ι → LockPhase}
    (hscope : validateScope scope = .ok ()) (hi : phase i = .outside) : LockStep i scope (p, phase)
      ((p.enter scope).2, update phase i (.waiting scope (p.enter scope).1))
  /-- An `asyncio.Lock` is granted only when nobody holds it. -/
  | granted {p : InProcessLockProvider} {phase : ι → LockPhase} {e : EntryId}
    (hi : phase i = .waiting scope e) (hfree : (p.entries e).locked = false) :
    LockStep i scope (p, phase) (p.acquired e, update phase i (.inside scope e))
  /-- The task times out, or is cancelled, and does not hold the lock. -/
  | abandon {p : InProcessLockProvider} {phase : ι → LockPhase} {e : EntryId}
    (hi : phase i = .waiting scope e) :
    LockStep i scope (p, phase) (p.leave scope e, update phase i .outside)
  /-- The body returns, or raises. -/
  | exit {p : InProcessLockProvider} {phase : ι → LockPhase} {e : EntryId}
    (hi : phase i = .inside scope e) :
    LockStep i scope (p, phase) ((p.release e).leave scope e, update phase i .outside)

namespace LockStep

variable {i : ι} {scope : String} {a b : InProcessLockProvider × (ι → LockPhase)}

/-- A step keeps the provider coherent. -/
theorem coherent (h : Coherent a.1 a.2) (hs : LockStep i scope a b) : Coherent b.1 b.2 := by
  cases hs with
  | enter _ hi => exact h.enter hi scope
  | granted hi hfree => exact h.acquired hi hfree
  | abandon hi => exact h.leave hi
  | exit hi => exact h.exit hi

omit [Fintype ι] in
/-- A step of a task is none of the others. -/
theorem phase_of_ne (hs : LockStep i scope a b) {j : ι} (hj : j ≠ i) : b.2 j = a.2 j := by
  cases hs with
  | enter | granted | abandon | exit => exact update_of_ne hj _ _

/-- A step on a scope does not change the entries of others. -/
theorem frame (h : Coherent a.1 a.2) (hs : LockStep i scope a b) {scope' : String}
    (hne : scope' ≠ scope) : b.1.locks[scope']? = a.1.locks[scope']? ∧
      ∀ e, a.1.locks[scope']? = some e → b.1.entries e = a.1.entries e := by
  -- The entry of the task is not that of the other scope.
  have hentry {p : InProcessLockProvider} {phase : ι → LockPhase} (h : Coherent p phase)
      {e e' : EntryId} (hi : (phase i).ref = some (scope, e)) (he' : p.locks[scope']? = some e') :
      e' ≠ e := by
    rintro rfl
    exact hne (h.injective _ _ _ he' (h.registered i scope e' hi))
  cases hs with
  | @enter p phase _ hi =>
    obtain ⟨-, -, hlocks, hold, -⟩ := h.setdefault scope
    refine ⟨Option.ext fun e => (hlocks scope' e).trans (or_iff_left fun heq => hne heq.1),
      fun e he => (h.enter_entries scope e).trans (if_neg ?_)⟩
    rintro rfl
    rcases hold with hold | ⟨-, hfresh⟩
    · exact hne (h.injective _ _ _ he hold)
    · exact absurd (h.fresh _ _ he) (hfresh ▸ lt_irrefl _)
  | @granted p phase e hi _ =>
    have href : (phase i).ref = some (scope, e) := by rw [hi]; rfl
    exact ⟨rfl, fun e' he' => update_of_ne (hentry h href he') _ _⟩
  | @abandon p phase e hi =>
    have href : (phase i).ref = some (scope, e) := by rw [hi]; rfl
    refine ⟨Option.ext fun e' => ?_, fun e' he' =>
      (p.leave_entries scope e e').trans (if_neg (hentry h href he'))⟩
    rw [p.leave_locks scope e (h.registered i scope e href)]
    exact and_iff_left fun heq => absurd heq hne
  | @exit p phase e hi =>
    have href : (phase i).ref = some (scope, e) := by rw [hi]; rfl
    refine ⟨Option.ext fun e' => ?_, fun e' he' => ?_⟩
    · rw [(p.release e).leave_locks scope e (h.registered i scope e href)]
      exact and_iff_left fun heq => absurd heq hne
    · rw [(p.release e).leave_entries, if_neg (hentry h href he')]
      exact update_of_ne (hentry h href he') _ _

end LockStep

/-- A step of any task on any scope. -/
def LockStep.Any (a b : InProcessLockProvider × (ι → LockPhase)) : Prop :=
  ∃ i scope, LockStep i scope a b

/-- Any tasks, in any order, keep the provider coherent. -/
theorem Coherent.run {a : InProcessLockProvider × (ι → LockPhase)}
    (h : ReflTransGen LockStep.Any ({}, fun _ => .outside) a) : Coherent a.1 a.2 := by
  induction h with
  | refl => exact .start
  | tail _ hs ih =>
    obtain ⟨i, scope, hs⟩ := hs
    exact hs.coherent ih

/-- The provider is a mutex for each scope, and keeps no entries that nobody uses. -/
theorem mutex_without_leaks {p : InProcessLockProvider} {phase : ι → LockPhase}
    (h : ReflTransGen LockStep.Any ({}, fun _ => .outside) (p, phase)) :
    (∀ i j scope e e', phase i = .inside scope e → phase j = .inside scope e' → i = j) ∧
    (∀ scope : String, scope ∈ p.locks ↔
      ∃ i e, phase i = .waiting scope e ∨ phase i = .inside scope e) ∧
    (∀ (scope : String) e, p.locks[scope]? = some e →
      (∀ i e', phase i = .waiting scope e' ∨ phase i = .inside scope e' → e' = e) ∧
      (p.entries e).users = Finset.card {i | (phase i).scope = some scope}) ∧
    (∀ i scope b, LockStep i scope (p, phase) b → ∀ scope' ≠ scope,
      b.1.locks[scope']? = p.locks[scope']? ∧
      ∀ e, p.locks[scope']? = some e → b.1.entries e = p.entries e) ∧
    ((∀ i, phase i = .outside) → p.locks = ∅) := by
  have hp : Coherent p phase := Coherent.run h
  refine ⟨fun i j scope e e' => hp.inside_unique, fun scope => ?_, fun scope e he => ⟨?_, ?_⟩,
    fun i scope b hs scope' hne => hs.frame hp hne, hp.locks_eq_empty⟩
  · simp only [hp.mem_locks_iff, LockPhase.ref_eq_some]
  · intro i e' hi
    exact Option.some.inj ((hp.registered i scope e' (LockPhase.ref_eq_some.2 hi)).symm.trans he)
  · rw [hp.users, hp.referrers_eq he]

/-- A task is inside, and another one waits at the same entry. -/
theorem mutex_without_leaks_contended :
    ∃ (p : InProcessLockProvider) (phase : Fin 2 → LockPhase),
      ReflTransGen LockStep.Any ({}, fun _ => .outside) (p, phase) ∧
        phase 0 = .inside "dataset" 0 ∧ phase 1 = .waiting "dataset" 0 ∧ "dataset" ∈ p.locks := by
  have hscope : validateScope "dataset" = .ok () := by decide
  have hrun : ReflTransGen LockStep.Any
      (({}, fun _ => .outside) : InProcessLockProvider × (Fin 2 → LockPhase)) _ :=
    ((ReflTransGen.single ⟨0, "dataset", .enter hscope rfl⟩).tail
      ⟨0, "dataset", .granted rfl rfl⟩).tail ⟨1, "dataset", .enter hscope rfl⟩
  exact ⟨_, _, hrun, rfl, rfl, ((mutex_without_leaks hrun).2.1 "dataset").2 ⟨0, 0, .inr rfl⟩⟩

end Cogindex
