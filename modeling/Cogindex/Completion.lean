import Cogindex.Projection

/-!
# Concurrent jobs come to an end

Jobs on any number of datasets of one runtime never wait for each other
forever: no schedule of them is infinite, and as long as nothing fails, one of
them can go on until all have ended (`every_schedule_completes`). No timeout and
no cancellation is needed for this.

* `acc_step`: every step answers a task, or lets it wait for its lock;
* `AtPhase`: what a task is about to do, by where it is;
* `exists_step`: a task that is inside can go on, so that others need not wait;
* `exists_completion`: so there is a schedule in which all jobs end.
-/

namespace Cogindex

open Coroutine FakeCogneeRuntime Function Interleaving Relation

section

variable [Platform] {α ι : Type}

/-! ## Termination -/

/-- A step of a task: it is answered, or begins to wait. -/
inductive GoesOn : LockPhase × Program α → LockPhase × Program α → Prop
  | answered {l l' : LockPhase} {p q : Program α} (h : Answered q p) : GoesOn (l', q) (l, p)
  | waits (scope : String) (e : EntryId) (p : Program α) :
    GoesOn (.waiting scope e, p) (.outside, p)

/-- What a task that has not begun to wait has ahead of it. -/
def LockPhase.rank : LockPhase → ℕ
  | outside => 1
  | _ => 0

theorem wellFounded_goesOn : WellFounded (GoesOn (α := α)) := by
  refine Subrelation.wf ?_ (InvImage.wf (fun x : LockPhase × Program α => (x.2, x.1.rank))
    (wellFounded_answered.prod_lex Nat.lt_wfRel.wf))
  rintro _ _ (h | ⟨scope, e, p⟩)
  exacts [.left _ _ h, .right _ Nat.zero_lt_one]

/-- An answer is taken by the program that awaits the call. -/
theorem answered_of_awaits {l : ι × Program α} {c : ι × RuntimeCall}
    {k : Except PyError c.2.Response → ι × Program α}
    (ha : (sharing ι α).awaits l = some ⟨c, k⟩) (r : Except PyError c.2.Response) :
    Answered (k r).2 l.2 := by
  obtain ⟨i, p⟩ := l
  cases p with
  | ret a => cases ha
  | raise e => cases ha
  | await c' k' =>
    cases ha
    exact .intro c' k' r

variable [DecidableEq ι] {t u : Tasks ι (ι × Program α) (World ι)}

/-- One task goes on in each step. -/
theorem goesOn_of_step (hs : (sharing ι α).Step t u) :
    ∃ i x, GoesOn x (t.phase i, (t.procs i).2) ∧
      (fun i => (u.phase i, (u.procs i).2)) =
        update (fun i => (t.phase i, (t.procs i).2)) i x := by
  have hupdate (i : ι) (l : LockPhase) (q : ι × Program α) :
      (fun j => (update t.phase i l j, (update t.procs i q j).2)) =
        update (fun j => (t.phase j, (t.procs j).2)) i (l, q.2) := by
    funext j
    by_cases hj : j = i
    · subst hj
      simp only [update_self]
    · simp only [update_of_ne hj]
  cases hs with
  | internal hmove => exact absurd hmove id
  | @plain i c k r s ha =>
    have hnext := hupdate i (t.phase i) (k r)
    rw [update_eq_self] at hnext
    exact ⟨i, _, .answered (answered_of_awaits ha r), hnext⟩
  | @refused i c k scope e s ha =>
    have hnext := hupdate i (t.phase i) (k (.error e))
    rw [update_eq_self] at hnext
    exact ⟨i, _, .answered (answered_of_awaits ha (.error e)), hnext⟩
  | @wait i c k scope ha hc hphase =>
    have hnext := hupdate i (.waiting scope (t.provider.enter scope).1) (t.procs i)
    rw [update_eq_self] at hnext
    refine ⟨i, _, ?_, hnext⟩
    rw [hphase]
    exact .waits _ _ _
  | abandon ha => exact ⟨_, _, .answered (answered_of_awaits ha _), hupdate _ _ _⟩
  | acquired ha => exact ⟨_, _, .answered (answered_of_awaits ha _), hupdate _ _ _⟩
  | leave ha => exact ⟨_, _, .answered (answered_of_awaits ha _), hupdate _ _ _⟩

/-- No schedule is infinite. -/
theorem acc_step [Finite ι] (t : Tasks ι (ι × Program α) (World ι)) :
    Acc (fun u t => (sharing ι α).Step t u) t :=
  (Subrelation.wf goesOn_of_step (InvImage.wf
    (fun (t : Tasks ι (ι × Program α) (World ι)) i => (t.phase i, (t.procs i).2))
    (wellFounded_update wellFounded_goesOn))).apply t

/-! ## Progress -/

/-- The lock provider rejects a scope that is not valid. -/
def RuntimeCall.rejected : RuntimeCall → Option Fault
  | .lockEnter handle =>
    match validateScope (lockScope handle) with
    | .ok () => none
    | .error e => some ⟨e, none⟩
  | _ => none

/-- The tasks of a runtime on which nothing fails. -/
def faultless (ι α : Type) : TaskSystem ι (ι × Program α) (World ι) (ι × RuntimeCall)
    (fun c => c.2.Response) PyError :=
  { sharing ι α with
    step := fun c w r w' => perform c.2.rejected c.2 w.1 = (r, w'.1) ∧
      w'.2 = w.2 ++ c.2.access.toList.map (c.1, ·) }

/-- A step without a fault is a step. -/
theorem faultless_step (hs : (faultless ι α).Step t u) : (sharing ι α).Step t u := by
  have hanswer {c : ι × RuntimeCall} {w w' : World ι} {r : Except PyError c.2.Response}
      (h : (faultless ι α).step c w r w') : (sharing ι α).step c w r w' :=
    ⟨⟨c.2.rejected, h.1⟩, h.2⟩
  cases hs with
  | internal hmove => exact absurd hmove id
  | plain ha hc hs => exact .plain ha hc (hanswer hs)
  | refused ha hc hp hs => exact .refused ha hc hp (hanswer hs)
  | wait ha hc hp hscope hs =>
    obtain ⟨v, w, hs⟩ := hs
    exact .wait ha hc hp hscope ⟨v, w, hanswer hs⟩
  | abandon ha hc hp hs => exact .abandon ha hc hp (hanswer hs)
  | acquired ha hc hp hfree hs => exact .acquired ha hc hp hfree (hanswer hs)
  | leave ha hc hp hs => exact .leave ha hc hp (hanswer hs)

/-- What a job is about to do, by where it is. -/
inductive AtPhase (d : DatasetHandle) : LockPhase → Program α → Prop
  | outside {p : Program α} (h : DatasetOperation d p) : AtPhase d .outside p
  | waiting {p : Program α} (e : EntryId) (h : Locked (lockScope d) p) :
    AtPhase d (.waiting (lockScope d) e) p
  | inside {p : Program α} (e : EntryId) (h : Inside (lockScope d) p) :
    AtPhase d (.inside (lockScope d) e) p

theorem AtPhase.of_samePhase {d : DatasetHandle} {l l' : LockPhase} {p : Program α}
    (h : AtPhase d l' p) (hl : SamePhase l l') : AtPhase d l p := by
  cases hl with
  | outside => exact h
  | waiting scope e e' =>
    cases h with
    | waiting _ h => exact .waiting e h
  | «inside» scope e e' =>
    cases h with
    | «inside» _ h => exact .inside e h

section Jobs

variable [Fintype ι] {dataset : ι → DatasetHandle} {jobs : ι → Job} {s : FakeCogneeRuntime}
  {t : Tasks ι (ι × Program (Option VerificationReport)) (World ι)}

/-- A job on one dataset waits for its lock, and is under it when it is inside. -/
theorem atPhase_of_start {d : DatasetHandle} (hjobs : ∀ i, (jobs i).On d)
    (hs : d.identityScope = s.identityScope)
    (hrun : ReflTransGen (sharing ι _).Step (Job.start d jobs s) t) (i : ι) :
    AtPhase d (t.phase i) (t.procs i).2 := by
  obtain ⟨hwaits, hscopes⟩ := waits_of_run hjobs hs hrun
  obtain ⟨hcoherent, holder, hholds, hseparated, -⟩ := serialized_of_run hjobs hs hrun
  have hout (hne : ∀ e, t.phase i ≠ .inside (lockScope d) e) :
      (t.procs i).1 = i ∧ DatasetOperation d (t.procs i).2 := by
    refine hseparated.outside i ?_
    rintro rfl
    obtain ⟨e, he⟩ := hholds
    exact hne e he
  cases hphase : t.phase i with
  | outside => exact .outside (hout fun e he => by cases hphase.symm.trans he).2
  | waiting scope e =>
    obtain rfl := hscopes i scope e (by rw [hphase]; rfl)
    obtain ⟨hname, hop⟩ := hout fun e he => by cases hphase.symm.trans he
    obtain ⟨c, k, ha, hc⟩ := hwaits i _ e hphase
    exact .waiting e (hop.locked_of_enter ha (kindOf_enter_iff.2 hc))
  | «inside» scope e =>
    obtain rfl := hscopes i scope e (by rw [hphase]; rfl)
    exact .inside e (hseparated.inside i (hholds.eq_some hcoherent hphase)).2

/-- So it is if there are jobs on other datasets. -/
theorem atPhase_of_run (hjobs : ∀ i, (jobs i).On (dataset i))
    (hs : ∀ i, (dataset i).identityScope = s.identityScope)
    (hrun : ReflTransGen (sharing ι _).Step (Job.startOn dataset jobs s) t) (i : ι) :
    ∃ p, t.procs i = (i, p) ∧ AtPhase (dataset i) (t.phase i) p := by
  obtain ⟨t', hrun', hprojects⟩ := projects_of_run hjobs hs (hs i) hrun
  have hjobs' (j : Cohort dataset (keyOf (dataset i))) : (jobs j.1).On (dataset i) :=
    (hjobs j.1).of_keyOf j.2 ((hs j.1).trans (hs i).symm)
  obtain ⟨p, hp, -⟩ := hprojects.confined i
  have hphase := atPhase_of_start hjobs' (hs i) hrun' ⟨i, rfl⟩
  rw [hprojects.procs, hp] at hphase
  exact ⟨p, hp, hphase.of_samePhase (hprojects.phase ⟨i, rfl⟩)⟩

omit [DecidableEq ι] [Fintype ι] in
/-- Where nothing fails, every call is answered. -/
theorem faultless_answers (c : ι × RuntimeCall) (w : World ι) :
    (faultless ι α).step c w (perform c.2.rejected c.2 w.1).1
      ((perform c.2.rejected c.2 w.1).2, w.2 ++ c.2.access.toList.map (c.1, ·)) :=
  ⟨rfl, rfl⟩

omit [Fintype ι] in
/-- A job that is inside can go on. -/
theorem exists_step_of_inside {scope : String} {i : ι} {e : EntryId}
    {p : Program (Option VerificationReport)} (hp : t.procs i = (i, p)) (h : Inside scope p)
    (hphase : t.phase i = .inside scope e) : ∃ u, (faultless ι _).Step t u := by
  cases p with
  | ret a => exact h.elim
  | raise e => exact h.elim
  | await c k =>
    have ha : (faultless ι (Option VerificationReport)).awaits (t.procs i) =
        some ⟨(i, c), fun r => (i, k r)⟩ := by
      rw [hp]
      rfl
    rcases h with ⟨hc, -⟩ | ⟨hc, -⟩
    · exact ⟨_, .plain ha hc (faultless_answers _ _)⟩
    · exact ⟨_, .leave ha hc hphase (faultless_answers _ _)⟩

omit [DecidableEq ι] [Fintype ι] in
/-- A lock that is asked for on the runtime of its owner is refused for its scope only. -/
theorem lockEnter_answer {d handle : DatasetHandle} {w : World ι}
    (hscope : lockScope handle = lockScope d) (hd : d.identityScope = w.1.identityScope) :
    (perform (RuntimeCall.lockEnter handle).rejected (.lockEnter handle) w.1).1 =
      validateScope (lockScope d) := by
  have hjoin := canonicalJoin_injective hscope
  simp only [List.cons.injEq, true_and, and_true] at hjoin
  have hvalid : w.1.validateHandle handle = .ok () := if_pos (hjoin.1.trans hd)
  simp only [perform, lockEnter, hvalid, RuntimeCall.rejected, hscope]
  cases validateScope (lockScope d) <;> rfl

omit [Fintype ι] in
/-- A scope that a task waits for, or is inside, is valid. -/
theorem validScope_of_run {x y : Tasks ι (ι × Program α) (World ι)}
    (hx : ∀ i, x.phase i = .outside) (hrun : ReflTransGen (sharing ι α).Step x y) :
    ∀ i scope e, (y.phase i).ref = some (scope, e) → validateScope scope = .ok () := by
  induction hrun with
  | refl =>
    intro i scope e h
    rw [hx i] at h
    cases h
  | tail _ hstep ih => exact hstep.ref_scope (fun _ _ _ _ _ _ hscope => hscope) ih

/-- While a job has not ended, one of them can go on, without any fault. -/
theorem exists_step (hd : ∀ i, (dataset i).identityScope = t.store.1.identityScope)
    (hvalid : ∀ i scope e, (t.phase i).ref = some (scope, e) → validateScope scope = .ok ())
    (hcoherent : Coherent t.provider t.phase)
    (hat : ∀ i, ∃ p, t.procs i = (i, p) ∧ AtPhase (dataset i) (t.phase i) p) {i : ι}
    (hi : ¬Ended (t.procs i).2) : ∃ u, (faultless ι _).Step t u := by
  obtain ⟨p, hp, h⟩ := hat i
  rw [hp] at hi
  have hawaits {c : RuntimeCall} {k : Except PyError c.Response → Program _}
      (hpc : p = .await c k) : (faultless ι (Option VerificationReport)).awaits (t.procs i) =
        some ⟨(i, c), fun r => (i, k r)⟩ := by
    rw [hp, hpc]
    rfl
  -- The answer to a lock, asked for or waited for.
  have hanswer {handle : DatasetHandle} (hscope : lockScope handle = lockScope (dataset i))
      {r : Except PyError Unit} (hr : validateScope (lockScope (dataset i)) = r) :
      (faultless ι (Option VerificationReport)).step (i, .lockEnter handle) t.store r
        ((perform (RuntimeCall.lockEnter handle).rejected (.lockEnter handle) t.store.1).2,
          t.store.2) := by
    refine ⟨Prod.ext ((lockEnter_answer hscope (hd i)).trans hr) rfl, ?_⟩
    exact (List.append_nil _).symm
  have hlockOp {handle : DatasetHandle} (hscope : lockScope handle = lockScope (dataset i)) :
      (RuntimeCall.lockEnter handle).lockOp = some (.enter (lockScope (dataset i))) :=
    congrArg (fun scope => some (LockOp.enter scope)) hscope
  generalize hphase : t.phase i = l at h
  cases h with
  | outside h =>
    cases h with
    | ended h => exact absurd h hi
    | locked h =>
      cases h with
      | intro hscope =>
        cases hv : validateScope (lockScope (dataset i)) with
        | ok _ =>
          exact ⟨_, .wait (hawaits rfl) (hlockOp hscope) hphase hv ⟨_, _, hanswer hscope hv⟩⟩
        | error e =>
          exact ⟨_, .refused (hawaits rfl) (hlockOp hscope) hphase (hanswer hscope hv)⟩
    | resolves => exact ⟨_, .plain (hawaits rfl) rfl (faultless_answers _ _)⟩
  | waiting e h =>
    cases h with
    | intro hscope =>
      cases hfree : (t.provider.entries e).locked with
      | false =>
        have hv := hvalid i _ e (by rw [hphase]; rfl)
        exact ⟨_, .acquired (hawaits rfl) (hlockOp hscope) hphase hfree (hanswer hscope hv)⟩
      -- Somebody else is inside, and can go on.
      | true =>
        obtain ⟨j, scope, hj⟩ := (hcoherent.locked e).1 hfree
        obtain ⟨q, hq, h⟩ := hat j
        rw [hj] at h
        cases h with
        | «inside» _ h => exact exists_step_of_inside hq h hj
  | «inside» e h => exact exists_step_of_inside hp h hphase

/-- So it is in every state that is reached. -/
theorem exists_step_of_run (hjobs : ∀ i, (jobs i).On (dataset i))
    (hs : ∀ i, (dataset i).identityScope = s.identityScope)
    (hrun : ReflTransGen (sharing ι _).Step (Job.startOn dataset jobs s) t) {i : ι}
    (hi : ¬Ended (t.procs i).2) : ∃ u, (faultless ι _).Step t u := by
  obtain ⟨hcoherent, -⟩ := TaskSystem.simulates hrun ""
  have hd (i : ι) : (dataset i).identityScope = t.store.1.identityScope := by
    obtain ⟨t', -, hprojects⟩ := projects_of_run hjobs hs (hs i) hrun
    exact hprojects.store.scope
  exact exists_step hd (validScope_of_run (fun _ => rfl) hrun) hcoherent
    (atPhase_of_run hjobs hs hrun) hi

/-- Concurrent jobs can all end, without any fault. -/
theorem exists_completion (hjobs : ∀ i, (jobs i).On (dataset i))
    (hs : ∀ i, (dataset i).identityScope = s.identityScope)
    (hrun : ReflTransGen (sharing ι _).Step (Job.startOn dataset jobs s) t) :
    ∃ u, ReflTransGen (faultless ι _).Step t u ∧ ∀ i, Ended (u.procs i).2 := by
  -- No schedule is infinite, so one that goes on while it can comes to an end.
  induction acc_step t with
  | intro t _ ih =>
    by_cases hended : ∀ i, Ended (t.procs i).2
    · exact ⟨t, .refl, hended⟩
    · obtain ⟨i, hi⟩ := not_forall.1 hended
      obtain ⟨u, hu⟩ := exists_step_of_run hjobs hs hrun hi
      obtain ⟨v, hv, hall⟩ := ih u (faultless_step hu) (hrun.tail (faultless_step hu))
      exact ⟨v, hv.head hu, hall⟩

/-- A job that has ended neither has a lock nor waits for one. -/
theorem AtPhase.eq_outside {d : DatasetHandle} {l : LockPhase} {p : Program α}
    (h : AtPhase d l p) (hp : Ended p) : l = .outside := by
  cases h with
  | outside => rfl
  | waiting e h =>
    cases h with
    | intro => exact absurd hp not_ended_await
  | «inside» e h => exact absurd hp h.not_ended

/-- **Every schedule completes.** From every state that concurrent jobs reach,
    with any faults, timeouts and cancellations so far, no schedule is infinite,
    one without faults ends only where all jobs have ended, and then no task is
    in a lock or waits for one, and the lock table is empty. -/
theorem every_schedule_completes (hjobs : ∀ i, (jobs i).On (dataset i))
    (hs : ∀ i, (dataset i).identityScope = s.identityScope)
    (hrun : ReflTransGen (sharing ι _).Step (Job.startOn dataset jobs s) t) :
    Acc (fun u t => (sharing ι _).Step t u) t ∧
      (∀ i, ¬Ended (t.procs i).2 →
        ∃ u, (faultless ι _).Step t u ∧ (sharing ι _).Step t u) ∧
      ((∀ i, Ended (t.procs i).2) → (∀ i, t.phase i = .outside) ∧ t.provider.locks = ∅) := by
  refine ⟨acc_step t, fun i hi => ?_, fun hended => ?_⟩
  · obtain ⟨u, hu⟩ := exists_step_of_run hjobs hs hrun hi
    exact ⟨u, hu, faultless_step hu⟩
  · obtain ⟨hcoherent, -⟩ := TaskSystem.simulates hrun ""
    have hout (i : ι) : t.phase i = .outside := by
      obtain ⟨p, hp, h⟩ := atPhase_of_run hjobs hs hrun i
      have hi := hended i
      rw [hp] at hi
      exact h.eq_outside hi
    exact ⟨hout, hcoherent.locks_eq_empty hout⟩

end Jobs

end

/-- While a batch is inside the lock of its dataset, somebody can go on. -/
theorem every_schedule_completes_sample :
    letI : Platform := .sample
    ∃ t e, ReflTransGen (sharing Bool _).Step
        (Job.startOn Job.sampleDataset Job.sample .sample) t ∧
      t.phase true = .inside (lockScope DocumentHandler.sample.handle) e ∧
      Acc (fun u t => (sharing Bool _).Step t u) t ∧ ∃ u, (faultless Bool _).Step t u := by
  let _ : Platform := .sample
  obtain ⟨t, e, hrun, hphase⟩ := Job.exists_sampleRun
  obtain ⟨hjobs, hs⟩ := Job.sample_on
  obtain ⟨hacc, hstep, hended⟩ := every_schedule_completes hjobs hs hrun
  refine ⟨t, e, hrun, hphase, hacc, ?_⟩
  by_contra hstuck
  have hall (i : Bool) : Ended (t.procs i).2 := by
    by_contra hi
    obtain ⟨u, hu, -⟩ := hstep i hi
    exact hstuck ⟨u, hu⟩
  cases hphase.symm.trans ((hended hall).1 true)

end Cogindex
