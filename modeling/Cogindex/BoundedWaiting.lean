import Cogindex.AdvisoryLocks
import Mathlib.Tactic.Linarith
import Mathlib.Tactic.NormNum

/-!
# Waiting for an advisory lock is bounded

An acquirer polls until it is granted the lock, or until its deadline. How long
that takes is up to the clock: it must not go back, and a sleep must last as
long as it was asked to (`Timely`). Then the polls but for two fit into the
timeout, one for each poll interval, and no other call is made more than once
for each poll (`bounded_waiting`): the acquirer comes to an end.

The calls are followed by a monitor of their times (`Waiting`). Where a pass of
the loop begins (`Waiting.Polls`), either the polls so far took a poll interval
each, or the deadline has come, and the next refusal is the last one.
-/

namespace Cogindex

open Coroutine Function Relation

/-! ## Times -/

/-- A poll for the lock. -/
def AdvisoryEvent.polls : AdvisoryEvent → Bool
  | ⟨.tryAdvisoryLock _, _⟩ => true
  | _ => false

/-- What the calls of an acquirer tell of the time. -/
structure Waiting where
  /-- When the deadline was set. -/
  start : ℚ := 0
  /-- The time that has come: the last reading of the clock, and the sleeps since. -/
  now : ℚ := 0
  polls : ℕ := 0
  calls : ℕ := 0
  /-- No reading was earlier than the time that had come. -/
  timely : Bool := true

namespace Waiting

/-- The time after an event. -/
def elapse (w : Waiting) : AdvisoryEvent → Waiting
  | ⟨.clock .start, .ok now⟩ => { w with start := now, now }
  | ⟨.clock _, .ok now⟩ => { w with now, timely := w.timely && decide (w.now ≤ now) }
  | ⟨.sleep seconds, .ok _⟩ => { w with now := w.now + seconds }
  | _ => w

/-- One more event. -/
def add (w : Waiting) (event : AdvisoryEvent) : Waiting :=
  { w.elapse event with polls := w.polls + event.polls.toNat, calls := w.calls + 1 }

end Waiting

/-- The times of a record. -/
def waiting (log : List AdvisoryEvent) : Waiting := log.foldl Waiting.add {}

/-- A clock that never goes back, and sleeps that last as long as they were asked to. -/
def Timely (log : List AdvisoryEvent) : Prop := (waiting log).timely = true

theorem waiting_snoc (log : List AdvisoryEvent) (event : AdvisoryEvent) :
    waiting (log ++ [event]) = (waiting log).add event := by
  rw [waiting, List.foldl_append]
  rfl

theorem waiting_polls (log : List AdvisoryEvent) :
    (waiting log).polls = log.countP AdvisoryEvent.polls := by
  induction log using List.reverseRecOn with
  | nil => rfl
  | append_singleton log event ih =>
    rw [waiting_snoc, List.countP_append, List.countP_singleton, ← ih, ← Bool.cond_eq_ite]
    rfl

theorem waiting_calls (log : List AdvisoryEvent) : (waiting log).calls = log.length := by
  induction log using List.reverseRecOn with
  | nil => rfl
  | append_singleton log event ih =>
    rw [waiting_snoc, List.length_append, ← ih]
    rfl

/-! ## The coroutine, followed -/

namespace Waiting

section

variable (p : PostgresAdvisoryLockProvider) {w : Waiting} {event : AdvisoryEvent} {n : ℕ}

/-- The polls but for two fit into the timeout, and there are four calls for each
    of them and `n` more. -/
structure Bounded (n : ℕ) (w : Waiting) : Prop where
  inTime : ∀ timeout ∈ p.timeout, w.timely = true → p.pollInterval * (w.polls - 2) < timeout
  calls : w.calls ≤ 4 * w.polls + n

/-- What holds where a pass of the loop begins. -/
structure Polling (deadline : Option ℚ) (w : Waiting) : Prop where
  deadline : deadline = p.timeout.map (w.start + ·)
  calls : w.calls ≤ 4 * w.polls + 3
  /-- The polls but for one fit into the timeout. -/
  inTime : ∀ timeout ∈ p.timeout, w.timely = true → p.pollInterval * (w.polls - 1) < timeout
  /-- Each poll took its interval, or the next one is the last. -/
  paced : ∀ timeout ∈ p.timeout, w.timely = true →
    p.pollInterval * w.polls ≤ w.now - w.start ∨ w.start + timeout ≤ w.now

/-- An acquirer, followed by the time that its calls take. -/
abbrev Follows {α : Type} (program : AdvisoryProgram α) (Q : α → Waiting → Prop) (w : Waiting) :
    Prop :=
  Monitored add (fun _ => Bounded p 4) program Q (fun _ => Bounded p 4) w

variable {p}

theorem pollInterval_pos : 0 < p.pollInterval := not_le.1 p.pollInterval_pos

/-- Before the first poll there is time. -/
theorem inTime_of_no_polls {timeout : ℚ} (h : timeout ∈ p.timeout) (hw : w.polls = 0) :
    p.pollInterval * (w.polls - 1) < timeout := by
  have hpos := p.timeout_pos
  rw [Option.mem_def.1 h] at hpos
  have htimeout : 0 < timeout := by simpa using hpos
  have := pollInterval_pos (p := p)
  rw [hw, Nat.cast_zero]
  linarith

theorem Bounded.mono {m : ℕ} (h : w.Bounded p n) (hle : n ≤ m) : w.Bounded p m :=
  ⟨h.inTime, h.calls.trans (Nat.add_le_add_left hle _)⟩

theorem timely_of_add (h : (w.add event).timely = true) : w.timely = true := by
  obtain ⟨c, r⟩ := event
  cases c with
  | clock site =>
    cases site <;> cases r <;> first | exact h | exact (Bool.and_eq_true_iff.1 h).1
  | _ => cases r <;> exact h

/-- Any call but a poll is one more. -/
theorem Bounded.add (h : w.Bounded p n) (event : AdvisoryEvent) (hevent : event.polls = false) :
    (w.add event).Bounded p (n + 1) := by
  have hpolls : (w.add event).polls = w.polls := by simp [Waiting.add, hevent]
  refine ⟨fun timeout ht hw => ?_, ?_⟩
  · rw [hpolls]
    exact h.inTime timeout ht (timely_of_add hw)
  · rw [hpolls]
    exact Nat.succ_le_succ h.calls

/-- Where a pass begins, there is time for one more poll. -/
theorem Polling.poll {deadline : Option ℚ} (h : w.Polling p deadline) (key : ℤ)
    (r : Except LockException Bool) : (w.add ⟨.tryAdvisoryLock key, r⟩).Bounded p 0 := by
  refine ⟨fun timeout ht hw => ?_, ?_⟩
  · have := h.inTime timeout ht hw
    show p.pollInterval * (((w.polls + 1 : ℕ) : ℚ) - 2) < timeout
    push_cast
    linarith
  · have := h.calls
    show w.calls + 1 ≤ 4 * (w.polls + 1) + 0
    omega

theorem Polling.bounded {deadline : Option ℚ} (h : w.Polling p deadline) : w.Bounded p 4 := by
  refine ⟨fun timeout ht hw => ?_, h.calls.trans (by omega)⟩
  have := h.inTime timeout ht hw
  have := pollInterval_pos (p := p)
  linarith

/-- There is a sleep before the next pass. -/
theorem follows_sleep {deadline : Option ℚ} {seconds : ℚ} (hw : w.Bounded p 2)
    (hnext : (w.add ⟨.sleep seconds, .ok ()⟩).Polling p deadline) :
    Monitored add (fun _ => Bounded p 4) (do
        let _ ← awaitCall (.sleep seconds)
        return false : AdvisoryProgram Bool)
      (fun acquired w => if acquired then w.Bounded p 0 else w.Polling p deadline)
      (fun _ => Bounded p 3) w :=
  monitored_bind.2 (monitored_call (hw.mono (by decide)) (fun _ => hnext) fun _ => hw.add _ rfl)

end

section

variable [PostgresPlatform] {p : PostgresAdvisoryLockProvider} {scope : String} {w : Waiting}

open PostgresAdvisoryLockProvider

/-- A refused poll is followed by a sleep for its interval, or up to the deadline. -/
theorem follows_acquirePass {deadline : Option ℚ} (h : w.Polling p deadline) :
    Monitored add (fun _ => Bounded p 4) (p.acquirePass scope deadline)
      (fun acquired w => if acquired then w.Bounded p 0 else w.Polling p deadline)
      (fun _ => Bounded p 3) w := by
  refine monitored_bind.2 (monitored_call h.bounded (fun acquired => ?_) fun e =>
    (h.poll _ _).mono (Nat.zero_le 3))
  have hpoll := h.poll (advisoryLockKey scope) (.ok acquired)
  cases acquired with
  | true => exact hpoll
  | false =>
    refine monitored_bind.2 ?_
    cases deadline with
    | none =>
      have hnone : p.timeout = none := Option.map_eq_none_iff.1 h.deadline.symm
      refine follows_sleep (hpoll.mono (by decide)) ⟨by rw [hnone]; rfl, ?_, ?_, ?_⟩
      · exact (hpoll.add _ rfl).calls.trans (by omega)
      · exact fun timeout ht => by rw [hnone] at ht; cases ht
      · exact fun timeout ht => by rw [hnone] at ht; cases ht
    | some deadline =>
      refine monitored_bind.2 (monitored_call (hpoll.mono (by decide)) (fun now => ?_) fun e =>
        (hpoll.add _ rfl).mono (by decide))
      have hcheck := hpoll.add ⟨.clock (.check deadline), .ok now⟩ rfl
      refine monitored_ite (fun _ => hcheck.mono (by decide)) fun hnow => ?_
      refine monitored_bind.2 (monitored_call (hcheck.mono (by decide)) (fun now' => ?_) fun e =>
        (hcheck.add _ rfl).mono (by decide))
      have hpace := hcheck.add ⟨.clock (.pace deadline), .ok now'⟩ rfl
      refine follows_sleep hpace ⟨h.deadline, (hpace.add _ rfl).calls, fun timeout ht hw => ?_,
        fun timeout ht hw => ?_⟩
      all_goals
        have htimes : ((w.timely && decide (w.now ≤ now)) && decide (now ≤ now')) = true := hw
        simp only [Bool.and_eq_true, decide_eq_true_eq] at htimes
        obtain ⟨⟨htimely, hcome⟩, hcome'⟩ := htimes
        -- The deadline had not come, so that each poll took its interval.
        have hdeadline : deadline = w.start + timeout := by
          have := h.deadline
          rw [Option.mem_def.1 ht] at this
          exact Option.some.inj this
        have hpaced : p.pollInterval * w.polls ≤ w.now - w.start :=
          (h.paced timeout ht htimely).resolve_right fun hpast =>
            hnow (hdeadline ▸ hpast.trans hcome)
      · show p.pollInterval * (((w.polls + 1 : ℕ) : ℚ) - 1) < timeout
        push_cast
        linarith
      · show p.pollInterval * ((w.polls + 1 : ℕ) : ℚ) ≤
            now' + min p.pollInterval (max 0 (deadline - now')) - w.start ∨
          w.start + timeout ≤ now' + min p.pollInterval (max 0 (deadline - now'))
        rcases le_total p.pollInterval (max 0 (deadline - now')) with hle | hle
        · rw [min_eq_left hle]
          left
          push_cast
          linarith
        · rw [min_eq_right hle]
          right
          have := le_max_right 0 (deadline - now')
          linarith

/-- Body, unlock and close, or only close. -/
theorem follows_afterAcquire_ok (h : w.Bounded p 0) :
    Follows p (p.afterAcquire scope (.ok ())) (fun _ => Bounded p 4) w := by
  refine ⟨h.mono (by decide), fun body => ?_⟩
  have hbody := h.add ⟨.body, body⟩ rfl
  rcases body with e | ⟨⟩
  all_goals
    refine ⟨hbody.mono (by decide), fun unlock => ?_⟩
    have hunlock := hbody.add ⟨.advisoryUnlock (advisoryLockKey scope), unlock⟩ rfl
    rcases unlock with e' | ⟨⟩
  all_goals
    refine ⟨hunlock.mono (by decide), fun close => ?_⟩
    have hclose := (hunlock.add ⟨.close, close⟩ rfl).mono (m := 4) (by decide)
    rcases close with e'' | ⟨⟩
  all_goals exact hclose

@[inherit_doc follows_afterAcquire_ok]
theorem follows_afterAcquire_error (h : w.Bounded p 3) (e : LockException) :
    Follows p (p.afterAcquire scope (.error e)) (fun _ => Bounded p 4) w := by
  refine ⟨h.mono (by decide), fun close => ?_⟩
  have hclose := h.add ⟨.close, close⟩ rfl
  rcases close with e' | ⟨⟩
  all_goals exact hclose

/-- The times at which a pass of the loop of `_lock` begins. -/
def Opens (p : PostgresAdvisoryLockProvider) : Stage → Waiting → Prop
  | .start, w => w = {}
  | .acquiring deadline, w => w.Polling p deadline

/-- The results of a pass: the next one, or the end. -/
abbrev Passed (p : PostgresAdvisoryLockProvider) : Stage ⊕ Unit → Waiting → Prop :=
  Sum.elim (Opens p) fun _ => Bounded p 4

/-- A pass is followed from where it begins. -/
theorem follows_pass (stage : Stage) (w : Waiting) (hw : Opens p stage w) :
    Follows p (p.pass scope stage) (Passed p) w := by
  cases stage with
  | acquiring deadline =>
    refine monitored_bind.2 (monitored_attempt.2 ((follows_acquirePass hw).mono ?_ ?_))
    · intro acquired w hw
      cases acquired with
      | true => exact monitored_bind.2 (follows_afterAcquire_ok hw)
      | false => exact hw
    · exact fun e w hw => monitored_bind.2 (follows_afterAcquire_error hw e)
  | start =>
    cases hw
    have hstart : Bounded p 0 {} :=
      ⟨fun timeout ht _ => (inTime_of_no_polls ht rfl).trans' (by
        have := pollInterval_pos (p := p)
        linarith), Nat.zero_le _⟩
    -- It remains to connect before the first poll.
    have hconnect (deadline : Option ℚ) (w : Waiting) (hw : w.Bounded p 2) (hpolls : w.polls = 0)
        (hnow : w.now = w.start) (hdeadline : deadline = p.timeout.map (w.start + ·)) :
        Follows p (do
          let _ ← callWith (p.connectError scope) (.connect p.dsn)
          return .inl (.acquiring deadline)) (Passed p) w := by
      refine monitored_bind.2 (monitored_handle.2 (monitored_call (hw.mono (by decide))
        (fun _ => ?_) fun e => (hw.add _ rfl).mono (by decide)))
      refine ⟨hdeadline, (hw.add _ rfl).calls, fun timeout ht _ => inTime_of_no_polls ht hpolls,
        fun timeout ht _ => .inl ?_⟩
      show p.pollInterval * (w.polls : ℚ) ≤ w.now - w.start
      rw [hpolls, hnow, Nat.cast_zero, mul_zero, sub_self]
    unfold PostgresAdvisoryLockProvider.pass
    refine monitored_bind.2 (monitored_ofExcept.2 ⟨fun _ _ => ?_,
      fun _ _ => hstart.mono (by decide)⟩)
    refine monitored_bind.2 (monitored_handle.2 (monitored_call (hstart.mono (by decide))
      (fun _ => ?_) fun e => (hstart.add _ rfl).mono (by decide)))
    have himport := hstart.add ⟨.importAsyncpg, .ok ()⟩ rfl
    refine monitored_bind.2 ?_
    unfold deadline
    cases htimeout : p.timeout with
    | none => exact hconnect none _ (himport.mono (by decide)) rfl rfl (by rw [htimeout]; rfl)
    | some timeout =>
      refine monitored_bind.2 (monitored_call (himport.mono (by decide)) (fun now => ?_) fun e =>
        (himport.add _ rfl).mono (by decide))
      exact hconnect _ _ (himport.add _ rfl) rfl rfl (by rw [htimeout]; rfl)

end

/-! ## The system -/

section System

variable [PostgresPlatform] {ι : Type} [DecidableEq ι] {p : ι → PostgresAdvisoryLockProvider}
  {scope : ι → String} {s s' : AdvisoryState ι}

/-- Every acquirer is followed in every run. -/
theorem follows_run (hrun : ReflTransGen (AdvisoryStep p scope) (.start p scope) s) (i : ι) :
    Follows (p i) (s.procs i) (Passed (p i)) (waiting (s.log i)) := by
  induction hrun with
  | refl => exact follows_pass .start _ rfl
  | @tail s s' _ hstep ih =>
    cases hstep with
    | @answer j c k r db hj hdb =>
      by_cases hij : i = j
      · subst hij
        rw [hj] at ih
        simp only [update_self, waiting_snoc]
        exact monitored_next follows_pass (ih.2 r)
      · simp only [update_of_ne hij]
        exact ih
    | lost hj => exact ih

end System

end Waiting

/-- In every run of any number of acquirers, one of them with a timeout polls less often than the
    timeout has poll intervals, but for two polls, if its clock does not go back and its sleeps last
    as long as they were asked to; and it makes four calls for each poll, and four more, at most. -/
theorem bounded_waiting [PostgresPlatform] {ι : Type} [DecidableEq ι]
    {p : ι → PostgresAdvisoryLockProvider} {scope : ι → String} {s : AdvisoryState ι}
    (hrun : ReflTransGen (AdvisoryStep p scope) (.start p scope) s) (i : ι) :
    (∀ timeout ∈ (p i).timeout, Timely (s.log i) →
      (p i).pollInterval * (((s.log i).countP AdvisoryEvent.polls : ℚ) - 2) < timeout) ∧
    (s.log i).length ≤ 4 * (s.log i).countP AdvisoryEvent.polls + 4 := by
  have hfollows := Waiting.follows_run hrun i
  have hwaits := (accounted_run hrun i).waits
  have hbounded : (waiting (s.log i)).Bounded (p i) 4 := by
    revert hfollows hwaits
    rcases s.procs i with (stage | ⟨⟩) | e | ⟨c, k⟩
    exacts [fun _ h => absurd rfl (h stage), fun h _ => h, fun h _ => h, fun h _ => h.1]
  exact ⟨fun timeout ht htimely => waiting_polls (s.log i) ▸ hbounded.inTime timeout ht htimely,
    waiting_polls (s.log i) ▸ waiting_calls (s.log i) ▸ hbounded.calls⟩

section Passes

variable [PostgresPlatform] {ι : Type} [DecidableEq ι] {p : ι → PostgresAdvisoryLockProvider}
  {scope : ι → String} {i : ι} {db : Database ι} {procs : ι → AcquirerProgram}
  {log : ι → List AdvisoryEvent}

/-- An acquirer is answered, without an effect on the database. -/
theorem step_of_answer {program program' : AcquirerProgram} {events : List AdvisoryEvent}
    {c : AdvisoryCall} {k : Except LockException c.Response → AcquirerProgram}
    {r : Except LockException c.Response} (hprogram : program = .await c k)
    (hdb : AdvisoryAnswers i db c r db) (hnext : next ((p i).pass (scope i)) (k r) = program') :
    AdvisoryStep p scope ⟨db, update procs i program, update log i events⟩
      ⟨db, update procs i program', update log i (events ++ [⟨c, r⟩])⟩ := by
  have hstep : AdvisoryStep p scope ⟨db, update procs i program, update log i events⟩ _ :=
    .answer (i := i) ((update_self ..).trans hprogram) hdb
  simpa only [update_idem, update_self, hnext] using hstep

/-- Where there is time left after a refused poll, the next pass begins after a sleep. -/
theorem exists_pass {deadline now : ℚ} (hnow : now < deadline)
    (hprocs : procs i = (p i).pass (scope i) (.acquiring (some deadline))) :
    ReflTransGen (AdvisoryStep p scope) ⟨db, procs, log⟩ ⟨db, procs, update log i (log i ++
      [⟨.tryAdvisoryLock (advisoryLockKey (scope i)), .ok false⟩] ++
      [⟨.clock (.check deadline), .ok now⟩] ++ [⟨.clock (.pace deadline), .ok now⟩] ++
      [⟨.sleep (min (p i).pollInterval (max 0 (deadline - now))), .ok ()⟩])⟩ := by
  -- The pass after the poll, from the reading of the clock for the time to sleep on.
  let paced : AdvisoryProgram ℚ := do
    let now ← awaitCall (.clock (.pace deadline))
    return min (p i).pollInterval (max 0 (deadline - now))
  let rest (seconds : AdvisoryProgram ℚ) : AcquirerProgram :=
    (p i).settle (scope i) (some deadline) do
      let _ ← awaitCall (.sleep (← seconds))
      return false
  have hchecked : next ((p i).pass (scope i)) (rest (if deadline ≤ now then
      raise ((p i).acquireTimeout (scope i) none) else paced)) = rest paced := by
    rw [if_neg (not_le.2 hnow)]
    rfl
  have hpoll : AdvisoryStep p scope ⟨db, update procs i (procs i), update log i (log i)⟩ _ :=
    step_of_answer hprocs (.refused _) rfl
  have hcheck := (ReflTransGen.single hpoll).tail (step_of_answer rfl (.clock _ now) hchecked)
  have hpace := hcheck.tail (step_of_answer rfl (.clock _ now) rfl)
  have hsleep := hpace.tail (step_of_answer rfl (.slept _ (.ok ())) hprocs.symm)
  simpa only [update_eq_self] using hsleep

end Passes

/-- Three polls are refused, with a sleep after each of the first two, and the last reading is
    that of the deadline. -/
theorem bounded_waiting_sample :
    letI := PostgresPlatform.sample
    ∃ s : AdvisoryState Unit, (s.log ()).countP AdvisoryEvent.polls = 3 ∧ (s.log ()).length = 13 ∧
      Timely (s.log ()) ∧
      (1 / 5 : ℚ) * (((s.log ()).countP AdvisoryEvent.polls : ℚ) - 2) < 30 ∧
      (s.log ()).length ≤ 4 * (s.log ()).countP AdvisoryEvent.polls + 4 := by
  let := PostgresPlatform.sample
  have hrun := ReflTransGen.refl (r := AdvisoryStep (fun _ : Unit => .sample) fun _ => "scope")
    (a := .start (fun _ => .sample) fun _ => "scope")
  have hrun := hrun.tail (.answer (i := ()) rfl (.importAsyncpg (.ok ())))
  have hrun := hrun.tail (.answer (i := ()) rfl (.clock _ 0))
  have hrun := hrun.tail (.answer (i := ()) rfl (.connected _))
  have hrun := hrun.trans (exists_pass (i := ()) (by norm_num : (0 : ℚ) < 0 + 30) rfl)
  have hrun := hrun.trans (exists_pass (i := ()) (by norm_num : (10 : ℚ) < 0 + 30) rfl)
  have hrun := hrun.tail (.answer (i := ()) rfl (.refused _))
  have hrun := hrun.tail (.answer (i := ()) rfl (.clock _ 30))
  obtain ⟨hpolls, hcalls⟩ := bounded_waiting hrun ()
  refine ⟨_, ?_, ?_, ?_, hpolls 30 rfl ?_, hcalls⟩
  · rfl
  · rfl
  all_goals
    show (((((true && decide ((0 : ℚ) ≤ 0)) && decide ((0 : ℚ) ≤ 0)) &&
      decide (0 + min (1 / 5 : ℚ) (max 0 (0 + 30 - 0)) ≤ 10)) && decide ((10 : ℚ) ≤ 10)) &&
      decide (10 + min (1 / 5 : ℚ) (max 0 (0 + 30 - 10)) ≤ 30)) = true
    norm_num

end Cogindex
