import Cogindex.PostgresLocks

/-!
# Advisory locks exclude, clean up and mask no error

An acquirer is judged by the calls it made: how many connections it opened and
closed, how often it unlocked and ran its body, and which error it owes to its
caller. These are summed up in a `Tally`, and the coroutine of `_lock` is
followed by a monitor with the tallies as its states (`monitored_pass`): the
loop of `_acquire` runs on the tally of one opened connection, a body is run
only right after the lock was granted, and at the end the books are balanced
(`Tally.Settled`).

The monitor also says which keys an acquirer asks for, and that it asks for
none any more once it released its lock. With what the database does on a call
(`AdvisoryAnswers.frame`, `AdvisoryAnswers.own`), that decides who holds a key in any
interleaving (`Accounted.step`).
-/

namespace Cogindex

open Coroutine Function Relation

/-! ## Events -/

namespace AdvisoryEvent

/-- A connection was opened. -/
def opened : AdvisoryEvent → Bool
  | ⟨.connect _, .ok _⟩ => true
  | _ => false

/-- A connection was to be closed. -/
def closes : AdvisoryEvent → Bool
  | ⟨.close, _⟩ => true
  | _ => false

/-- The lock was to be released. -/
def unlocks : AdvisoryEvent → Bool
  | ⟨.advisoryUnlock _, _⟩ => true
  | _ => false

/-- The body was run. -/
def runsBody : AdvisoryEvent → Bool
  | ⟨.body, _⟩ => true
  | _ => false

/-- The lock was granted, which completes the acquisition. -/
def acquires : AdvisoryEvent → Bool
  | ⟨.tryAdvisoryLock _, .ok acquired⟩ => acquired
  | _ => false

/-- The unlock or the close succeeded. -/
def releases : AdvisoryEvent → Bool
  | ⟨.advisoryUnlock _, .ok _⟩ => true
  | ⟨.close, .ok _⟩ => true
  | _ => false

section

variable [PostgresPlatform] (p : PostgresAdvisoryLockProvider) (scope : String)

/-- The error that an event of the acquisition or of the body ends it with. -/
def primaryError : AdvisoryEvent → Option LockException
  | ⟨.importAsyncpg, .error e⟩ => some (PostgresAdvisoryLockProvider.importError e)
  | ⟨.clock .start, .error e⟩ => some e
  | ⟨.connect _, .error e⟩ => some (p.connectError scope e)
  | ⟨.clock (.check deadline), .ok now⟩ =>
    if deadline ≤ now then some (p.acquireTimeout scope none) else none
  | ⟨.clock _, .error e⟩ => some (p.acquireError scope e)
  | ⟨.tryAdvisoryLock _, .error e⟩ => some (p.acquireError scope e)
  | ⟨.sleep _, .error e⟩ => some (p.acquireError scope e)
  | ⟨.body, .error e⟩ => some e
  | _ => none

end

/-- The error of an event of the cleanup. -/
def cleanupError : AdvisoryEvent → Option LockException
  | ⟨.advisoryUnlock _, .error e⟩ => some e
  | ⟨.close, .error e⟩ => some e
  | _ => none

end AdvisoryEvent

section AdvisoryAnswers

variable {ι : Type} [DecidableEq ι] {i : ι} {db db' : Database ι} {c : AdvisoryCall}
  {r : Except LockException c.Response}

/-- A key that was acquired is held. -/
theorem AdvisoryAnswers.acquired (h : AdvisoryAnswers i db c r db')
    (hevent : AdvisoryEvent.acquires ⟨c, r⟩ = true) :
    ∃ key, c = .tryAdvisoryLock key ∧ db'.holder key = some i := by
  cases h with
  | granted key hi hfree =>
    refine ⟨key, rfl, Database.holder_grant.2 ?_⟩
    rw [if_pos rfl]
  | _ => cases hevent

/-- A key that was released is not held. -/
theorem AdvisoryAnswers.released (h : AdvisoryAnswers i db c r db')
    (hevent : AdvisoryEvent.releases ⟨c, r⟩ = true) :
    (∃ key, c = .advisoryUnlock key ∧ db'.holder key ≠ some i) ∨
      ∀ key, db'.holder key ≠ some i := by
  cases h with
  | unlocked key => exact .inl ⟨key, rfl, fun hkey => (Database.holder_unlock.1 hkey).2 ⟨rfl, rfl⟩⟩
  | closed => exact .inr fun key hkey => (Database.holder_disconnect.1 hkey).2 rfl
  | _ => cases hevent

end AdvisoryAnswers

section

variable [PostgresPlatform] (p : PostgresAdvisoryLockProvider) (scope : String)

/-- The error of an invalid scope, before anything is done. -/
def scopeError : Option LockException :=
  match validateScope scope with
  | .error e => some (.provider e none)
  | .ok () => none

/-- What the caller of an acquirer is told: the error of the scope, of the
    acquisition or of the body, else the first error of the cleanup. -/
def reported (primary cleanup : Option LockException) : Except LockException Unit :=
  ((scopeError scope).or (primary.or cleanup)).elim (.ok ()) .error

/-! ## Tallies -/

/-- What the calls of an acquirer sum up to. -/
@[ext]
structure Tally where
  opened : ℕ := 0
  closes : ℕ := 0
  unlocks : ℕ := 0
  bodies : ℕ := 0
  /-- The lock was granted at some time. -/
  acquired : Bool := false
  /-- The lock was granted by the last call. -/
  granted : Bool := false
  released : Bool := false
  primary : Option LockException := none
  cleanup : Option LockException := none

/-- The tally of a record. -/
def tally (log : List AdvisoryEvent) : Tally where
  opened := log.countP AdvisoryEvent.opened
  closes := log.countP AdvisoryEvent.closes
  unlocks := log.countP AdvisoryEvent.unlocks
  bodies := log.countP AdvisoryEvent.runsBody
  acquired := log.any AdvisoryEvent.acquires
  granted := log.getLast?.any AdvisoryEvent.acquires
  released := log.any AdvisoryEvent.releases
  primary := log.findSome? (AdvisoryEvent.primaryError p scope)
  cleanup := log.findSome? AdvisoryEvent.cleanupError

namespace Tally

/-- One more event. -/
def add (t : Tally) (event : AdvisoryEvent) : Tally where
  opened := t.opened + event.opened.toNat
  closes := t.closes + event.closes.toNat
  unlocks := t.unlocks + event.unlocks.toNat
  bodies := t.bodies + event.runsBody.toNat
  acquired := t.acquired || event.acquires
  granted := event.acquires
  released := t.released || event.releases
  primary := t.primary.or (event.primaryError p scope)
  cleanup := t.cleanup.or event.cleanupError

/-- The books of an acquirer that ended: what was opened was closed, what was
    acquired was unlocked after one run of the body, and no error was masked. -/
structure Settled (t : Tally) (outcome : Except LockException Unit) : Prop where
  opened : t.opened ≤ 1
  closes : t.closes = t.opened
  unlocks : t.unlocks = t.acquired.toNat
  bodies : t.bodies = t.acquired.toNat
  outcome : outcome = reported scope t.primary t.cleanup

/-- Where an acquirer may make a call: keys are the ones of its scope, the lock
    is asked for before its release, and the body is run once it was granted. -/
def Allows (call : AdvisoryCall) (t : Tally) : Prop :=
  match call with
  | .tryAdvisoryLock key => key = advisoryLockKey scope ∧ t.released = false
  | .advisoryUnlock key => key = advisoryLockKey scope
  | .body => t.granted = true
  | _ => True

end Tally

theorem tally_snoc (log : List AdvisoryEvent) (event : AdvisoryEvent) :
    tally p scope (log ++ [event]) = (tally p scope log).add p scope event := by
  have hcount (f : AdvisoryEvent → Bool) : (log ++ [event]).countP f =
      log.countP f + (f event).toNat := by
    rw [List.countP_append, List.countP_singleton, Bool.toNat, Bool.cond_eq_ite]
  ext1
  iterate 4 exact hcount _
  all_goals simp [tally, Tally.add]

/-! ## The coroutine, followed -/

/-- A coroutine of an acquirer, followed from a tally on, which settles the
    books when it ends. -/
abbrev Followed {α : Type} (program : AdvisoryProgram α) (Q : α → Tally → Prop) (t : Tally) :
    Prop :=
  Monitored (Tally.add p scope) (Tally.Allows scope) program Q
    (fun e t => t.Settled scope (.error e)) t

namespace PostgresAdvisoryLockProvider

variable {p scope}

/-- The tally at which a pass of the loop of `_lock` begins. -/
def Stage.Opens (scope : String) : Stage → Tally → Prop
  | .start, t => t = {}
  | .acquiring _, t => t = { opened := 1 } ∧ scopeError scope = none

/-- The results of a pass: the next one, or the end. -/
abbrev passed (scope : String) : Stage ⊕ Unit → Tally → Prop :=
  Sum.elim (Stage.Opens scope) fun _ t => t.Settled scope (.ok ())

/-- After a refused poll, either there is time to sleep or the acquisition ends. -/
theorem monitored_remaining (deadline : Option ℚ) :
    Monitored (Tally.add p scope) (Tally.Allows scope) (p.remaining scope deadline)
      (fun _ t => t = { opened := 1 })
      (fun e t => t = { opened := 1, primary := some (p.acquireError scope e) })
      { opened := 1 } := by
  cases deadline with
  | none => exact rfl
  | some deadline =>
    refine monitored_bind.2 (monitored_call trivial (fun now => ?_) fun e => rfl)
    have hadd : Tally.add p scope { opened := 1 } ⟨.clock (.check deadline), .ok now⟩ =
        { opened := 1
          primary := if deadline ≤ now then some (p.acquireTimeout scope none) else none } := rfl
    rw [hadd]
    by_cases hnow : deadline ≤ now
    · rw [if_pos hnow, if_pos hnow]
      exact rfl
    · rw [if_neg hnow, if_neg hnow]
      exact monitored_bind.2 (monitored_call trivial (fun now => rfl) fun e => rfl)

/-- A pass of the loop is granted the lock, is refused it, or fails. -/
theorem monitored_acquirePass (deadline : Option ℚ) :
    Monitored (Tally.add p scope) (Tally.Allows scope) (p.acquirePass scope deadline)
      (fun acquired t => t = { opened := 1, acquired := acquired, granted := acquired })
      (fun e t => t = { opened := 1, primary := some (p.acquireError scope e) })
      { opened := 1 } := by
  refine monitored_bind.2 (monitored_call ⟨rfl, rfl⟩ (fun acquired => ?_) fun e => rfl)
  cases acquired with
  | true => exact rfl
  | false =>
    refine monitored_bind.2 ((monitored_remaining deadline).mono ?_ fun _ _ h => h)
    rintro seconds _ rfl
    exact monitored_bind.2 (monitored_call trivial (fun _ => rfl) fun e => rfl)

section

variable (hscope : scopeError scope = none)

include hscope

/-- If the lock was not acquired, the connection is closed. -/
theorem followed_afterAcquire_error (e : LockException) :
    Followed p scope (p.afterAcquire scope (.error e)) (fun _ t => t.Settled scope (.ok ()))
      { opened := 1, primary := some (p.acquireError scope e) } := by
  refine ⟨trivial, fun close => ?_⟩
  rcases close with e' | ⟨⟩
  all_goals exact ⟨le_rfl, rfl, rfl, rfl, by rw [reported, hscope]; rfl⟩

/-- If it was, the body is run, the lock is released and the connection is closed. -/
theorem followed_afterAcquire_ok :
    Followed p scope (p.afterAcquire scope (.ok ())) (fun _ t => t.Settled scope (.ok ()))
      { opened := 1, acquired := true, granted := true } := by
  -- Body, unlock and close, each of which may raise.
  refine ⟨rfl, fun body => ?_⟩
  rcases body with e | ⟨⟩
  all_goals
    refine ⟨rfl, fun unlock => ?_⟩
    rcases unlock with e' | ⟨⟩
  all_goals
    refine ⟨trivial, fun close => ?_⟩
    rcases close with e'' | ⟨⟩
  all_goals exact ⟨le_rfl, rfl, rfl, rfl, by rw [reported, hscope]; rfl⟩

/-- A pass of the polling loop, with what follows it. -/
theorem followed_acquiring (deadline : Option ℚ) :
    Followed p scope (p.pass scope (.acquiring deadline)) (passed scope) { opened := 1 } := by
  refine monitored_bind.2 (monitored_attempt.2 ((monitored_acquirePass deadline).mono ?_ ?_))
  · rintro acquired _ rfl
    cases acquired with
    | true => exact monitored_bind.2 (followed_afterAcquire_ok hscope)
    | false => exact ⟨rfl, hscope⟩
  · rintro e _ rfl
    exact monitored_bind.2 (followed_afterAcquire_error hscope e)

end

/-- The way to the loop: the scope is checked, and a connection opened. -/
theorem followed_start : Followed p scope (p.pass scope .start) (passed scope) {} := by
  cases hvalid : validateScope scope with
  | error e =>
    have hscope : scopeError scope = some (.provider e none) := by rw [scopeError, hvalid]
    have hpass : p.pass scope .start = raise (.provider e none) := by
      rw [pass, hvalid]
      rfl
    rw [hpass]
    exact ⟨Nat.zero_le _, rfl, rfl, rfl, by rw [reported, hscope]; rfl⟩
  | ok u =>
    have hscope : scopeError scope = none := by rw [scopeError, hvalid]
    have hfailed (e : LockException) : ({ primary := some e } : Tally).Settled scope (.error e) :=
      ⟨Nat.zero_le _, rfl, rfl, rfl, by rw [reported, hscope]; rfl⟩
    -- Whatever the deadline, it remains to connect.
    have hconnect (deadline : Option ℚ) : Followed p scope (do
        let _ ← callWith (p.connectError scope) (.connect p.dsn)
        return .inl (.acquiring deadline)) (passed scope) {} :=
      monitored_bind.2 (monitored_handle.2 (monitored_call trivial (fun _ => ⟨rfl, hscope⟩)
        fun e => hfailed _))
    rw [pass, hvalid]
    refine monitored_bind.2 (monitored_bind.2 (monitored_handle.2 (monitored_call trivial
      (fun _ => ?_) fun e => hfailed _)))
    refine monitored_bind.2 ?_
    unfold deadline
    cases p.timeout with
    | none => exact hconnect none
    | some timeout =>
      exact monitored_bind.2 (monitored_call trivial (fun now => hconnect _) fun e => hfailed e)

/-- A pass is followed from where it begins. -/
theorem followed_pass (stage : Stage) (t : Tally) (ht : stage.Opens scope t) :
    Followed p scope (p.pass scope stage) (passed scope) t := by
  cases stage with
  | start =>
    cases ht
    exact followed_start
  | acquiring deadline =>
    obtain ⟨rfl, hscope⟩ := ht
    exact followed_acquiring hscope deadline

theorem pass_ne (stage stage' : Stage) : p.pass scope stage ≠ ret (.inl stage') := by
  cases stage with
  | start =>
    unfold pass
    cases validateScope scope <;> exact fun h => by cases h
  | acquiring deadline => exact fun h => by cases h

end PostgresAdvisoryLockProvider

variable {p scope}

/-- A body is only run right after the lock was granted. -/
theorem granted_of_inBody {program : AcquirerProgram}
    {Q : PostgresAdvisoryLockProvider.Stage ⊕ Unit → Tally → Prop} {t : Tally}
    (h : Followed p scope program Q t) (hbody : InBody program) : t.granted = true := by
  obtain ⟨k, rfl⟩ := hbody
  exact h.1

/-! ## The system -/

section System

variable {ι : Type} {db db' : Database ι} {i : ι} {program : AcquirerProgram}
  {log : List AdvisoryEvent}

/-- What holds of an acquirer at any time. -/
structure Accounted (p : PostgresAdvisoryLockProvider) (scope : String) (db : Database ι) (i : ι)
    (program : AcquirerProgram) (log : List AdvisoryEvent) : Prop where
  followed : Followed p scope program (PostgresAdvisoryLockProvider.passed scope)
    (tally p scope log)
  /-- It is not between two passes. -/
  waits : ∀ stage, program ≠ ret (.inl stage)
  /-- It holds no key but the one of its scope, and none that it released. -/
  holds : ∀ key, db.holder key = some i →
    key = advisoryLockKey scope ∧ (tally p scope log).released = false
  /-- It holds the key while its body runs. -/
  inBody : InBody program → db.holder (advisoryLockKey scope) = some i

theorem Accounted.start (i : ι) : Accounted p scope .empty i (p.pass scope .start) [] where
  followed := PostgresAdvisoryLockProvider.followed_start
  waits := PostgresAdvisoryLockProvider.pass_ne .start
  holds key hkey := by cases hkey
  inBody hbody := by
    have hgranted := granted_of_inBody PostgresAdvisoryLockProvider.followed_start hbody
    cases hgranted

/-- An acquirer after an answer to its call. -/
theorem Accounted.answer [DecidableEq ι] {c : AdvisoryCall}
    {k : Except LockException c.Response → AcquirerProgram} {r : Except LockException c.Response}
    (h : Accounted p scope db i (.await c k) log) (hdb : AdvisoryAnswers i db c r db') :
    Accounted p scope db' i (next (p.pass scope) (k r)) (log ++ [⟨c, r⟩]) := by
  obtain ⟨hallows, hk⟩ := h.followed
  have hnext := monitored_next PostgresAdvisoryLockProvider.followed_pass (hk r)
  refine ⟨tally_snoc p scope log _ ▸ hnext, next_ne PostgresAdvisoryLockProvider.pass_ne,
    fun key hkey => ?_, fun hbody => ?_⟩
  · rw [tally_snoc]
    -- The key was held before, or it was just asked for.
    rcases hdb.own hkey with hheld | rfl
    · obtain ⟨rfl, hreleased⟩ := h.holds key hheld
      refine ⟨rfl, Bool.or_eq_false_iff.2 ⟨hreleased, Bool.eq_false_iff.2 fun hevent => ?_⟩⟩
      rcases hdb.released hevent with ⟨key', rfl, hfree⟩ | hfree
      exacts [hfree (hallows ▸ hkey), hfree _ hkey]
    · exact ⟨hallows.1, Bool.or_eq_false_iff.2 ⟨hallows.2, rfl⟩⟩
  · -- The body begins, so that the call was the poll that got the lock.
    obtain ⟨key, rfl, hkey⟩ := hdb.acquired (granted_of_inBody hnext hbody)
    exact hallows.1 ▸ hkey

/-- What others do, and the end of its session, leave an acquirer accounted for. -/
theorem Accounted.frame (h : Accounted p scope db i program log)
    (hdb : ∀ key, db'.holder key = some i → db.holder key = some i)
    (hbody : InBody program → ∀ key, db.holder key = some i → db'.holder key = some i) :
    Accounted p scope db' i program log :=
  ⟨h.followed, h.waits, fun key hkey => h.holds key (hdb key hkey),
    fun hin => hbody hin _ (h.inBody hin)⟩

/-- Every step leaves every acquirer accounted for. -/
theorem Accounted.step [DecidableEq ι] {p : ι → PostgresAdvisoryLockProvider}
    {scope : ι → String} {s s' : AdvisoryState ι}
    (h : Accounted (p i) (scope i) s.db i (s.procs i) (s.log i))
    (hstep : AdvisoryStep p scope s s') :
    Accounted (p i) (scope i) s'.db i (s'.procs i) (s'.log i) := by
  cases hstep with
  | @answer j c k r db hj hdb =>
    by_cases hij : i = j
    · subst hij
      simp only [update_self]
      exact (hj ▸ h).answer hdb
    · simp only [update_of_ne hij]
      exact h.frame (fun key => (hdb.frame hij).1) fun _ key => (hdb.frame hij).2
  | @lost j hj =>
    -- The session that is lost is not that of a running body.
    refine h.frame (fun key hkey => (Database.holder_disconnect.1 hkey).1) fun hbody key hkey => ?_
    refine Database.holder_disconnect.2 ⟨hkey, ?_⟩
    rintro rfl
    exact hj hbody

variable [DecidableEq ι] {p : ι → PostgresAdvisoryLockProvider} {scope : ι → String}
  {s : AdvisoryState ι}

theorem accounted_run (hrun : ReflTransGen (AdvisoryStep p scope) (.start p scope) s) (i : ι) :
    Accounted (p i) (scope i) s.db i (s.procs i) (s.log i) := by
  induction hrun with
  | refl => exact .start i
  | tail _ hstep ih => exact ih.step hstep

/-- In every run of any number of acquirers, each of them awaits a call or has
    ended. If it ended, it closed what it opened, it unlocked once and ran its
    body once if it acquired the lock, and not at all otherwise, and its caller
    is told the error of the acquisition or the body, else the first one of the
    cleanup. Bodies under the same key do not overlap, and an acquirer whose
    unlock or close succeeded holds no key. -/
theorem advisory_locks (hrun : ReflTransGen (AdvisoryStep p scope) (.start p scope) s) :
    (∀ i, (∃ outcome, Finished (s.procs i) outcome) ∨ ∃ c k, s.procs i = .await c k) ∧
    (∀ i outcome, Finished (s.procs i) outcome →
      (s.log i).countP AdvisoryEvent.opened ≤ 1 ∧
      (s.log i).countP AdvisoryEvent.closes = (s.log i).countP AdvisoryEvent.opened ∧
      (s.log i).countP AdvisoryEvent.unlocks = ((s.log i).any AdvisoryEvent.acquires).toNat ∧
      (s.log i).countP AdvisoryEvent.runsBody = ((s.log i).any AdvisoryEvent.acquires).toNat ∧
      outcome = reported (scope i)
        ((s.log i).findSome? (AdvisoryEvent.primaryError (p i) (scope i)))
        ((s.log i).findSome? AdvisoryEvent.cleanupError)) ∧
    (∀ i j, InBody (s.procs i) → InBody (s.procs j) →
      advisoryLockKey (scope i) = advisoryLockKey (scope j) → i = j) ∧
    ∀ i, (s.log i).any AdvisoryEvent.releases = true → ∀ key, s.db.holder key ≠ some i := by
  refine ⟨fun i => ?_, fun i outcome houtcome => ?_, fun i j hi hj hkey => ?_,
    fun i hreleased key hkey => ?_⟩
  · have hwaits := (accounted_run hrun i).waits
    cases hprogram : s.procs i with
    | ret result =>
      rcases result with stage | ⟨⟩
      exacts [absurd hprogram (hwaits stage), .inl ⟨.ok (), rfl⟩]
    | raise e => exact .inl ⟨.error e, rfl⟩
    | await c k => exact .inr ⟨c, k, rfl⟩
  · -- A coroutine that ended is followed no further, and its books are balanced.
    have hfollowed := (accounted_run hrun i).followed
    have hsettled : (tally (p i) (scope i) (s.log i)).Settled (scope i) outcome := by
      rcases outcome with e | ⟨⟩
      all_goals
        rw [show s.procs i = _ from houtcome] at hfollowed
        exact hfollowed
    exact ⟨hsettled.opened, hsettled.closes, hsettled.unlocks, hsettled.bodies, hsettled.outcome⟩
  · -- Both hold the key, which has one holder.
    have hholder := (accounted_run hrun i).inBody hi
    rw [hkey, (accounted_run hrun j).inBody hj] at hholder
    exact (Option.some.inj hholder).symm
  · have hfree := ((accounted_run hrun i).holds key hkey).2
    exact absurd hreleased (Bool.eq_false_iff.1 hfree)

end System

end

/-! ## A sample run -/

/-- A sample platform, with the digest of the text `scope` and the text of `30.0`. -/
abbrev PostgresPlatform.sample : PostgresPlatform where
  toPlatform := .sample
  blake2b8 _ := 0xed24ca8b8438b351
  secondsStr _ := "30.0"

/-- A provider with the default times. -/
def PostgresAdvisoryLockProvider.sample : PostgresAdvisoryLockProvider where
  dsn := "postgresql://example"
  timeout := some 30
  pollInterval := 1 / 5
  dsn_ok := by decide
  timeout_pos := by decide
  pollInterval_pos := by norm_num

/-- The body fails, and then the unlock: the caller is told the error of the body. -/
theorem advisory_locks_sample :
    letI := PostgresPlatform.sample
    let key := -1358738486991473839
    let bodyError : LockException := .external ⟨.other, 0⟩
    ∃ s : AdvisoryState Unit,
      (s.log ()).map Event.call = [.importAsyncpg, .clock .start, .connect "postgresql://example",
        .tryAdvisoryLock key, .body, .advisoryUnlock key, .close] ∧
      Finished (s.procs ()) (.error bodyError) ∧
      .error bodyError = reported "scope"
        ((s.log ()).findSome? (AdvisoryEvent.primaryError .sample "scope"))
        ((s.log ()).findSome? AdvisoryEvent.cleanupError) ∧
      ∀ key, s.db.holder key ≠ some () := by
  let := PostgresPlatform.sample
  have hrun := ReflTransGen.refl (r := AdvisoryStep (fun _ : Unit => .sample) fun _ => "scope")
    (a := .start (fun _ => .sample) fun _ => "scope")
  have hrun := hrun.tail (.answer (i := ()) rfl (.importAsyncpg (.ok ())))
  have hrun := hrun.tail (.answer (i := ()) rfl (.clock _ 0))
  have hrun := hrun.tail (.answer (i := ()) rfl (.connected _))
  have hrun := hrun.tail (.answer (i := ()) rfl (.granted _ (by exact .inr rfl) fun _ _ => rfl))
  have hrun := hrun.tail (.answer (i := ()) rfl (.body (.error (.external ⟨.other, 0⟩))))
  have hrun := hrun.tail (.answer (i := ()) rfl (.unlockFailed _ (.external ⟨.other, 1⟩)))
  have hrun := hrun.tail (.answer (i := ()) rfl .closed)
  obtain ⟨-, hfinished, -, hreleased⟩ := advisory_locks hrun
  obtain ⟨-, -, -, -, hreported⟩ := hfinished () (.error _) rfl
  refine ⟨_, ?_, ?_, hreported, hreleased () rfl⟩
  · rfl
  · rfl

end Cogindex
