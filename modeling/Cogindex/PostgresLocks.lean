import Cogindex.Library.Coroutine
import Cogindex.Locks
import Cogindex.Spec
import Mathlib.Algebra.Order.Ring.Rat

/-!
# Locks in PostgreSQL

`PostgresAdvisoryLockProvider` shares the lock of a scope with other processes:
an acquirer opens a connection of its own, polls for an advisory lock of
PostgreSQL under a key that the scope is hashed to, runs its body, and in the
end unlocks and closes. Any of its awaits may raise, be cancelled, or run into
the deadline.

* `PostgresAdvisoryLockProvider.pass`: `_lock` as a coroutine, with the polls of
  `_acquire` as the passes of a loop;
* `AdvisoryAnswers`: what the database makes of a call, be it that it fails after it
  had its effect;
* `AdvisoryStep`: any number of acquirers and the database, in any order. A
  session may be lost at any time, but not while its body runs.
-/

namespace Cogindex

open Coroutine Function Relation

/-! ## Calls -/

/-- What the provider uses of Python, besides the platform. -/
class PostgresPlatform extends Platform where
  /-- `hashlib.blake2b(data, digest_size=8).digest()`, as a big-endian number. -/
  blake2b8 : List UInt8 → BitVec 64
  /-- `str` of a number of seconds. -/
  secondsStr : ℚ → String

/-- The class of an exception that comes from outside, as far as it matters. -/
inductive ExternalKind
  | timeoutError
  | importError
  /-- Any other exception, `CancelledError` included. -/
  | other
  deriving DecidableEq

/-- An exception that comes from outside, as an object. -/
structure ExternalException where
  kind : ExternalKind
  object : ℕ
  deriving DecidableEq

/-- An exception: one from outside, or one that the provider raises, from another. -/
inductive LockException
  | external (e : ExternalException)
  | provider (e : PyError) (cause : Option ExternalException)
  deriving DecidableEq

/-- The places where the clock of the event loop is read: for the deadline,
    after a refused poll, and for the time to sleep. -/
inductive ClockSite
  | start
  | check (deadline : ℚ)
  | pace (deadline : ℚ)

/-- What an acquirer does outside itself. -/
inductive AdvisoryCall
  | importAsyncpg
  | clock (site : ClockSite)
  | connect (dsn : String)
  /-- `SELECT pg_try_advisory_lock($1)`. -/
  | tryAdvisoryLock (key : ℤ)
  | sleep (seconds : ℚ)
  /-- The body of the `async with`. -/
  | body
  /-- `SELECT pg_advisory_unlock($1)`. -/
  | advisoryUnlock (key : ℤ)
  | close

/-- What a call returns. -/
@[reducible] def AdvisoryCall.Response : AdvisoryCall → Type
  | clock _ => ℚ
  | tryAdvisoryLock _ => Bool
  | _ => Unit

/-- A coroutine of an acquirer. -/
abbrev AdvisoryProgram : Type → Type := Coroutine AdvisoryCall AdvisoryCall.Response LockException

/-- Awaiting a call. -/
abbrev awaitCall (c : AdvisoryCall) : AdvisoryProgram c.Response := Coroutine.call c

/-! ## The provider -/

/-- The provider: how long it waits, and how long it sleeps between two polls. -/
structure PostgresAdvisoryLockProvider where
  dsn : String
  timeout : Option ℚ
  pollInterval : ℚ
  dsn_ok : ¬(isBlank dsn ∨ '\x00' ∈ dsn.toList)
  timeout_pos : ¬timeout.any (· ≤ 0)
  pollInterval_pos : ¬pollInterval ≤ 0

/-- `PostgresAdvisoryLockProvider(dsn, timeout=..., poll_interval=...)`. -/
def PostgresAdvisoryLockProvider.init (dsn : String) (timeout : Option ℚ) (pollInterval : ℚ) :
    Except PyError PostgresAdvisoryLockProvider :=
  if hdsn : isBlank dsn ∨ '\x00' ∈ dsn.toList then
    .error ⟨.valueError, "dsn must be a non-empty string without NUL characters"⟩
  else if htimeout : timeout.any (· ≤ 0) then
    .error ⟨.valueError, "timeout must be a finite positive number or None"⟩
  else if hpoll : pollInterval ≤ 0 then
    .error ⟨.valueError, "poll_interval must be a finite positive number"⟩
  else .ok ⟨dsn, timeout, pollInterval, hdsn, htimeout, hpoll⟩

section

variable [PostgresPlatform]

/-- The key of a scope, in the signed 64-bit keys of PostgreSQL. -/
def advisoryLockKey (scope : String) : ℤ := (PostgresPlatform.blake2b8 (utf8 scope)).toInt

namespace PostgresAdvisoryLockProvider

variable (p : PostgresAdvisoryLockProvider) (scope : String)

/-- `timed out after {self._timeout}s`. -/
def timedOut : String :=
  "timed out after " ++ p.timeout.elim "None" PostgresPlatform.secondsStr ++ "s "

/-- The error of a connection that is not opened in time. -/
def connectError : LockException → LockException
  | .external ⟨.timeoutError, object⟩ => .provider ⟨.lockTimeoutError,
      p.timedOut ++ "connecting for advisory lock " ++ Platform.strRepr scope⟩
      (some ⟨.timeoutError, object⟩)
  | e => e

/-- The error of a lock that is not acquired in time. -/
def acquireTimeout (cause : Option ExternalException) : LockException :=
  .provider ⟨.lockTimeoutError,
    p.timedOut ++ "acquiring advisory lock " ++ Platform.strRepr scope ++
      " (key " ++ toString (advisoryLockKey scope) ++ ")"⟩ cause

@[inherit_doc acquireTimeout]
def acquireError : LockException → LockException
  | .external ⟨.timeoutError, object⟩ => p.acquireTimeout scope (some ⟨.timeoutError, object⟩)
  | e => e

/-- The error of a missing driver. -/
def importError : LockException → LockException
  | .external ⟨.importError, object⟩ => .provider ⟨.compatibilityError,
      "PostgresAdvisoryLockProvider requires asyncpg; reinstall with the 'postgres' extra to " ++
        "pull it in"⟩ (some ⟨.importError, object⟩)
  | e => e

/-- A call whose errors are replaced. -/
def callWith (f : LockException → LockException) (c : AdvisoryCall) : AdvisoryProgram c.Response :=
  (awaitCall c).handle fun e => raise (f e)

/-- The time at which waiting ends. -/
def deadline : AdvisoryProgram (Option ℚ) :=
  match p.timeout with
  | none => ret none
  | some timeout => do return some ((← awaitCall (.clock .start)) + timeout)

/-- After a refused poll: how long to sleep before the next one, if there is time. -/
def remaining : Option ℚ → AdvisoryProgram ℚ
  | none => ret p.pollInterval
  | some deadline => do
    let now ← awaitCall (.clock (.check deadline))
    if deadline ≤ now then raise (p.acquireTimeout scope none)
    else
      -- The clock has gone on since: what is left may be nothing.
      let now ← awaitCall (.clock (.pace deadline))
      return min p.pollInterval (max 0 (deadline - now))

/-- A pass of the loop of `_acquire`: whether it is the last one. -/
def acquirePass (deadline : Option ℚ) : AdvisoryProgram Bool := do
  let acquired ← awaitCall (.tryAdvisoryLock (advisoryLockKey scope))
  if acquired then return true
  else
    let seconds ← p.remaining scope deadline
    let _ ← awaitCall (.sleep seconds)
    return false

/-- The end of `_lock`: an error of the cleanup counts if there is no other. -/
def conclude (primary unlock close : Except LockException Unit) : AdvisoryProgram Unit :=
  match primary, unlock, close with
  | .error e, _, _ => raise e
  | .ok (), .error e, _ => raise e
  | .ok (), .ok (), .error e => raise e
  | .ok (), .ok (), .ok () => ret ()

/-- `_lock`, from the end of `_acquire` on. -/
def afterAcquire (acquired : Except LockException Unit) : AdvisoryProgram Unit := do
  let primary ← attempt do
    let _ ← ofExcept (acquired.mapError (p.acquireError scope))
    awaitCall .body
  -- `lock_acquired` is set once `_acquire` returned, whatever the body does.
  let unlock ← if acquired.isOk then attempt (awaitCall (.advisoryUnlock (advisoryLockKey scope)))
    else ret (.ok ())
  let close ← attempt (awaitCall .close)
  conclude primary unlock close

/-- Where the loop of `_lock` is entered. -/
inductive Stage
  | start
  | acquiring (deadline : Option ℚ)

/-- `_acquire` after a pass of its loop: it goes on, or the rest of `_lock` follows. -/
def settle (deadline : Option ℚ) (passed : AdvisoryProgram Bool) :
    AdvisoryProgram (Stage ⊕ Unit) := do
  match ← attempt passed with
  -- Only here does the loop go on; every other way leads to the cleanup.
  | .ok false => return .inl (.acquiring deadline)
  | .ok true => return .inr (← p.afterAcquire scope (.ok ()))
  | .error e => return .inr (← p.afterAcquire scope (.error e))

/-- `lock`, and `_lock` up to the loop of `_acquire`; or a pass of the loop. -/
def pass : Stage → AdvisoryProgram (Stage ⊕ Unit)
  | .start => do
    let _ ← ofExcept ((validateScope scope).mapError (.provider · none))
    let _ ← callWith importError .importAsyncpg
    let deadline ← p.deadline
    -- Until here there is no connection to close.
    let _ ← callWith (p.connectError scope) (.connect p.dsn)
    return .inl (.acquiring deadline)
  | .acquiring deadline => p.settle scope deadline (p.acquirePass scope deadline)

end PostgresAdvisoryLockProvider

end

/-! ## The database -/

/-- The sessions of the acquirers, and which of them holds a key: at most one,
    and a live one. -/
structure Database (ι : Type) where
  live : ι → Prop
  holder : ℤ → Option ι
  live_holder : ∀ key i, holder key = some i → live i

namespace Database

variable {ι : Type}

/-- No sessions. -/
def empty : Database ι where
  live _ := False
  holder _ := none
  live_holder key i hi := by cases hi

variable (db : Database ι) (i : ι)

/-- A session begins. -/
def connect : Database ι where
  live j := db.live j ∨ j = i
  holder := db.holder
  live_holder key j hj := .inl (db.live_holder key j hj)

/-- A key is granted to a live session. -/
def grant (hi : db.live i) (key : ℤ) : Database ι where
  live := db.live
  holder := update db.holder key (some i)
  live_holder key' j hj := by
    by_cases hkey : key' = key
    · rw [hkey, update_self] at hj
      exact Option.some.inj hj ▸ hi
    · rw [update_of_ne hkey] at hj
      exact db.live_holder key' j hj

variable [DecidableEq ι]

/-- A session no longer holds a key. -/
def unlock (key : ℤ) : Database ι where
  live := db.live
  holder := update db.holder key ((db.holder key).filter (· ≠ i))
  live_holder key' j hj := by
    by_cases hkey : key' = key
    · rw [hkey, update_self] at hj
      exact db.live_holder key j (Option.eq_some_of_filter_eq_some hj)
    · rw [update_of_ne hkey] at hj
      exact db.live_holder key' j hj

/-- A session ends, and holds no key any more. -/
def disconnect : Database ι where
  live j := db.live j ∧ j ≠ i
  holder key := (db.holder key).filter (· ≠ i)
  live_holder key j hj := by
    obtain ⟨hj, hne⟩ := Option.filter_eq_some_iff.1 hj
    exact ⟨db.live_holder key j hj, by simpa using hne⟩

variable {db i} {j : ι} {key key' : ℤ}

omit [DecidableEq ι] in
theorem holder_grant {hi : db.live i} : (db.grant i hi key').holder key = some j ↔
    if key = key' then i = j else db.holder key = some j := by
  simp only [grant, update_apply]
  split_ifs <;> simp

theorem holder_unlock : (db.unlock i key').holder key = some j ↔
    db.holder key = some j ∧ ¬(key = key' ∧ j = i) := by
  simp only [unlock, update_apply]
  split_ifs with hkey
  · simp [hkey]
  · simp [hkey]

theorem holder_disconnect : (db.disconnect i).holder key = some j ↔
    db.holder key = some j ∧ j ≠ i := by
  simp [disconnect]

end Database

section AdvisoryAnswers

variable {ι : Type} [DecidableEq ι]

/-- What the world does when it answers a call of the acquirer `i`. A call that
    raises may have had its effect. -/
inductive AdvisoryAnswers (i : ι) (db : Database ι) :
    (c : AdvisoryCall) → Except LockException c.Response → Database ι → Prop
  | importAsyncpg (r : Except LockException Unit) : AdvisoryAnswers i db .importAsyncpg r db
  | clock (site : ClockSite) (now : ℚ) : AdvisoryAnswers i db (.clock site) (.ok now) db
  | connected (dsn : String) : AdvisoryAnswers i db (.connect dsn) (.ok ()) (db.connect i)
  | notConnected (dsn : String) (e : LockException) :
    AdvisoryAnswers i db (.connect dsn) (.error e) db
  | granted (key : ℤ) (hi : db.live i) (hfree : ∀ j, db.holder key = some j → j = i) :
    AdvisoryAnswers i db (.tryAdvisoryLock key) (.ok true) (db.grant i hi key)
  | refused (key : ℤ) : AdvisoryAnswers i db (.tryAdvisoryLock key) (.ok false) db
  | pollFailed (key : ℤ) (e : LockException) :
    AdvisoryAnswers i db (.tryAdvisoryLock key) (.error e) db
  | pollLost (key : ℤ) (e : LockException) (hi : db.live i)
    (hfree : ∀ j, db.holder key = some j → j = i) :
    AdvisoryAnswers i db (.tryAdvisoryLock key) (.error e) (db.grant i hi key)
  | slept (seconds : ℚ) (r : Except LockException Unit) : AdvisoryAnswers i db (.sleep seconds) r db
  | body (r : Except LockException Unit) : AdvisoryAnswers i db .body r db
  | unlocked (key : ℤ) : AdvisoryAnswers i db (.advisoryUnlock key) (.ok ()) (db.unlock i key)
  | unlockFailed (key : ℤ) (e : LockException) :
    AdvisoryAnswers i db (.advisoryUnlock key) (.error e) db
  | unlockLost (key : ℤ) (e : LockException) :
    AdvisoryAnswers i db (.advisoryUnlock key) (.error e) (db.unlock i key)
  | closed : AdvisoryAnswers i db .close (.ok ()) (db.disconnect i)
  | closeFailed (e : LockException) : AdvisoryAnswers i db .close (.error e) db
  | closeLost (e : LockException) : AdvisoryAnswers i db .close (.error e) (db.disconnect i)

variable {i j : ι} {db db' : Database ι} {c : AdvisoryCall} {r : Except LockException c.Response}
  {key : ℤ}

/-- The world leaves the keys of other sessions alone. -/
theorem AdvisoryAnswers.frame (h : AdvisoryAnswers i db c r db') (hj : j ≠ i) :
    db'.holder key = some j ↔ db.holder key = some j := by
  have hgrant {k : ℤ} (hi : db.live i) (hfree : ∀ j, db.holder k = some j → j = i) :
      (db.grant i hi k).holder key = some j ↔ db.holder key = some j := by
    rw [Database.holder_grant]
    split_ifs with hkey
    -- The key that is granted was not held by another session.
    · exact ⟨fun h => absurd h.symm hj, fun h => absurd (hfree j (hkey ▸ h)) hj⟩
    · exact Iff.rfl
  have hunlock {k : ℤ} : (db.unlock i k).holder key = some j ↔ db.holder key = some j :=
    Database.holder_unlock.trans (and_iff_left fun h => hj h.2)
  have hdisconnect : (db.disconnect i).holder key = some j ↔ db.holder key = some j :=
    Database.holder_disconnect.trans (and_iff_left hj)
  cases h with
  | granted k hi hfree => exact hgrant hi hfree
  | pollLost k e hi hfree => exact hgrant hi hfree
  | unlocked k => exact hunlock
  | unlockLost k e => exact hunlock
  | closed => exact hdisconnect
  | closeLost e => exact hdisconnect
  | _ => exact Iff.rfl

/-- A session holds only what it held, and what it asked for. -/
theorem AdvisoryAnswers.own (h : AdvisoryAnswers i db c r db') (hkey : db'.holder key = some i) :
    db.holder key = some i ∨ c = .tryAdvisoryLock key := by
  have hgrant {k : ℤ} (hi : db.live i) (hk : (db.grant i hi k).holder key = some i) :
      db.holder key = some i ∨ AdvisoryCall.tryAdvisoryLock k = .tryAdvisoryLock key := by
    rw [Database.holder_grant] at hk
    split_ifs at hk with hkey
    exacts [.inr (congrArg _ hkey.symm), .inl hk]
  cases h with
  | granted k hi hfree => exact hgrant hi hkey
  | pollLost k e hi hfree => exact hgrant hi hkey
  | unlocked k => exact .inl (Database.holder_unlock.1 hkey).1
  | unlockLost k e => exact .inl (Database.holder_unlock.1 hkey).1
  | closed => exact .inl (Database.holder_disconnect.1 hkey).1
  | closeLost e => exact .inl (Database.holder_disconnect.1 hkey).1
  | _ => exact .inl hkey

end AdvisoryAnswers

/-! ## The system -/

/-- A call of an acquirer, and its answer. -/
abbrev AdvisoryEvent : Type := Event AdvisoryCall AdvisoryCall.Response LockException

/-- The coroutine of an acquirer, within a pass of its loop. -/
abbrev AcquirerProgram : Type := AdvisoryProgram (PostgresAdvisoryLockProvider.Stage ⊕ Unit)

/-- The body of an acquirer runs. -/
def InBody (program : AcquirerProgram) : Prop := ∃ k, program = .await .body k

/-- How an acquirer ended. -/
def Finished (program : AcquirerProgram) : Except LockException Unit → Prop
  | .ok () => program = ret (.inr ())
  | .error e => program = raise e

/-- The database, and what is left of each acquirer, with a record of its calls. -/
structure AdvisoryState (ι : Type) where
  db : Database ι
  procs : ι → AcquirerProgram
  log : ι → List AdvisoryEvent

section System

variable [PostgresPlatform] {ι : Type} [DecidableEq ι] (p : ι → PostgresAdvisoryLockProvider)
  (scope : ι → String)

/-- Nobody has begun. -/
def AdvisoryState.start : AdvisoryState ι where
  db := .empty
  procs i := (p i).pass (scope i) .start
  log _ := []

/-- A step of one acquirer, or the end of a session from outside. -/
inductive AdvisoryStep : AdvisoryState ι → AdvisoryState ι → Prop
  | answer {s : AdvisoryState ι} {i : ι} {c : AdvisoryCall}
    {k : Except LockException c.Response → AcquirerProgram} {r : Except LockException c.Response}
    {db : Database ι} (hi : s.procs i = .await c k) (hdb : AdvisoryAnswers i s.db c r db) :
    AdvisoryStep s ⟨db, update s.procs i (next ((p i).pass (scope i)) (k r)),
      update s.log i (s.log i ++ [⟨c, r⟩])⟩
  | lost {s : AdvisoryState ι} {i : ι} (hi : ¬InBody (s.procs i)) :
    AdvisoryStep s ⟨s.db.disconnect i, s.procs, s.log⟩

end System

end Cogindex
