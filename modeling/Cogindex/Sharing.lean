import Cogindex.Rows
import Cogindex.Tasks

/-!
# Programs that share a dataset

Tasks of one event loop that make calls to one in-memory runtime and share its
lock provider. A program keeps to the lock of a dataset if it touches rows only
between entering and leaving it (`Locked`), and resolves the dataset before at
most (`DatasetOperation`).

* `discipline`: such programs are serializable, as those of
  `Interleaving.Discipline`;
* `SameSteps.runs`: programs that differ in when they resolved the dataset do
  the same.

The rows that a task touches are recorded with its name (`World`).
-/

namespace Cogindex

open Coroutine FakeCogneeRuntime Interleaving

variable [Platform] {α β : Type}

/-! ## Calls -/

/-- What a call has to do with the lock provider. -/
def RuntimeCall.lockOp : RuntimeCall → Option LockOp
  | .lockEnter handle => some (.enter (lockScope handle))
  | .lockExit handle => some (.leave (lockScope handle))
  | _ => none

/-- A handle of the dataset of another one, whether it exists or not. -/
structure SameDataset (d handle : DatasetHandle) : Prop where
  name : handle.name = d.name
  tenant : handle.tenant = d.tenant
  identityScope : handle.identityScope = d.identityScope

theorem SameDataset.symm {d handle : DatasetHandle} (h : SameDataset d handle) :
    SameDataset handle d :=
  ⟨h.name.symm, h.tenant.symm, h.identityScope.symm⟩

theorem SameDataset.lockScope {d handle : DatasetHandle} (h : SameDataset d handle) :
    FakeCogneeRuntime.lockScope handle = FakeCogneeRuntime.lockScope d := by
  rw [FakeCogneeRuntime.lockScope, h.identityScope, h.tenant, h.name]
  rfl

/-- Handles of one dataset differ in its id only. -/
theorem SameDataset.exists_eq {d handle handle' : DatasetHandle} (h : SameDataset d handle)
    (h' : SameDataset d handle') :
    ∃ datasetId, handle' = { handle with datasetId := datasetId } := by
  obtain ⟨name, tenant, identityScope, datasetId, hok⟩ := handle
  obtain ⟨name', tenant', identityScope', datasetId', hok'⟩ := handle'
  obtain ⟨rfl, rfl, rfl⟩ := h
  obtain ⟨rfl, rfl, rfl⟩ := h'
  exact ⟨datasetId', rfl⟩

/-- No call changes the owner of a runtime. -/
theorem perform_identityScope (f : Option Fault) (c : RuntimeCall) (s : FakeCogneeRuntime) :
    (perform f c s).2.identityScope = s.identityScope := by
  cases c with
  | resolveDataset name tenant => cases f <;> rfl
  | addDocuments handle payloads =>
    simp only [perform, addDocuments]
    split
    · rfl
    · split_ifs
      · rfl
      · rcases f with _ | ⟨e, _ | effects⟩ <;> rfl
  | purgeDocumentMemory handle ids =>
    simp only [perform, purgeDocumentMemory]
    split
    · rfl
    · rcases f with _ | ⟨e, _ | effects⟩ <;> rfl
  | deleteDocuments handle ids =>
    simp only [perform, deleteDocuments]
    split
    · rfl
    · rcases f with _ | ⟨e, _ | effects⟩ <;> rfl
  | cognifyDataset handle profile =>
    simp only [perform, cognifyDataset]
    split
    · rfl
    · rcases f with _ | ⟨e, _ | effects⟩ <;> rfl
  | teardownDataset handle =>
    simp only [perform, teardownDataset]
    split
    · rfl
    · rcases f with _ | ⟨e, _ | _ | _⟩ <;> rfl
  | listDocuments handle =>
    simp only [perform, listDocuments]
    split
    · rfl
    · cases f <;> rfl
  | lockEnter handle =>
    simp only [perform, lockEnter]
    split
    · rfl
    · cases f <;> rfl
  | lockExit handle => rfl

/-! ## Programs under the lock -/

/-- A program that has ended. -/
def Ended (p : Program α) : Prop := ∃ outcome, p = ofExcept outcome

theorem ended_ret (a : α) : Ended (.ret a : Program α) := ⟨.ok a, rfl⟩

theorem ended_raise (e : PyError) : Ended (.raise e : Program α) := ⟨.error e, rfl⟩

theorem ended_ofExcept (outcome : Except PyError α) : Ended (ofExcept outcome : Program α) :=
  ⟨outcome, rfl⟩

theorem not_ended_await {c : RuntimeCall} {k : Except PyError c.Response → Program α} :
    ¬Ended (.await c k) := by
  rintro ⟨_ | _, h⟩ <;> cases h

/-- An end is an end, whatever comes after it, if that has ended too. -/
theorem Ended.bind {p : Program α} (h : Ended p) {f : α → Program β} (hf : ∀ a, Ended (f a)) :
    Ended (p >>= f) := by
  obtain ⟨_ | a, rfl⟩ := h
  exacts [ended_raise _, hf a]

/-- A program inside the lock of a scope: it makes calls that have nothing to
    do with locks, leaves the lock, and has ended. -/
def Inside (scope : String) : Program α → Prop
  | .ret _ => False
  | .raise _ => False
  | .await c k => c.lockOp = none ∧ (∀ r, Inside scope (k r)) ∨
    c.lockOp = some (.leave scope) ∧ ∀ r, Ended (k r)

/-- A program that is about to enter the lock of a scope, and raises if it is refused. -/
inductive Locked (scope : String) : Program α → Prop
  | intro {handle : DatasetHandle} {k : Except PyError Unit → Program α}
    (hscope : lockScope handle = scope) (hrefused : ∀ e, k (.error e) = .raise e)
    (hinside : Inside scope (k (.ok ()))) : Locked scope (.await (.lockEnter handle) k)

section Locked

variable {scope : String} {p : Program α}

theorem Inside.bind (h : Inside scope p) {f : α → Program β} (hf : ∀ a, Ended (f a)) :
    Inside scope (p >>= f) := by
  induction p with
  | ret a => exact absurd h id
  | raise e => exact absurd h id
  | await c k ih =>
    rcases h with ⟨hc, hk⟩ | ⟨hc, hk⟩
    · exact .inl ⟨hc, fun r => ih r (hk r)⟩
    · exact .inr ⟨hc, fun r => (hk r).bind hf⟩

theorem Locked.bind (h : Locked scope p) {f : α → Program β} (hf : ∀ a, Ended (f a)) :
    Locked scope (p >>= f) := by
  cases h with
  | intro hscope hrefused hinside =>
    exact .intro hscope (fun e => by rw [hrefused]; rfl) (hinside.bind hf)

/-- A body without locks, and leaving the lock at last. -/
theorem inside_finally {handle : DatasetHandle} (hscope : lockScope handle = scope)
    (h : p.AllCalls fun c => c.lockOp = none) :
    Inside scope (p.finally' (await (.lockExit handle))) := by
  have hlast (outcome : Except PyError α) :
      Inside scope (await (.lockExit handle) >>= fun _ => ofExcept outcome) := by
    refine .inr ⟨congrArg (fun scope => some (LockOp.leave scope)) hscope, fun r => ?_⟩
    cases r with
    | ok _ => exact ended_ofExcept outcome
    | error e => exact ended_raise e
  induction p with
  | ret a => exact hlast (.ok a)
  | raise e => exact hlast (.error e)
  | await c k ih => exact .inl ⟨h.1, fun r => ih r (h.2 r)⟩

theorem locked_withLock {handle : DatasetHandle} (hscope : lockScope handle = scope)
    (h : p.AllCalls fun c => c.lockOp = none) : Locked scope (withLock handle p) :=
  .intro hscope (fun _ => rfl) (inside_finally hscope h)

end Locked

/-! ## Programs with another handle -/

/-- Programs that make the same calls, but for the handles of a dataset. -/
inductive SameSteps (d : DatasetHandle) : Program α → Program α → Prop
  | ret (a : α) : SameSteps d (.ret a) (.ret a)
  | raise (e : PyError) : SameSteps d (.raise e) (.raise e)
  | same (c : RuntimeCall) {k k' : Except PyError c.Response → Program α}
    (hk : ∀ r, SameSteps d (k r) (k' r)) : SameSteps d (.await c k) (.await c k')
  | enter {handle handle' : DatasetHandle} {k k' : Except PyError Unit → Program α}
    (hh : SameDataset d handle) (hh' : SameDataset d handle') (hk : ∀ r, SameSteps d (k r) (k' r)) :
    SameSteps d (.await (.lockEnter handle) k) (.await (.lockEnter handle') k')
  | exit {handle handle' : DatasetHandle} {k k' : Except PyError Unit → Program α}
    (hh : SameDataset d handle) (hh' : SameDataset d handle') (hk : ∀ r, SameSteps d (k r) (k' r)) :
    SameSteps d (.await (.lockExit handle) k) (.await (.lockExit handle') k')
  | teardown {handle handle' : DatasetHandle} {k k' : Except PyError Unit → Program α}
    (hh : SameDataset d handle) (hh' : SameDataset d handle') (hk : ∀ r, SameSteps d (k r) (k' r)) :
    SameSteps d (.await (.teardownDataset handle) k) (.await (.teardownDataset handle') k')

namespace SameSteps

variable {d : DatasetHandle} {p p' : Program α}

theorem refl (p : Program α) : SameSteps d p p := by
  induction p with
  | ret a => exact .ret a
  | raise e => exact .raise e
  | await c k ih => exact .same c ih

theorem bind (h : SameSteps d p p') {f f' : α → Program β} (hf : ∀ a, SameSteps d (f a) (f' a)) :
    SameSteps d (p >>= f) (p' >>= f') := by
  induction h with
  | ret a => exact hf a
  | raise e => exact .raise e
  | same c _ ih => exact .same c ih
  | enter hh hh' _ ih => exact .enter hh hh' ih
  | exit hh hh' _ ih => exact .exit hh hh' ih
  | teardown hh hh' _ ih => exact .teardown hh hh' ih

theorem attempt (h : SameSteps d p p') : SameSteps d p.attempt p'.attempt := by
  induction h with
  | ret a => exact .refl _
  | raise e => exact .refl _
  | same c _ ih => exact .same c ih
  | enter hh hh' _ ih => exact .enter hh hh' ih
  | exit hh hh' _ ih => exact .exit hh hh' ih
  | teardown hh hh' _ ih => exact .teardown hh hh' ih

/-- The lock of a dataset is entered through any handle. -/
theorem withLock {handle handle' : DatasetHandle} (hh : SameDataset d handle)
    (hh' : SameDataset d handle') (h : SameSteps d p p') :
    SameSteps d (withLock handle p) (withLock handle' p') := by
  refine .enter hh hh' fun r => ?_
  cases r with
  | error e => exact .raise e
  | ok _ =>
    refine h.attempt.bind fun outcome => .exit hh hh' fun r => ?_
    cases r with
    | error e => exact .raise e
    | ok _ => exact .refl _

end SameSteps

/-! ## The shared store -/

/-- How a call touches the rows of a dataset. -/
inductive RowAccess
  | delete
  | purge
  | add
  | cognify
  | teardown
  | list
  deriving DecidableEq

/-- The calls that read or write rows. -/
def RuntimeCall.access : RuntimeCall → Option RowAccess
  | .deleteDocuments _ _ => some .delete
  | .purgeDocumentMemory _ _ => some .purge
  | .addDocuments _ _ => some .add
  | .cognifyDataset _ _ => some .cognify
  | .teardownDataset _ => some .teardown
  | .listDocuments _ => some .list
  | _ => none

/-- A call for the lock touches no rows. -/
theorem RuntimeCall.access_eq_none_of_lockOp {c : RuntimeCall} {op : LockOp}
    (h : c.lockOp = some op) : c.access = none := by
  cases c <;> first | rfl | cases h

/-- The runtime, and who touched rows, in this order. -/
abbrev World (ι : Type) : Type := FakeCogneeRuntime × List (ι × RowAccess)

variable {ι : Type}

/-- The answers to a task: those of the runtime, with any fault or without. -/
def Touches (i : ι) (c : RuntimeCall) (w : World ι) (r : Except PyError c.Response)
    (w' : World ι) : Prop :=
  Answers c w.1 r w'.1 ∧ w'.2 = w.2 ++ c.access.toList.map (i, ·)

/-- Tasks that run programs, and do nothing else. -/
def sharing (ι α : Type) : TaskSystem ι (ι × Program α) (World ι) (ι × RuntimeCall)
    (fun c => c.2.Response) PyError where
  internal _ _ _ := False
  awaits
    | (i, .await c k) => some ⟨(i, c), fun r => (i, k r)⟩
    | (_, _) => none
  lockOp c := c.2.lockOp
  step c := Touches c.1 c.2

section Touches

variable {i : ι} {d : DatasetHandle} {w w' : World ι} {p p' q : Program α}

theorem Touches.identityScope {c : RuntimeCall} {r : Except PyError c.Response}
    (h : Touches i c w r w') : w'.1.identityScope = w.1.identityScope := by
  obtain ⟨⟨f, hf⟩, -⟩ := h
  have hscope := perform_identityScope f c w.1
  rwa [hf] at hscope

/-- Resolving the dataset touches nothing. -/
theorem Touches.resolve {r : Except PyError DatasetHandle}
    (hd : d.identityScope = w.1.identityScope)
    (h : Touches i (.resolveDataset d.name d.tenant) w r w') :
    w' = w ∧ ∀ handle, r = .ok handle → SameDataset d handle := by
  obtain ⟨s, log⟩ := w
  obtain ⟨s', log'⟩ := w'
  obtain ⟨⟨f, hf⟩, rfl⟩ := h
  cases f with
  | none =>
    cases hf
    refine ⟨Prod.ext rfl (List.append_nil _), ?_⟩
    rintro _ ⟨⟩
    exact ⟨rfl, rfl, hd.symm⟩
  | some f =>
    cases hf
    exact ⟨Prod.ext rfl (List.append_nil _), nofun⟩

/-- A dataset can be resolved. -/
theorem exists_resolve (i : ι) (hd : d.identityScope = w.1.identityScope) :
    ∃ handle, SameDataset d handle ∧ Touches i (.resolveDataset d.name d.tenant) w (.ok handle) w :=
  ⟨⟨d.name, d.tenant, w.1.identityScope, (w.1.dataset d.tenant d.name).map FakeDataset.datasetId,
    w.1.identityScope_ok⟩, ⟨rfl, rfl, hd.symm⟩, ⟨none, rfl⟩, (List.append_nil _).symm⟩

/-- A refused lock touches nothing. -/
theorem Touches.refused {handle : DatasetHandle} {e : PyError}
    (h : Touches i (.lockEnter handle) w (.error e) w') : w' = w := by
  obtain ⟨s, log⟩ := w
  obtain ⟨s', log'⟩ := w'
  obtain ⟨⟨f, hf⟩, rfl⟩ := h
  refine Prod.ext ?_ (List.append_nil _)
  simp only [perform, lockEnter, validateHandle] at hf
  split_ifs at hf
  · rcases f with _ | f <;> cases hf
    rfl
  · cases hf
    rfl

/-- The calls that a program makes through another handle of the dataset are
    answered in the same way. -/
theorem SameSteps.runs (h : SameSteps d p p') (hrun : Runs (Touches i) p w q w') :
    ∃ q', Runs (Touches i) p' w q' w' ∧
      ∀ outcome, q = ofExcept outcome → q' = ofExcept outcome := by
  have hnot {c : RuntimeCall} {k : Except PyError c.Response → Program α}
      {outcome : Except PyError α} {q' : Program α} :
      Coroutine.await c k = ofExcept outcome → q' = ofExcept outcome :=
    fun heq => absurd ⟨outcome, heq⟩ not_ended_await
  -- Calls with handles of the same dataset have the same answers.
  induction h generalizing w with
  | ret a => exact ⟨q, hrun, fun _ => id⟩
  | raise e => exact ⟨q, hrun, fun _ => id⟩
  | same c _ ih =>
    cases hrun with
    | refl => exact ⟨_, .refl, fun _ => hnot⟩
    | await hs hrun =>
      obtain ⟨q', hrun', hq'⟩ := ih _ hrun
      exact ⟨q', .await hs hrun', hq'⟩
  | enter hh hh' _ ih =>
    obtain ⟨datasetId, rfl⟩ := hh.exists_eq hh'
    cases hrun with
    | refl => exact ⟨_, .refl, fun _ => hnot⟩
    | await hs hrun =>
      obtain ⟨q', hrun', hq'⟩ := ih _ hrun
      exact ⟨q', .await hs hrun', hq'⟩
  | exit hh hh' _ ih =>
    obtain ⟨datasetId, rfl⟩ := hh.exists_eq hh'
    cases hrun with
    | refl => exact ⟨_, .refl, fun _ => hnot⟩
    | await hs hrun =>
      obtain ⟨q', hrun', hq'⟩ := ih _ hrun
      exact ⟨q', .await hs hrun', hq'⟩
  | teardown hh hh' _ ih =>
    obtain ⟨datasetId, rfl⟩ := hh.exists_eq hh'
    cases hrun with
    | refl => exact ⟨_, .refl, fun _ => hnot⟩
    | await hs hrun =>
      obtain ⟨q', hrun', hq'⟩ := ih _ hrun
      exact ⟨q', .await hs hrun', hq'⟩

end Touches

/-! ## Operations -/

/-- A program that takes the lock of a dataset at most once, after it has
    resolved the dataset at most. -/
inductive DatasetOperation (d : DatasetHandle) : Program α → Prop
  | ended {p : Program α} (h : Ended p) : DatasetOperation d p
  | locked {p : Program α} (h : Locked (lockScope d) p) : DatasetOperation d p
  | resolves {k : Except PyError DatasetHandle → Program α} (hrefused : ∀ e, Ended (k (.error e)))
    (hok : ∀ handle, SameDataset d handle →
      Ended (k (.ok handle)) ∨ Locked (lockScope d) (k (.ok handle)))
    (hsame : ∀ handle handle', SameDataset d handle → SameDataset d handle' →
      SameSteps d (k (.ok handle)) (k (.ok handle'))) :
    DatasetOperation d (.await (.resolveDataset d.name d.tenant) k)

/-- A program that has ended awaits nothing. -/
theorem Ended.awaits_eq_none {l : ι × Program α} (h : Ended l.2) :
    (sharing ι α).awaits l = none := by
  obtain ⟨i, p⟩ := l
  obtain ⟨_ | _, hp⟩ := h
  all_goals
    simp only at hp
    subst hp
    rfl

/-- A program inside a lock has not ended. -/
theorem Inside.not_ended {scope : String} {p : Program α} (h : Inside scope p) : ¬Ended p := by
  rintro ⟨_ | _, rfl⟩ <;> exact h

section DatasetOperation

variable {d : DatasetHandle} {i : ι} {p : Program α} {c : ι × RuntimeCall}
  {k : Except PyError c.2.Response → ι × Program α} {w w' : World ι}
  {r : Except PyError c.2.Response}

omit [Platform] in
theorem kindOf_enter_iff {scope : String} {o : Option LockOp} :
    TaskSystem.kindOf scope o = .enter ↔ o = some (.enter scope) := by
  unfold TaskSystem.kindOf
  split
  all_goals first | split_ifs <;> simp_all | simp

omit [Platform] in
theorem kindOf_leave_iff {scope : String} {o : Option LockOp} :
    TaskSystem.kindOf scope o = .leave ↔ o = some (.leave scope) := by
  unfold TaskSystem.kindOf
  split
  all_goals first | split_ifs <;> simp_all | simp

theorem Locked.lockOp_eq {scope : String} (h : Locked scope p)
    (ha : (sharing ι α).awaits (i, p) = some ⟨c, k⟩) : c.2.lockOp = some (.enter scope) := by
  cases h with
  | intro hscope =>
    cases ha
    exact congrArg (fun scope => some (LockOp.enter scope)) hscope

/-- An operation awaits the lock, or resolves the dataset. -/
theorem DatasetOperation.awaits (h : DatasetOperation d p)
    (ha : (sharing ι α).awaits (i, p) = some ⟨c, k⟩) :
    (c.2.lockOp = some (.enter (lockScope d)) ∧ Locked (lockScope d) p) ∨
      c.2 = .resolveDataset d.name d.tenant := by
  cases h with
  | ended h => obtain ⟨_ | _, rfl⟩ := h <;> cases ha
  | locked h => exact .inl ⟨h.lockOp_eq ha, h⟩
  | resolves =>
    cases ha
    exact .inr rfl

/-- What an operation awaits after it resolved the dataset. -/
theorem DatasetOperation.resolved (h : DatasetOperation d p)
    (ha : (sharing ι α).awaits (i, p) = some ⟨c, k⟩) (hc : c.2 = .resolveDataset d.name d.tenant)
    (hd : d.identityScope = w.1.identityScope) (hs : Touches c.1 c.2 w r w') :
    w' = w ∧ ∃ q, k r = (i, q) ∧ (Ended q ∨ Locked (lockScope d) q) := by
  cases h with
  | ended h => obtain ⟨_ | _, rfl⟩ := h <;> cases ha
  | locked h =>
    cases h with
    | intro => cases ha; cases hc
  | resolves hrefused hok =>
    cases ha
    obtain ⟨rfl, hsame⟩ := hs.resolve hd
    cases r with
    | error e => exact ⟨rfl, _, rfl, .inl (hrefused e)⟩
    | ok handle => exact ⟨rfl, _, rfl, hok handle (hsame handle rfl)⟩

/-- A program under the lock goes on under it, or leaves it and has ended. -/
theorem Inside.awaits {scope : String} (h : Inside scope p)
    (ha : (sharing ι α).awaits (i, p) = some ⟨c, k⟩) :
    (c.2.lockOp = none ∧ ∀ r, ∃ q, k r = (i, q) ∧ Inside scope q) ∨
      c.2.lockOp = some (.leave scope) ∧ ∀ r, ∃ q, k r = (i, q) ∧ Ended q := by
  cases p with
  | ret a => exact absurd h id
  | raise e => exact absurd h id
  | await c' k' =>
    cases ha
    rcases h with ⟨hc, hk⟩ | ⟨hc, hk⟩
    · exact .inl ⟨hc, fun r => ⟨_, rfl, hk r⟩⟩
    · exact .inr ⟨hc, fun r => ⟨_, rfl, hk r⟩⟩

/-- What a program about to enter the lock does when it is, or is not, let in. -/
theorem Locked.awaits {scope : String} (h : Locked scope p)
    (ha : (sharing ι α).awaits (i, p) = some ⟨c, k⟩) (hs : Touches c.1 c.2 w r w') :
    (∃ e, r = .error e ∧ k r = (i, .raise e) ∧ w' = w) ∨
      ∃ v q, r = .ok v ∧ k r = (i, q) ∧ Inside scope q := by
  cases h with
  | intro hscope hrefused hinside =>
    cases ha
    cases r with
    | error e => exact .inl ⟨e, rfl, congrArg _ (hrefused e), hs.refused⟩
    | ok v => exact .inr ⟨v, _, rfl, rfl, hinside⟩

/-- An operation that asks for the lock is about to enter it. -/
theorem DatasetOperation.locked_of_enter (h : DatasetOperation d p)
    (ha : (sharing ι α).awaits (i, p) = some ⟨c, k⟩)
    (hc : TaskSystem.kindOf (lockScope d) c.2.lockOp = .enter) : Locked (lockScope d) p := by
  rcases h.awaits ha with ⟨-, hlocked⟩ | hresolve
  · exact hlocked
  · rw [hresolve] at hc
    cases hc

/-- Operations on a dataset are serializable. -/
def discipline (d : DatasetHandle) (ι α : Type) :
    Discipline ((sharing ι α).under (lockScope d)) where
  Good w := d.identityScope = w.1.identityScope
  Outside i l := l.1 = i ∧ DatasetOperation d l.2
  Inside i l := l.1 = i ∧ Cogindex.Inside (lockScope d) l.2
  good hd hs := hd.trans hs.identityScope.symm
  outside_internal _ h := absurd h id
  outside_plain := by
    rintro _ ⟨i, p⟩ c k s r t ⟨rfl, h⟩ ha hc hd hs
    rcases h.awaits ha with ⟨henter, -⟩ | hresolve
    -- Outside, the only plain call is the resolution.
    · exact absurd (hc.symm.trans (kindOf_enter_iff.2 henter)) (by simp)
    · obtain ⟨ht, q, hk, hq⟩ := h.resolved ha hresolve hd hs
      rw [hk]
      exact ⟨ht, rfl, hq.elim .ended .locked⟩
  outside_refused := by
    rintro _ ⟨i, p⟩ c k s e t ⟨rfl, h⟩ ha hc hd hs
    rcases (h.locked_of_enter ha hc).awaits ha hs with ⟨e, -, hk, ht⟩ | ⟨_, _, hr, -⟩
    · rw [hk]
      exact ⟨ht, rfl, .ended (ended_raise e)⟩
    · cases hr
  outside_enter := by
    rintro _ ⟨i, p⟩ c k s v t ⟨rfl, h⟩ ha hc hd hs
    rcases (h.locked_of_enter ha hc).awaits ha hs with ⟨e, hr, -⟩ | ⟨_, q, -, hk, hq⟩
    · cases hr
    · rw [hk]
      exact ⟨rfl, hq⟩
  outside_leave := by
    rintro _ ⟨i, p⟩ c k ⟨rfl, h⟩ ha hc
    have hleave : c.2.lockOp = some (.leave (lockScope d)) := kindOf_leave_iff.1 hc
    rcases h.awaits ha with ⟨henter, -⟩ | hresolve
    · cases henter.symm.trans hleave
    · rw [hresolve] at hleave
      cases hleave
  inside_internal _ h := h
  inside_plain := by
    rintro _ ⟨i, p⟩ c k s r t ⟨rfl, h⟩ ha hc hd hs
    rcases h.awaits ha with ⟨-, hk⟩ | ⟨hleave, -⟩
    · obtain ⟨q, hq, hinside⟩ := hk r
      rw [hq]
      exact ⟨rfl, hinside⟩
    · exact absurd (hc.symm.trans (kindOf_leave_iff.2 hleave)) (by simp)
  inside_enter := by
    rintro _ ⟨i, p⟩ c k ⟨rfl, h⟩ ha hc
    have henter := kindOf_enter_iff.1 hc
    rcases h.awaits ha with ⟨hnone, -⟩ | ⟨hleave, -⟩
    · cases hnone.symm.trans henter
    · cases hleave.symm.trans henter
  inside_leave := by
    rintro _ ⟨i, p⟩ c k s r t ⟨rfl, h⟩ ha hc hd hs
    rcases h.awaits ha with ⟨hnone, -⟩ | ⟨-, hk⟩
    · cases hnone.symm.trans (kindOf_leave_iff.1 hc)
    · obtain ⟨q, hq, hended⟩ := hk r
      rw [hq]
      exact ⟨rfl, .ended hended⟩

end DatasetOperation

end Cogindex
