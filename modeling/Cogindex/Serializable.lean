import Cogindex.Datasets
import Cogindex.Sharing
import Cogindex.Verify

/-!
# Writers and verification are serializable

Document batches, teardowns and verifications of one dataset (`Job`) that run
concurrently, each through its own handle and each call failing or not, do what
they would do one after the other, in the order in which they got the lock
(`SerialRun`): `writers_and_verification_serializable`.
-/

namespace Cogindex

open Coroutine FakeCogneeRuntime Function Interleaving Relation

section

variable [Platform] {α ι : Type}

/-! ## Serial runs -/

/-- Programs that are run one after the other, and their outcomes. -/
inductive SerialRun (program : ι → Program α) (w : World ι) :
    List (ι × Except PyError α) → World ι → Prop
  | nil : SerialRun program w [] w
  | snoc {order : List (ι × Except PyError α)} {w' w'' : World ι} {i : ι}
    {outcome : Except PyError α} (h : SerialRun program w order w')
    (hrun : Runs (Touches i) (program i) w' (ofExcept outcome) w'') :
    SerialRun program w (order ++ [(i, outcome)]) w''

/-- What a program has left to do is what it would do from its start. -/
def Replays (d : DatasetHandle) (i : ι) (program p : Program α) : Prop :=
  ∀ (w : World ι) (q : Program α) (w' : World ι), d.identityScope = w.1.identityScope →
    Runs (Touches i) p w q w' →
    ∃ q', Runs (Touches i) program w q' w' ∧ ∀ outcome, q = ofExcept outcome → q' = ofExcept outcome

/-- A task that has not been let in: it has ended, or what it has left to do is
    what it would do from its start. -/
inductive Pending (d : DatasetHandle) (i : ι) (program : Program α) : Program α → Prop
  | ended {p : Program α} (h : Ended p) : Pending d i program p
  | locked {p : Program α} (h : Locked (lockScope d) p) (hreplays : Replays d i program p) :
    Pending d i program p
  | start (h : DatasetOperation d program) : Pending d i program program

section Pending

variable {d : DatasetHandle} {i : ι} {program p : Program α} {c : ι × RuntimeCall}
  {k : Except PyError c.2.Response → ι × Program α} {w w' : World ι}
  {r : Except PyError c.2.Response} {l : ι × Program α}

theorem Replays.refl : Replays d i p p := fun _ q _ _ hrun => ⟨q, hrun, fun _ => id⟩

/-- A task that resolves the dataset could as well resolve it later. -/
theorem Pending.resolved (h : Pending d i program p)
    (ha : (sharing ι α).awaits (i, p) = some ⟨c, k⟩)
    (hc : TaskSystem.kindOf (lockScope d) c.2.lockOp = .plain)
    (hd : d.identityScope = w.1.identityScope) (hs : Touches c.1 c.2 w r w') :
    ∃ q, k r = (i, q) ∧ Pending d i program q := by
  have hlocked {p : Program α} (h : Locked (lockScope d) p)
      (ha : (sharing ι α).awaits (i, p) = some ⟨c, k⟩) : False :=
    absurd (hc.symm.trans (kindOf_enter_iff.2 (h.lockOp_eq ha))) (by simp)
  cases h with
  | ended h => obtain ⟨_ | _, rfl⟩ := h <;> cases ha
  | locked h => exact (hlocked h ha).elim
  | start h =>
    cases h with
    | ended h => obtain ⟨_ | _, rfl⟩ := h <;> cases ha
    | locked h => exact (hlocked h ha).elim
    | resolves hrefused hok hsame =>
      cases ha
      cases r with
      | error e => exact ⟨_, rfl, .ended (hrefused e)⟩
      | ok handle =>
        have hhandle := (hs.resolve hd).2 handle rfl
        refine ⟨_, rfl, ?_⟩
        -- A handle resolved later is that of the same dataset, so that the job can
        -- start from the resolution as well.
        rcases hok handle hhandle with hended | hlocked
        · exact .ended hended
        · refine .locked hlocked fun w q w' hw hrun => ?_
          obtain ⟨handle', hhandle', hresolve⟩ := exists_resolve i hw
          obtain ⟨q', hrun', hq'⟩ := (hsame _ _ hhandle hhandle').runs hrun
          exact ⟨q', .await hresolve hrun', hq'⟩

/-- A task that asks for the lock would do so from its start. -/
theorem Pending.locked_of_enter (h : Pending d i program p)
    (ha : (sharing ι α).awaits (i, p) = some ⟨c, k⟩)
    (hc : TaskSystem.kindOf (lockScope d) c.2.lockOp = .enter) :
    Locked (lockScope d) p ∧ Replays d i program p := by
  cases h with
  | ended h => obtain ⟨_ | _, rfl⟩ := h <;> cases ha
  | locked h hreplays => exact ⟨h, hreplays⟩
  | start h => exact ⟨h.locked_of_enter ha hc, .refl⟩

/-- Calls under the lock are a run, and stay under it. -/
theorem runs_of_within (hp : Inside (lockScope d) p)
    (h : ((sharing ι α).under (lockScope d)).Within (i, p) w l w') :
    ∃ q, l = (i, q) ∧ Inside (lockScope d) q ∧ Runs (Touches i) p w q w' := by
  generalize hl : (i, p) = l₀ at h
  induction h with
  | refl => exact ⟨p, hl.symm, hp, .refl⟩
  -- The call of the section is the one that the task awaits.
  | call _ ha hc hs ih =>
    obtain ⟨q, rfl, hq, hrun⟩ := ih
    obtain ⟨_, hnext⟩ | ⟨hleave, -⟩ := hq.awaits ha
    · cases q with
      | ret a => cases ha
      | raise e => cases ha
      | await c' k' =>
        cases ha
        obtain ⟨q', hq', hinside⟩ := hnext _
        cases hq'
        exact ⟨_, rfl, hinside, hrun.snoc hs⟩
    · exact absurd (hc.symm.trans (kindOf_leave_iff.2 hleave)) (by simp)

/-- A section of a task is a run of it. -/
theorem runs_of_section (hp : Locked (lockScope d) p)
    (h : ((sharing ι α).under (lockScope d)).Section (i, p) w l w') :
    ∃ q, l = (i, q) ∧ Inside (lockScope d) q ∧ Runs (Touches i) p w q w' := by
  cases h with
  | intro ha hc hs hwithin =>
    cases hp with
    | intro hscope hrefused hinside =>
      cases ha
      obtain ⟨q, hq, hinside', hrun⟩ := runs_of_within hinside hwithin
      exact ⟨q, hq, hinside', .await hs hrun⟩

/-- Leaving the lock ends a run. -/
theorem runs_of_leave {q : Program α} (hq : Inside (lockScope d) q)
    (ha : (sharing ι α).awaits (i, q) = some ⟨c, k⟩)
    (hc : TaskSystem.kindOf (lockScope d) c.2.lockOp = .leave) {w'' : World ι}
    (hs : Touches c.1 c.2 w' r w'') (hrun : Runs (Touches i) p w q w') :
    ∃ outcome, k r = (i, ofExcept outcome) ∧ Runs (Touches i) p w (ofExcept outcome) w'' := by
  rcases hq.awaits ha with ⟨hnone, -⟩ | ⟨-, hnext⟩
  · cases hnone.symm.trans (kindOf_leave_iff.1 hc)
  · cases q with
    | ret a => cases ha
    | raise e => cases ha
    | await c' k' =>
      cases ha
      obtain ⟨_, hq', outcome, rfl⟩ := hnext r
      have hrun' := hrun.snoc hs
      rw [(Prod.mk.inj hq').2] at hrun'
      exact ⟨outcome, hq', hrun'⟩

end Pending

/-! ## The serial order -/

/-- The tasks that were let in ran one after the other, and have ended. -/
structure Serialized (d : DatasetHandle) (program : ι → Program α) (w : World ι)
    (order : List (ι × Except PyError α)) (x : World ι × (ι → ι × Program α)) : Prop where
  run : SerialRun program w order x.1
  good : d.identityScope = x.1.1.identityScope
  nodup : (order.map Prod.fst).Nodup
  done : ∀ y ∈ order, x.2 y.1 = (y.1, ofExcept y.2)
  pending : ∀ i, i ∉ order.map Prod.fst → ∃ p, x.2 i = (i, p) ∧ Pending d i (program i) p

omit [Platform] in
/-- One more entry, of a task that has none. -/
theorem nodup_map_fst_snoc {β : Type} {xs : List (ι × β)} {i : ι} (h : (xs.map Prod.fst).Nodup)
    (hi : i ∉ xs.map Prod.fst) (b : β) : ((xs ++ [(i, b)]).map Prod.fst).Nodup := by
  rw [List.map_append, List.map_singleton, ← List.concat_eq_append]
  exact h.concat hi

section Serialized

variable [DecidableEq ι] {d : DatasetHandle} {program : ι → Program α} {w : World ι}
  {order : List (ι × Except PyError α)} {x x' : World ι × (ι → ι × Program α)} {i : ι}

omit [DecidableEq ι] in
/-- A task that awaits something was not let in before. -/
theorem Serialized.pending_of_awaits (h : Serialized d program w order x)
    {c : ι × RuntimeCall} {k : Except PyError c.2.Response → ι × Program α}
    (ha : (sharing ι α).awaits (x.2 i) = some ⟨c, k⟩) :
    i ∉ order.map Prod.fst ∧ ∃ p, x.2 i = (i, p) ∧ Pending d i (program i) p := by
  have hi : i ∉ order.map Prod.fst := by
    intro hi
    obtain ⟨y, hy, rfl⟩ := List.mem_map.1 hi
    rw [h.done y hy] at ha
    obtain ⟨j, _ | _⟩ := y <;> cases ha
  exact ⟨hi, h.pending i hi⟩

/-- The tasks that were let in are left alone by one that was not. -/
theorem Serialized.done_update (h : Serialized d program w order x) (hi : i ∉ order.map Prod.fst)
    (l : ι × Program α) {y : ι × Except PyError α} (hy : y ∈ order) :
    Function.update x.2 i l y.1 = (y.1, ofExcept y.2) := by
  have hne : y.1 ≠ i := fun heq => hi (heq ▸ List.mem_map_of_mem hy)
  rw [update_of_ne hne, h.done y hy]

/-- A task that has not been let in goes on. -/
theorem Serialized.update (h : Serialized d program w order x) (hi : i ∉ order.map Prod.fst)
    {q : Program α} (hq : Pending d i (program i) q) :
    Serialized d program w order (x.1, update x.2 i (i, q)) where
  run := h.run
  good := h.good
  nodup := h.nodup
  done _ hy := h.done_update hi _ hy
  pending j hj := by
    by_cases hji : j = i
    · subst hji
      exact ⟨q, update_self _ _ _, hq⟩
    · obtain ⟨p, hp, hpending⟩ := h.pending j hj
      exact ⟨p, (update_of_ne hji _ _).trans hp, hpending⟩

/-- A task that was let in has run. -/
theorem Serialized.snoc (h : Serialized d program w order x) (hi : i ∉ order.map Prod.fst)
    {outcome : Except PyError α} {w' : World ι}
    (hrun : Runs (Touches i) (program i) x.1 (ofExcept outcome) w') :
    Serialized d program w (order ++ [(i, outcome)])
      (w', Function.update x.2 i (i, ofExcept outcome)) where
  run := h.run.snoc hrun
  good := by
    have hscope : ∀ {p q : Program α} {w w' : World ι}, Runs (Touches i) p w q w' →
        w'.1.identityScope = w.1.identityScope := by
      intro p q w w' hrun
      induction hrun with
      | refl => rfl
      | await hs _ ih => exact ih.trans hs.identityScope
    exact h.good.trans (hscope hrun).symm
  nodup := nodup_map_fst_snoc h.nodup hi _
  done y hy := by
    rcases List.mem_append.1 hy with hy | hy
    · exact h.done_update hi _ hy
    · rw [List.mem_singleton.1 hy]
      exact update_self _ _ _
  pending j hj := by
    rw [List.map_append, List.mem_append, not_or] at hj
    have hji : j ≠ i := fun heq => hj.2 (heq ▸ List.mem_singleton_self _)
    obtain ⟨p, hp, hpending⟩ := h.pending j hj.1
    exact ⟨p, (update_of_ne hji _ _).trans hp, hpending⟩

omit [DecidableEq ι] in
/-- The task that is inside does what it would do from its start. -/
theorem Serialized.held (h : Serialized d program w order x) {l : ι × Program α} {w' : World ι}
    (hsection : ((sharing ι α).under (lockScope d)).Section (x.2 i) x.1 l w') :
    i ∉ order.map Prod.fst ∧ ∃ p q, l = (i, p) ∧ Inside (lockScope d) p ∧
      Runs (Touches i) (program i) x.1 q w' ∧ ∀ {c : ι × RuntimeCall}
        {k : Except PyError c.2.Response → ι × Program α} {r : Except PyError c.2.Response}
        {w'' : World ι}, (sharing ι α).awaits l = some ⟨c, k⟩ →
        TaskSystem.kindOf (lockScope d) c.2.lockOp = .leave → Touches c.1 c.2 w' r w'' →
        ∃ outcome, k r = (i, ofExcept outcome) ∧
          Runs (Touches i) (program i) x.1 (ofExcept outcome) w'' := by
  have hsection' := hsection
  cases hsection' with
  | intro ha hc =>
    obtain ⟨hi, p, hp, hpending⟩ := h.pending_of_awaits ha
    rw [hp] at ha hsection
    obtain ⟨hlocked, hreplays⟩ := hpending.locked_of_enter ha hc
    obtain ⟨q, rfl, hinside, hrun⟩ := runs_of_section hlocked hsection
    obtain ⟨q', hprogram, -⟩ := hreplays _ _ _ h.good hrun
    refine ⟨hi, q, q', rfl, hinside, hprogram, fun ha hc hs => ?_⟩
    obtain ⟨outcome, hk, hrun'⟩ := runs_of_leave hinside ha hc hs hrun
    obtain ⟨q'', hprogram', hq''⟩ := hreplays _ _ _ h.good hrun'
    rw [hq'' outcome rfl] at hprogram'
    exact ⟨outcome, hk, hprogram'⟩

theorem Serialized.step (h : Serialized d program w order x)
    (hs : ((sharing ι α).under (lockScope d)).SerialStep (discipline d ι α).Good x x') :
    ∃ order', Serialized d program w order' x' := by
  cases hs with
  | internal hmove => exact absurd hmove id
  | plain ha hc hgood hs =>
    obtain ⟨hi, p, hp, hpending⟩ := h.pending_of_awaits ha
    simp only at hp
    rw [hp] at ha
    obtain ⟨q, hq, hpending'⟩ := hpending.resolved ha hc hgood hs
    rw [hq]
    exact ⟨order, h.update hi hpending'⟩
  -- A task that was refused the lock ends there, and never ran.
  | refused ha hc hgood hs =>
    obtain ⟨hi, p, hp, hpending⟩ := h.pending_of_awaits ha
    simp only at hp
    rw [hp] at ha
    rcases (hpending.locked_of_enter ha hc).1.awaits ha hs with ⟨e, -, hq, -⟩ | ⟨_, _, hr, -⟩
    · rw [hq]
      exact ⟨order, h.update hi (.ended (ended_raise e))⟩
    · cases hr
  | «section» hsection ha hc hs =>
    obtain ⟨hi, p, q, rfl, -, -, hleave⟩ := h.held hsection
    obtain ⟨outcome, hk, hprogram⟩ := hleave ha hc hs
    rw [hk]
    exact ⟨_, h.snoc hi hprogram⟩

end Serialized

/-! ## Writers and verification -/

/-- What runs concurrently: a batch of documents, through the handle of its
    handler, a teardown, or a verification. -/
inductive Job
  | batch (h : DocumentHandler) (actions : List DocumentAction)
  | teardown
  | verification (runtimeKey : String) (expected : List ExpectedDocument)

namespace Job

/-- The program of a job on a dataset. -/
def program (name tenant : String) : Job → Program (Option VerificationReport)
  | .batch h actions => do
    h.apply actions
    return none
  | .teardown => do
    tearDown name tenant
    return none
  | .verification runtimeKey expected => do
    return some (← verifyDataset runtimeKey name expected tenant)

/-- A job on a dataset: the handler of a batch has any handle of it. -/
def On (d : DatasetHandle) : Job → Prop
  | .batch h _ => SameDataset d h.handle
  | .teardown => True
  | .verification _ _ => True

/-- The phases of a batch have nothing to do with locks. -/
theorem allCalls_applyBatch (h : DocumentHandler) (b : Batch) :
    (h.applyBatch b).AllCalls fun c => c.lockOp = none := by
  refine AllCalls.bind (.ite (fun _ => allCalls_call rfl) fun _ => trivial) fun _ => ?_
  refine AllCalls.bind (.ite (fun _ => allCalls_call rfl) fun _ => trivial) fun _ => ?_
  refine AllCalls.bind (.ite (fun _ => trivial) fun _ => allCalls_call rfl) fun _ => ?_
  exact .ite (fun _ => allCalls_call rfl) fun _ => trivial

theorem allCalls_listUnderLock (name tenant : String) :
    (listUnderLock name tenant).AllCalls fun c => c.lockOp = none := by
  refine AllCalls.bind (allCalls_call rfl) fun _ => AllCalls.bind (allCalls_call rfl) fun _ => ?_
  exact allCalls_ofExcept _

/-- A batch enters the lock of its dataset, unless its actions cannot be collected. -/
theorem raises_or_locked_apply (h : DocumentHandler) (actions : List DocumentAction) :
    (∃ e, h.apply actions = .raise e) ∨ Locked (lockScope h.handle) (h.apply actions) := by
  rw [DocumentHandler.apply]
  cases Batch.collect actions with
  | error e => exact .inl ⟨e, rfl⟩
  | ok b => exact .inr (locked_withLock rfl (allCalls_applyBatch h b))

/-- What a verification does once it has resolved the dataset. -/
def verifyWith (runtimeKey name : String) (expected : List ExpectedDocument) (tenant : String)
    (handle : DatasetHandle) : Program VerificationReport := do
  let expected ← ofExcept (expectedById runtimeKey handle.identityScope tenant name expected)
  let stored ← withLock handle (listUnderLock name tenant)
  let issues ← ofExcept (verificationIssues expected stored)
  return { dataset := name, tenant, checked := expected.length, issues }

theorem ended_or_locked_verifyWith {d handle : DatasetHandle} (runtimeKey : String)
    (expected : List ExpectedDocument) (hh : SameDataset d handle) :
    Ended (verifyWith runtimeKey d.name expected d.tenant handle) ∨
      Locked (lockScope d) (verifyWith runtimeKey d.name expected d.tenant handle) := by
  rw [verifyWith]
  cases expectedById runtimeKey handle.identityScope d.tenant d.name expected with
  | error e => exact .inl (ended_raise e)
  | ok byId =>
    refine .inr (Locked.bind (locked_withLock hh.lockScope (allCalls_listUnderLock _ _)) ?_)
    exact fun stored => (ended_ofExcept _).bind fun _ => ended_ret _

theorem sameSteps_verifyWith {d handle handle' : DatasetHandle} (runtimeKey : String)
    (expected : List ExpectedDocument) (hh : SameDataset d handle) (hh' : SameDataset d handle') :
    SameSteps d (verifyWith runtimeKey d.name expected d.tenant handle)
      (verifyWith runtimeKey d.name expected d.tenant handle') := by
  rw [verifyWith, verifyWith, hh.identityScope, hh'.identityScope]
  exact SameSteps.bind (.refl _) fun _ => .bind (.withLock hh hh' (.refl _)) fun _ => .refl _

/-- Every job is an operation. -/
theorem operation {d : DatasetHandle} {job : Job} (h : job.On d) :
    DatasetOperation d (job.program d.name d.tenant) := by
  have hreturn : ∀ _ : Unit, Ended (pure none : Program (Option VerificationReport)) :=
    fun _ => ended_ret _
  cases job with
  | batch handler actions =>
    rw [program]
    rcases raises_or_locked_apply handler actions with ⟨e, he⟩ | hlocked
    · rw [he]
      exact .ended (ended_raise e)
    · rw [SameDataset.lockScope h] at hlocked
      exact .locked (hlocked.bind hreturn)
  | teardown =>
    have hlocked {handle : DatasetHandle} (hh : SameDataset d handle) : Locked (lockScope d)
        (withLock handle (await (.teardownDataset handle)) >>= fun _ =>
          (pure none : Program (Option VerificationReport))) :=
      (locked_withLock hh.lockScope (allCalls_call rfl)).bind hreturn
    have hsame {handle handle' : DatasetHandle} (hh : SameDataset d handle)
        (hh' : SameDataset d handle') : SameSteps d
        (withLock handle (await (.teardownDataset handle)) >>= fun _ =>
          (pure none : Program (Option VerificationReport)))
        (withLock handle' (await (.teardownDataset handle')) >>= fun _ => pure none) := by
      refine SameSteps.bind (.withLock hh hh' (.teardown hh hh' fun r => ?_)) fun _ => .refl _
      cases r with
      | ok _ => exact .ret _
      | error e => exact .raise e
    exact .resolves ended_raise (fun _ hh => .inr (hlocked hh)) fun _ _ => hsame
  -- Three checks come before the resolution of the dataset.
  | verification runtimeKey expected =>
    rw [program, verifyDataset]
    have hstart {x : Except PyError Unit} {p : Program VerificationReport}
        (hp : DatasetOperation d (p >>= fun report => pure (some report))) :
        DatasetOperation d (ofExcept x >>= (fun _ => p) >>= fun report => pure (some report)) := by
      cases x with
      | error e => exact .ended (ended_raise e)
      | ok _ => exact hp
    refine hstart (hstart (hstart ?_))
    refine .resolves ended_raise (fun handle hh => ?_) (fun handle handle' hh hh' => ?_)
    · exact (ended_or_locked_verifyWith runtimeKey expected hh).imp
        (·.bind fun _ => ended_ret _) (·.bind fun _ => ended_ret _)
    · exact (sameSteps_verifyWith runtimeKey expected hh hh').bind fun _ => .refl _

end Job

/-! ## Main result -/

/-- Calls that change no rows. -/
def RuntimeCall.Reads : RuntimeCall → Prop
  | .resolveDataset _ _ => True
  | .listDocuments _ => True
  | .lockEnter _ => True
  | .lockExit _ => True
  | _ => False

theorem Touches.datasets_eq {i : ι} {c : RuntimeCall} {w w' : World ι}
    {r : Except PyError c.Response} (hc : c.Reads) (h : Touches i c w r w') :
    w'.1.datasets = w.1.datasets := by
  obtain ⟨⟨f, hf⟩, -⟩ := h
  have hdatasets : (perform f c w.1).2.datasets = w.1.datasets := by
    cases c with
    | resolveDataset name tenant => cases f <;> rfl
    | listDocuments handle =>
      simp only [perform, listDocuments]
      split
      · rfl
      · cases f <;> rfl
    | lockEnter handle =>
      simp only [perform, lockEnter]
      split
      · rfl
      · cases f <;> rfl
    | lockExit handle => rfl
    | addDocuments => exact absurd hc id
    | purgeDocumentMemory => exact absurd hc id
    | deleteDocuments => exact absurd hc id
    | cognifyDataset => exact absurd hc id
    | teardownDataset => exact absurd hc id
  rwa [hf] at hdatasets

/-- What a task does is recorded under its name. -/
theorem exists_accesses {i : ι} {p q : Program α} {w w' : World ι}
    (h : Runs (Touches i) p w q w') : ∃ accesses : List RowAccess,
      w'.2 = w.2 ++ accesses.map (i, ·) := by
  induction h with
  | refl => exact ⟨[], (List.append_nil _).symm⟩
  | @await c k r s s' t p hs _ ih =>
    obtain ⟨accesses, haccesses⟩ := ih
    refine ⟨c.access.toList ++ accesses, ?_⟩
    rw [haccesses, hs.2, List.map_append, List.append_assoc]

/-- A serial run is recorded task by task. -/
theorem SerialRun.exists_segments {program : ι → Program α} {s : FakeCogneeRuntime}
    {order : List (ι × Except PyError α)} {w : World ι} (h : SerialRun program (s, []) order w) :
    ∃ segments : List (ι × List RowAccess), segments.map Prod.fst = order.map Prod.fst ∧
      w.2 = segments.flatMap fun x => x.2.map (x.1, ·) := by
  induction h with
  | nil => exact ⟨[], rfl, rfl⟩
  | @snoc order w' w'' i outcome _ hrun ih =>
    obtain ⟨segments, horder, hlog⟩ := ih
    obtain ⟨accesses, haccesses⟩ := exists_accesses hrun
    refine ⟨segments ++ [(i, accesses)], ?_, ?_⟩
    · rw [List.map_append, List.map_append, horder]
      rfl
    · rw [haccesses, hlog, List.flatMap_append, List.flatMap_singleton]

theorem Job.allCalls_verification (d : DatasetHandle) (runtimeKey : String)
    (expected : List ExpectedDocument) :
    (Job.program d.name d.tenant (.verification runtimeKey expected)).AllCalls
      RuntimeCall.Reads := by
  refine AllCalls.bind ?_ fun _ => trivial
  refine (allCalls_ofExcept _).bind fun _ => (allCalls_ofExcept _).bind fun _ =>
    (allCalls_ofExcept _).bind fun _ => AllCalls.bind (allCalls_call trivial) fun handle =>
    (allCalls_ofExcept _).bind fun _ => AllCalls.bind ?_ fun _ => (allCalls_ofExcept _).bind
    fun _ => trivial
  refine AllCalls.bind (allCalls_call trivial) fun _ => AllCalls.finally' ?_ (allCalls_call trivial)
  exact AllCalls.bind (allCalls_call trivial) fun _ => AllCalls.bind (allCalls_call trivial)
    fun _ => allCalls_ofExcept _

/-- A state of concurrent jobs and one of the serial run. -/
structure UnderLock (d : DatasetHandle) (jobs : ι → Job) (s : FakeCogneeRuntime)
    (t : Tasks ι (ι × Program (Option VerificationReport)) (World ι))
    (order : List (ι × Except PyError (Option VerificationReport))) (w : World ι) : Prop where
  /-- The jobs that got the lock and left it ran one after the other, in this order. -/
  serial : SerialRun (fun i => (jobs i).program d.name d.tenant) (s, []) order w
  nodup : (order.map Prod.fst).Nodup
  /-- With the same outcomes. -/
  done : ∀ x ∈ order, t.procs x.1 = (x.1, ofExcept x.2)
  /-- The store is theirs, but for what the one that is inside did by itself. -/
  store : (∀ i e, t.phase i ≠ .inside (lockScope d) e) ∧ t.store = w ∨
    ∃ i e, t.phase i = .inside (lockScope d) e ∧ i ∉ order.map Prod.fst ∧
      ∃ p, Runs (Touches i) ((jobs i).program d.name d.tenant) w p t.store
  /-- Only the one that is inside is about to touch rows. -/
  touching : ∀ i c k, t.procs i = (i, .await c k) → c.access ≠ none →
    (∃ e, t.phase i = .inside (lockScope d) e) ∧
      ∀ j e, t.phase j = .inside (lockScope d) e → j = i
  /-- The jobs do not alternate. -/
  segments : ∃ segments : List (ι × List RowAccess), (segments.map Prod.fst).Nodup ∧
    order.map Prod.fst <+: segments.map Prod.fst ∧
    t.store.2 = segments.flatMap fun x => x.2.map (x.1, ·)
  /-- A verification that is inside sees what complete jobs have left. -/
  listing : ∀ i runtimeKey expected e, jobs i = .verification runtimeKey expected →
    t.phase i = .inside (lockScope d) e → t.store.1.datasets = w.1.datasets
  /-- A job that has ended does not have the lock, and does not wait for it. -/
  released : ∀ i, Ended (t.procs i).2 → t.phase i = .outside
  /-- When all have ended, the provider has no locks, and the store is that of
      the serial run. -/
  finished : (∀ i, Ended (t.procs i).2) → t.provider.locks = ∅ ∧ t.store = w

section Main

variable [Fintype ι] [DecidableEq ι] {d : DatasetHandle} {jobs : ι → Job} {s : FakeCogneeRuntime}
  {t : Tasks ι (ι × Program (Option VerificationReport)) (World ι)}

/-- Before any job has started. -/
abbrev Job.start (d : DatasetHandle) (jobs : ι → Job) (s : FakeCogneeRuntime) :
    Tasks ι (ι × Program (Option VerificationReport)) (World ι) :=
  .start (s, []) fun i => (i, (jobs i).program d.name d.tenant)

/-- A reachable state, seen from the lock of the dataset. -/
theorem serialized_of_run (hjobs : ∀ i, (jobs i).On d) (hs : d.identityScope = s.identityScope)
    (hrun : ReflTransGen (sharing ι _).Step (Job.start d jobs s) t) :
    Coherent t.provider t.phase ∧ ∃ holder, Holds t.phase (lockScope d) holder ∧
      (discipline d ι _).Separated ⟨t.store, holder, t.procs⟩ ∧
      ∃ order x, Serialized d (fun i => (jobs i).program d.name d.tenant) (s, []) order x ∧
        ((sharing ι _).under (lockScope d)).InProgress x.1 x.2 ⟨t.store, holder, t.procs⟩ := by
  obtain ⟨hcoherent, holder, hholds, hunder⟩ := TaskSystem.simulates hrun (lockScope d)
  have hgood : (discipline d ι (Option VerificationReport)).Good (s, []) := hs
  obtain ⟨hseparated, x, hserial, hprogress⟩ := Discipline.serializable hgood
    (fun i => ⟨rfl, Job.operation (hjobs i)⟩) hunder
  refine ⟨hcoherent, holder, hholds, hseparated, ?_⟩
  -- The order grows along the serial run, whatever section is in progress now.
  suffices hserialized : ∃ order,
      Serialized d (fun i => (jobs i).program d.name d.tenant) (s, []) order x by
    obtain ⟨order, h⟩ := hserialized
    exact ⟨order, x, h, hprogress⟩
  clear hprogress
  induction hserial with
  | refl =>
    exact ⟨[], .nil, hs, List.nodup_nil, fun _ h => absurd h List.not_mem_nil,
      fun i _ => ⟨_, rfl, .start (Job.operation (hjobs i))⟩⟩
  | tail _ hstep ih =>
    obtain ⟨order, h⟩ := ih
    exact h.step hstep

/-- A task waits for the lock of the dataset, or is inside it, if for any. -/
theorem waits_of_run (hjobs : ∀ i, (jobs i).On d) (hs : d.identityScope = s.identityScope)
    (hrun : ReflTransGen (sharing ι _).Step (Job.start d jobs s) t) :
    (sharing ι _).Waits t ∧
      ∀ i scope e, (t.phase i).ref = some (scope, e) → scope = lockScope d := by
  induction hrun with
  | refl => exact ⟨fun _ _ _ h => (by cases h), fun _ _ _ h => (by cases h)⟩
  | @tail t t' hrun hstep ih =>
    obtain ⟨-, holder, -, hseparated, -⟩ := serialized_of_run hjobs hs hrun
    refine ⟨hstep.waits ih.1, hstep.ref_scope (fun i c k scope ha hc _ => ?_) ih.2⟩
    have hscope {o : LockOp} (ho : c.2.lockOp = some o) : some o = some (.enter scope) :=
      ho.symm.trans hc
    obtain ⟨j, p, hp⟩ : ∃ j p, t.procs i = (j, p) := ⟨_, _, rfl⟩
    rw [hp] at ha
    by_cases hholder : holder = some i
    · have hinside := (hseparated.inside i hholder).2
      simp only [hp] at hinside
      rcases hinside.awaits ha with ⟨hnone, -⟩ | ⟨hleave, -⟩
      · cases hnone.symm.trans hc
      · cases hscope hleave
    · have houtside := (hseparated.outside i hholder).2
      simp only [hp] at houtside
      rcases houtside.awaits ha with ⟨henter, -⟩ | hresolve
      · cases hscope henter
        rfl
      · change c.2.lockOp = _ at hc
        rw [hresolve] at hc
        cases hc

/-- A reachable state, and the serial run that the lock of the dataset has it in. -/
theorem UnderLock.of_serialized {holder : Option ι}
    {order : List (ι × Except PyError (Option VerificationReport))}
    {x : World ι × (ι → ι × Program (Option VerificationReport))}
    (hwaits : (sharing ι _).Waits t)
    (hscopes : ∀ i scope e, (t.phase i).ref = some (scope, e) → scope = lockScope d)
    (hcoherent : Coherent t.provider t.phase) (hholds : Holds t.phase (lockScope d) holder)
    (hseparated : (discipline d ι _).Separated ⟨t.store, holder, t.procs⟩)
    (hserialized : Serialized d (fun i => (jobs i).program d.name d.tenant) (s, []) order x)
    (hprogress : ((sharing ι _).under (lockScope d)).InProgress x.1 x.2
      ⟨t.store, holder, t.procs⟩) : UnderLock d jobs s t order x.1 := by
  have hheld {i : ι} {e : EntryId} (hi : t.phase i = .inside (lockScope d) e) : holder = some i :=
    hholds.eq_some hcoherent hi
  have hinside {i : ι} (hi : holder = some i) : Inside (lockScope d) (t.procs i).2 :=
    (hseparated.inside i hi).2
  have hreleased : ∀ i, Ended (t.procs i).2 → t.phase i = .outside := by
    intro i hended
    cases hphase : t.phase i with
    | outside => rfl
    | waiting scope e =>
      obtain ⟨c, k, ha, -⟩ := hwaits i scope e hphase
      cases hended.awaits_eq_none.symm.trans ha
    | inside scope e =>
      obtain rfl := hscopes i scope e (by rw [hphase]; rfl)
      exact absurd hended (hinside (hheld hphase)).not_ended
  have htouching : ∀ i c k, t.procs i = (i, .await c k) → c.access ≠ none →
      (∃ e, t.phase i = .inside (lockScope d) e) ∧
        ∀ j e, t.phase j = .inside (lockScope d) e → j = i := by
    intro i c k hi hc
    -- From outside, an operation only resolves the dataset and asks for the lock.
    have hholder : holder = some i := hseparated.mutual_exclusion fun hout => by
      have hop : DatasetOperation d (t.procs i).2 := hout.2
      rw [hi] at hop
      rcases hop.awaits (i := i) rfl with ⟨henter, -⟩ | hresolve
      · exact hc (RuntimeCall.access_eq_none_of_lockOp henter)
      · cases hresolve
        exact absurd rfl hc
    subst hholder
    exact ⟨hholds, fun j e hj => (Option.some.inj (hheld hj)).symm⟩
  obtain ⟨segments, horder, hlog⟩ := hserialized.run.exists_segments
  obtain ⟨w, ps⟩ := x
  generalize hm : (⟨t.store, holder, t.procs⟩ : Config ι _ _) = m at hprogress
  cases hprogress with
  | free =>
    obtain ⟨rfl, rfl, rfl⟩ := Config.mk.inj hm
    exact {
      serial := hserialized.run
      nodup := hserialized.nodup
      done := hserialized.done
      store := .inl ⟨hholds, rfl⟩
      touching := htouching
      segments := ⟨segments, horder ▸ hserialized.nodup, horder ▸ List.prefix_rfl, hlog⟩
      listing := fun _ _ _ _ _ _ => rfl
      released := hreleased
      finished := fun hall => ⟨hcoherent.locks_eq_empty fun i => hreleased i (hall i), rfl⟩ }
  | @held i l w' hsection =>
    obtain ⟨rfl, rfl, hprocs⟩ := Config.mk.inj hm
    obtain ⟨hi, p, q, rfl, hp, hprogram, -⟩ := hserialized.held hsection
    obtain ⟨accesses, haccesses⟩ := exists_accesses hprogram
    obtain ⟨e, he⟩ := hholds
    exact {
      serial := hserialized.run
      nodup := hserialized.nodup
      done := fun x hx => hprocs ▸ hserialized.done_update hi _ hx
      store := .inr ⟨i, e, he, hi, q, hprogram⟩
      touching := htouching
      segments := by
        refine ⟨segments ++ [(i, accesses)], ?_, ?_, ?_⟩
        · exact nodup_map_fst_snoc (horder ▸ hserialized.nodup) (horder ▸ hi) _
        · rw [List.map_append, horder]
          exact List.prefix_append _ _
        · rw [haccesses, hlog, List.flatMap_append, List.flatMap_singleton]
      listing := fun j runtimeKey expected e hj hphase => by
        obtain rfl := Option.some.inj (hheld hphase)
        simp only [hj] at hprogram
        exact AllCalls.runs (I := fun w' : World ι => w'.1.datasets = w.1.datasets)
          (Job.allCalls_verification d runtimeKey expected)
          (fun _ _ _ _ hc hw hs => (Touches.datasets_eq hc hs).trans hw) rfl hprogram
      released := hreleased
      finished := fun hall => absurd (hall i) (hinside rfl).not_ended }

/-- **Writers and verification are serializable.** -/
theorem writers_and_verification_serializable (hjobs : ∀ i, (jobs i).On d)
    (hs : d.identityScope = s.identityScope)
    (hrun : ReflTransGen (sharing ι _).Step (Job.start d jobs s) t) :
    ∃ order w, UnderLock d jobs s t order w := by
  obtain ⟨hwaits, hscopes⟩ := waits_of_run hjobs hs hrun
  obtain ⟨hcoherent, holder, hholds, hseparated, order, x, hserialized, hprogress⟩ :=
    serialized_of_run hjobs hs hrun
  exact ⟨order, x.1, .of_serialized hwaits hscopes hcoherent hholds hseparated hserialized
    hprogress⟩

end Main

end

/-- A batch and a teardown on the sample platform. -/
def Job.sample : Bool → @Job .sample
  | true => @Job.batch .sample .sample [.sample]
  | false => @Job.teardown .sample

/-- On the sample platform, a batch that was let in while a teardown has resolved
    the dataset. -/
theorem writers_and_verification_serializable_sample :
    letI : Platform := .sample
    let d := DocumentHandler.sample.handle
    ∃ t e, ReflTransGen (sharing Bool _).Step (Job.start d Job.sample .sample) t ∧
      t.phase true = .inside (lockScope d) e ∧
      ∃ order w, UnderLock d Job.sample .sample t order w := by
  let _ : Platform := .sample
  have hscope : validateScope (lockScope DocumentHandler.sample.handle) = .ok () := by
    decide +kernel
  have hjobs : ∀ i, (Job.sample i).On DocumentHandler.sample.handle := by
    rintro (_ | _)
    exacts [trivial, ⟨rfl, rfl, rfl⟩]
  have hrun : ReflTransGen (sharing Bool (Option VerificationReport)).Step
      (Job.start DocumentHandler.sample.handle Job.sample .sample) _ :=
    ((ReflTransGen.single (.plain (i := false) (s := (_, _)) rfl rfl
      ⟨⟨none, rfl⟩, rfl⟩)).tail
      (.wait (i := true) rfl rfl rfl hscope ⟨(), (_, _), ⟨none, rfl⟩, rfl⟩)).tail
      (.acquired (i := true) (v := ()) (s := (_, _)) rfl rfl rfl rfl ⟨⟨none, rfl⟩, rfl⟩)
  exact ⟨_, 0, hrun, rfl, writers_and_verification_serializable hjobs rfl hrun⟩

end Cogindex
