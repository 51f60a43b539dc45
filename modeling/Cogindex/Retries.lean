import Cogindex.Convergence
import Cogindex.FaultScripts
import Cogindex.Serializable

/-!
# Retries

A connector on a runtime with scripted faults (`ScriptedMachine`): it may be
reconfigured, crash and sync as before, and a test may inject faults and clear
them. A sync fails only for a fault that was injected, and uses it up. So it
fails as often as faults were injected at most, and else converges.

* `ScriptedMachine.exists_run`: a run is one under arbitrary faults;
* `ScriptedMachine.failures_le`: failures are paid for;
* `scripted_syncs_converge`: what the tests of the connector assert, of every run.
-/

namespace Cogindex

open Coroutine FakeCogneeRuntime

section

variable [Platform]

/-! ## The log of locks -/

/-- How often an operation was logged. -/
def FakeCogneeRuntime.logged (s : FakeCogneeRuntime) (op : String) : ℕ :=
  s.calls.countP fun entry => entry.op = op

/-- Every lock that was acquired was released. -/
def FakeCogneeRuntime.LocksBalanced (s : FakeCogneeRuntime) : Prop :=
  s.logged "lock_acquire" = s.logged "lock_release"

theorem logged_log {op op' : String} (hop : op' ≠ op) (handle : DatasetHandle)
    (detail : List String) (s : FakeCogneeRuntime) :
    (log op' handle detail s).logged op = s.logged op := by
  simp [log, FakeCogneeRuntime.logged, List.countP_append, hop]

theorem logged_log_self (op : String) (handle : DatasetHandle) (detail : List String)
    (s : FakeCogneeRuntime) : (log op handle detail s).logged op = s.logged op + 1 := by
  simp [log, FakeCogneeRuntime.logged, List.countP_append]

/-- Only a call of the lock logs one. -/
theorem logged_perform {c : RuntimeCall} (hc : c.lockOp = none) (f : Option Fault)
    (s : FakeCogneeRuntime) {op : String} (hop : op = "lock_acquire" ∨ op = "lock_release") :
    (perform f c s).2.logged op = s.logged op := by
  have hne : ∀ op' ∈ ["add_documents", "purge_document_memory", "delete_documents",
      "cognify_dataset", "teardown_dataset"], op' ≠ op := by
    rcases hop with rfl | rfl <;> decide
  cases c with
  | lockEnter handle => cases hc
  | lockExit handle => cases hc
  | resolveDataset name tenant => cases f <;> rfl
  | listDocuments handle =>
    simp only [perform, listDocuments]
    cases s.validateHandle handle <;> cases f <;> rfl
  | addDocuments handle payloads =>
    simp only [perform, addDocuments]
    cases s.validateHandle handle with
    | error e => rfl
    | ok u =>
      simp only []
      split_ifs
      · rfl
      · rcases f with _ | ⟨e, _ | effects⟩
        exacts [logged_log (hne _ (by simp)) .., rfl, logged_log (hne _ (by simp)) ..]
  | purgeDocumentMemory handle dataIds =>
    simp only [perform, purgeDocumentMemory]
    cases s.validateHandle handle with
    | error e => rfl
    | ok u =>
      rcases f with _ | ⟨e, _ | effects⟩
      exacts [logged_log (hne _ (by simp)) .., rfl, logged_log (hne _ (by simp)) ..]
  | deleteDocuments handle dataIds =>
    simp only [perform, deleteDocuments]
    cases s.validateHandle handle with
    | error e => rfl
    | ok u =>
      rcases f with _ | ⟨e, _ | effects⟩
      exacts [logged_log (hne _ (by simp)) .., rfl, logged_log (hne _ (by simp)) ..]
  | cognifyDataset handle profile =>
    simp only [perform, cognifyDataset]
    cases s.validateHandle handle with
    | error e => rfl
    | ok u =>
      rcases f with _ | ⟨e, _ | effects⟩
      exacts [logged_log (hne _ (by simp)) .., rfl, logged_log (hne _ (by simp)) ..]
  | teardownDataset handle =>
    simp only [perform, teardownDataset]
    cases s.validateHandle handle with
    | error e => rfl
    | ok u =>
      rcases f with _ | ⟨e, _ | ⟨_ | ⟨_, _⟩⟩⟩
      exacts [logged_log (hne _ (by simp)) .., rfl, logged_log (hne _ (by simp)) ..,
        logged_log (hne _ (by simp)) ..]

/-- A body under a lock releases it on every way out. -/
theorem wp_withLock_balanced {α : Type} {handle : DatasetHandle} {body : Program α}
    {s : FakeCogneeRuntime} (hbody : body.AllCalls fun c => c.lockOp = none)
    (hs : s.LocksBalanced) : wp Answers (withLock handle body) (fun _ => LocksBalanced)
      (fun _ => LocksBalanced) s := by
  -- Inside, one lock is held.
  let Inside (t : FakeCogneeRuntime) : Prop :=
    t.logged "lock_acquire" = t.logged "lock_release" + 1
  have hexit {t : FakeCogneeRuntime} (ht : Inside t) : wp Answers (await (.lockExit handle))
      (fun _ => LocksBalanced) (fun _ => LocksBalanced) t := by
    refine wp_call.2 ⟨fun v t' => ?_, fun e t' => ?_⟩
    · rintro ⟨f, hf⟩
      cases hf
      rw [LocksBalanced, logged_log (by decide), logged_log_self]
      exact ht
    · rintro ⟨f, hf⟩
      cases hf
  rw [withLock, wp_bind]
  refine wp_call.2 ⟨fun v t => ?_, fun e t => ?_⟩
  · rintro ⟨f, hf⟩
    have ht : t = log "lock_acquire" handle [] s := by
      simp only [perform, lockEnter] at hf
      cases hvalid : s.validateHandle handle <;> cases f <;> rw [hvalid] at hf <;> cases hf
      rfl
    have hinside : Inside t := by
      rw [ht]
      show (log "lock_acquire" handle [] s).logged _ = (log "lock_acquire" handle [] s).logged _ + 1
      rw [logged_log_self, logged_log (by decide), hs]
    rw [wp_finally]
    refine wp_mono (hbody.wp (I := Inside) ?_ hinside) (fun _ _ => hexit) fun _ _ => hexit
    rintro c r t t' hc ht ⟨f, hf⟩
    have hlogged {op : String} (hop : op = "lock_acquire" ∨ op = "lock_release") :
        t'.logged op = t.logged op := by
      have ht' := logged_perform hc f t hop
      rwa [hf] at ht'
    exact (hlogged (.inl rfl)).trans (ht.trans (congrArg (· + 1) (hlogged (.inr rfl)).symm))
  · rintro ⟨f, hf⟩
    have ht : t = s := by
      simp only [perform, lockEnter] at hf
      cases hvalid : s.validateHandle handle <;> cases f <;> rw [hvalid] at hf <;> cases hf <;> rfl
    rw [ht]
    exact hs

/-- A round of reconciling releases the locks that it acquires. -/
theorem wp_applyOutputs_balanced {h : DocumentHandler} {outputs : Outputs} {s : FakeCogneeRuntime}
    (hs : s.LocksBalanced) : wp Answers (h.applyOutputs outputs) (fun _ => LocksBalanced)
      (fun _ => LocksBalanced) s := by
  rw [DocumentHandler.applyOutputs]
  split_ifs
  · exact hs
  · rw [DocumentHandler.apply, wp_bind, wp_ofExcept]
    exact ⟨fun b _ => wp_withLock_balanced (Job.allCalls_applyBatch h b) hs, fun _ _ => hs⟩

/-- Every rule of a connector releases the locks that it acquires. -/
theorem ConvergenceMachine.locksBalanced_step {V : Type} {d : Deployment V}
    {m : ConvergenceMachine V} (hm : m.fake.LocksBalanced) (rule : Rule V) :
    (m.step d rule).fake.LocksBalanced := by
  have happlied (outputs : Outputs) (faults : List (Option Fault)) :
      (m.applied d outputs faults).2.LocksBalanced := by
    have hrun : (∀ u, (m.applied d outputs faults).1 = .ok u →
          (m.applied d outputs faults).2.LocksBalanced) ∧
        ∀ e, (m.applied d outputs faults).1 = .error e →
          (m.applied d outputs faults).2.LocksBalanced :=
      wp_run perform (wp_applyOutputs_balanced hm)
    cases hresult : (m.applied d outputs faults).1 with
    | ok u => exact hrun.1 u hresult
    | error e => exact hrun.2 e hresult
  cases rule with
  | declare | undeclare | migrate => exact hm
  | changeConfig fp delivered =>
    rw [step]
    split_ifs <;> exact hm
  | sync faults =>
    simp only [step, sync]
    cases m.round d with
    | error e => exact hm
    | ok outputs => exact happlied outputs faults
  | crashBeforeApply =>
    rw [step]
    cases m.round d <;> exact hm
  | exitAfterApply faults =>
    rw [step]
    cases m.round d with
    | error e => exact hm
    | ok outputs => exact happlied outputs faults

theorem ConvergenceMachine.locksBalanced_run {V : Type} {d : Deployment V}
    {m : ConvergenceMachine V} (hm : m.fake.LocksBalanced) (rules : List (Rule V)) :
    (m.run d rules).fake.LocksBalanced := by
  induction rules generalizing m with
  | nil => exact hm
  | cons rule rules ih => exact ih (locksBalanced_step hm rule)

/-! ## Scripted connectors -/

/-- A connector, and the fault scripts of its runtime. -/
structure ScriptedMachine (V : Type) extends ConvergenceMachine V where
  faults : String → List ScriptedFault

/-- A rule without calls of the runtime. -/
def ConvergenceMachine.Rule.Offline {V : Type} : ConvergenceMachine.Rule V → Prop
  | .sync _ => False
  | .exitAfterApply _ => False
  | _ => True

namespace ScriptedMachine

/-- What may happen to a connector, and what a test does. -/
inductive Rule (V : Type)
  | offline (rule : ConvergenceMachine.Rule V) (hrule : rule.Offline)
  | sync
  /-- An exit between the batch and the commit. -/
  | exitAfterApply
  | injectFault (op : String) (times : ℤ) (afterItems : Option ℤ) (torn : Bool)
    (exc : Option PyError)
  | clearFaults

variable {V : Type} (d : Deployment V)

/-- The runtime of the connector. -/
def runtime (m : ScriptedMachine V) : ScriptedRuntime := ⟨m.fake, m.faults⟩

/-- Another state of the runtime. -/
def withRuntime (m : ScriptedMachine V) (s : ScriptedRuntime) : ScriptedMachine V :=
  { m with fake := s.fake, faults := s.faults }

/-- Applying the outputs of a round: the outcome and the runtime. -/
def applied (m : ScriptedMachine V) (outputs : Outputs) : Except PyError Unit × ScriptedRuntime :=
  exec ScriptedRuntime.answer ((d.handler m.configFp).applyOutputs outputs) m.runtime

/-- A sync: reconcile, precommit, apply, and commit if the batch returned. -/
def sync (m : ScriptedMachine V) : Except PyError Unit × ScriptedMachine V :=
  match m.round d with
  | .error e => (.error e, m)
  | .ok outputs =>
    let result := m.applied d outputs
    let precommitted := m.tracking.precommit outputs
    (result.1, { m.withRuntime result.2 with
      tracking := match result.1 with
        | .error _ => precommitted
        | .ok () => precommitted.commit outputs })

/-- The next state. -/
def step (m : ScriptedMachine V) : Rule V → ScriptedMachine V
  | .offline rule _ => { m with toConvergenceMachine := m.toConvergenceMachine.step d rule }
  | .sync => (m.sync d).2
  | .exitAfterApply =>
    match m.round d with
    | .error _ => m
    | .ok outputs => { m.withRuntime (m.applied d outputs).2 with
        tracking := m.tracking.precommit outputs }
  | .injectFault op times afterItems torn exc =>
    match (ScriptedRuntime.injectFault op times afterItems torn exc).run m.runtime with
    | .ok _ s => m.withRuntime s
    | .error _ s => m.withRuntime s
  | .clearFaults =>
    match ScriptedRuntime.clearFaults.run m.runtime with
    | .ok _ s => m.withRuntime s
    | .error _ s => m.withRuntime s

/-- The state after a run. -/
def run (m : ScriptedMachine V) (rules : List (Rule V)) : ScriptedMachine V :=
  rules.foldl (step d) m

/-- How many faults a rule injects at most. -/
def Rule.shots : Rule V → ℕ
  | .injectFault _ times _ _ _ => max 1 times.toNat
  | _ => 0

/-- Whether a rule is a sync that fails, as a number. -/
def failed (m : ScriptedMachine V) : Rule V → ℕ
  | .sync =>
    match (m.sync d).1 with
    | .error _ => 1
    | .ok _ => 0
  | _ => 0

/-- How many syncs of a run fail. -/
def failures : ScriptedMachine V → List (Rule V) → ℕ
  | _, [] => 0
  | m, rule :: rules => m.failed d rule + failures (m.step d rule) rules

/-- How many faults the scripts are good for at most. -/
def budget (m : ScriptedMachine V) : ℕ := m.runtime.budget

variable {d} {m : ScriptedMachine V}

/-! ## Runs under arbitrary faults -/

/-- The batch of a round runs as under some script of arbitrary faults, which are paid for. -/
theorem exists_applied (m : ScriptedMachine V) (outputs : Outputs) : ∃ faults,
    m.toConvergenceMachine.applied d outputs faults =
        ((m.applied d outputs).1, (m.applied d outputs).2.fake) ∧
      (m.applied d outputs).2.budget ≤ m.budget ∧
      (faults ≠ [] → (m.applied d outputs).2.budget < m.budget) :=
  ScriptedRuntime.exists_run _ m.runtime

/-- So does a sync. -/
theorem exists_sync (m : ScriptedMachine V) : ∃ faults,
    m.toConvergenceMachine.sync d faults = ((m.sync d).1, (m.sync d).2.toConvergenceMachine) ∧
      (m.sync d).2.budget ≤ m.budget ∧ (faults ≠ [] → (m.sync d).2.budget < m.budget) := by
  simp only [sync, ConvergenceMachine.sync]
  cases m.round d with
  | error e => exact ⟨[], rfl, le_rfl, fun hne => absurd rfl hne⟩
  | ok outputs =>
    obtain ⟨faults, happlied, hle, hlt⟩ := m.exists_applied (d := d) outputs
    refine ⟨faults, ?_, hle, hlt⟩
    simp only [happlied]
    rfl

/-- A step is a run under arbitrary faults, and the scripts pay for it. -/
theorem exists_step (m : ScriptedMachine V) (rule : Rule V) :
    (∃ rules, (m.step d rule).toConvergenceMachine = m.toConvergenceMachine.run d rules) ∧
      (m.step d rule).budget ≤ m.budget + rule.shots := by
  cases rule with
  | offline rule hrule => exact ⟨⟨[rule], rfl⟩, le_rfl⟩
  | sync =>
    obtain ⟨faults, hsync, hle, -⟩ := m.exists_sync (d := d)
    exact ⟨⟨[.sync faults], (congrArg Prod.snd hsync).symm⟩, hle⟩
  | exitAfterApply =>
    simp only [step]
    cases hround : m.round d with
    | error e => exact ⟨⟨[], rfl⟩, le_rfl⟩
    | ok outputs =>
      obtain ⟨faults, happlied, hle, -⟩ := m.exists_applied (d := d) outputs
      refine ⟨⟨[.exitAfterApply faults], ?_⟩, hle⟩
      simp only [ConvergenceMachine.run, List.foldl_cons, List.foldl_nil, ConvergenceMachine.step,
        hround, happlied]
      rfl
  | injectFault op times afterItems torn exc =>
    simp only [step]
    obtain ⟨e, hrun⟩ | ⟨fault, hshots, hrun⟩ :=
      ScriptedRuntime.run_injectFault op times afterItems torn exc m.runtime
    · rw [hrun]
      exact ⟨⟨[], rfl⟩, Nat.le_add_right _ _⟩
    · rw [hrun]
      exact ⟨⟨[], rfl⟩, (ScriptedRuntime.budget_queue _ _ _).trans_eq (congrArg _ hshots)⟩
  | clearFaults => exact ⟨⟨[], rfl⟩, (ScriptedRuntime.budget_clear _).trans_le (Nat.zero_le _)⟩

/-- A run of scripted faults is one of arbitrary faults. -/
theorem exists_run (m : ScriptedMachine V) (rules : List (Rule V)) : ∃ rules',
    (m.run d rules).toConvergenceMachine = m.toConvergenceMachine.run d rules' := by
  induction rules generalizing m with
  | nil => exact ⟨[], rfl⟩
  | cons rule rules ih =>
    obtain ⟨⟨rules₁, h₁⟩, -⟩ := m.exists_step (d := d) rule
    obtain ⟨rules₂, h₂⟩ := ih (m.step d rule)
    refine ⟨rules₁ ++ rules₂, h₂.trans ?_⟩
    rw [h₁, ConvergenceMachine.run, ConvergenceMachine.run, ConvergenceMachine.run,
      List.foldl_append]

/-! ## Failures -/

variable (hids : ∀ v k, ∃ i, d.dataId v k = .ok i)

include hids

/-- A sync that fails uses a fault up. -/
theorem budget_lt_of_error {e : PyError} (hscope : d.handle.identityScope = m.fake.identityScope)
    (he : (m.sync d).1 = .error e) : (m.sync d).2.budget < m.budget := by
  obtain ⟨faults, hsync, -, hlt⟩ := m.exists_sync (d := d)
  refine hlt ?_
  -- Without faults, the sync completes.
  rintro rfl
  have hok := ConvergenceMachine.sync_completes (hids m.version) hscope
  rw [hsync, he] at hok
  cases hok

/-- A failing sync is paid for. -/
theorem failed_le (hscope : d.handle.identityScope = m.fake.identityScope) (rule : Rule V) :
    m.failed d rule + (m.step d rule).budget ≤ m.budget + rule.shots := by
  have hstep := (m.exists_step (d := d) rule).2
  cases rule with
  | sync =>
    cases hresult : (m.sync d).1 with
    | ok u => simpa only [failed, hresult, Nat.zero_add] using hstep
    | error e =>
      simp only [failed, hresult, Nat.add_comm 1]
      exact Nat.succ_le_of_lt (budget_lt_of_error hids hscope hresult)
  | offline | exitAfterApply | injectFault | clearFaults => exact (Nat.zero_add _).trans_le hstep

omit hids in
theorem scope_step (hscope : d.handle.identityScope = m.fake.identityScope) (rule : Rule V) :
    d.handle.identityScope = (m.step d rule).fake.identityScope := by
  obtain ⟨⟨rules, hrules⟩, -⟩ := m.exists_step (d := d) rule
  rw [hrules, ConvergenceMachine.run_identityScope]
  exact hscope

/-- The failures of a run, and the scripts that it leaves, are paid for. -/
theorem failures_le (hscope : d.handle.identityScope = m.fake.identityScope)
    (rules : List (Rule V)) :
    m.failures d rules + (m.run d rules).budget ≤ m.budget + (rules.map Rule.shots).sum := by
  induction rules generalizing m with
  | nil => exact (Nat.zero_add _).le
  | cons rule rules ih =>
    have hrest := ih (m := m.step d rule) (scope_step hscope rule)
    have hstep := failed_le hids hscope rule
    simp only [failures, run, List.foldl_cons, List.map_cons, List.sum_cons] at hrest ⊢
    omega

/-- Retrying a sync completes, after as many failures at most as there are faults. -/
theorem exists_retry (hscope : d.handle.identityScope = m.fake.identityScope) :
    ∃ n ≤ m.budget, ((m.run d (List.replicate n .sync)).sync d).1 = .ok () := by
  induction hbudget : m.budget using Nat.strong_induction_on generalizing m with
  | _ budget ih =>
    cases hresult : (m.sync d).1 with
    | ok u => exact ⟨0, Nat.zero_le _, hresult⟩
    | error e =>
      have hlt := budget_lt_of_error hids hscope hresult
      obtain ⟨n, hn, hok⟩ := ih _ (hbudget ▸ hlt) (scope_step hscope .sync) rfl
      exact ⟨n + 1, hbudget ▸ hn.trans_lt hlt, hok⟩

omit hids in
theorem locksBalanced_run (hm : m.fake.LocksBalanced) (rules : List (Rule V)) :
    (m.run d rules).fake.LocksBalanced := by
  obtain ⟨rules', hrules'⟩ := m.exists_run (d := d) rules
  rw [hrules']
  exact ConvergenceMachine.locksBalanced_run hm rules'

end ScriptedMachine

/-- In a converged state, the tests find no document that has not. -/
theorem ConvergenceMachine.Converged.unconvergedDocuments_eq_nil {V : Type} {d : Deployment V}
    {m : ConvergenceMachine V} (h : m.Converged d) :
    m.fake.unconvergedDocuments d.handle.tenant d.handle.name (some (d.profileOf m.configFp)) =
      [] := by
  rw [unconvergedDocuments]
  cases hdataset : m.fake.dataset d.handle.tenant d.handle.name with
  | none => rfl
  | some ds =>
    simp only [Option.map_some, Option.getD_some, List.map_eq_nil_iff, List.filter_eq_nil_iff]
    rintro ⟨i, x⟩ hx
    have hrow : m.fake.row (keyOf d.handle) i = some x := by
      rw [row_keyOf, document, hdataset]
      exact Std.ExtTreeMap.mem_toList_iff_getElem?_eq_some.1 hx
    -- The row is that of a declared document, which has converged.
    obtain ⟨k, hk, hi⟩ := (h.rows i).1 (by rw [hrow]; rfl)
    obtain ⟨spec, hspec⟩ := Option.isSome_iff_exists.1
      (Std.ExtTreeMap.mem_iff_isSome_getElem?.1 hk)
    obtain ⟨j, y, hj, hy, hconverged⟩ := h.documents k spec hspec
    obtain rfl : i = j := Except.ok.inj (hi.symm.trans hj)
    obtain rfl : x = y := Option.some.inj (hrow.symm.trans hy)
    simp [FakeDocument.unconverged, hconverged.complete, hconverged.fragments, hconverged.content,
      hconverged.profile]

/-- A connector under scripted faults fails as often as they were injected at
    most; retried, it completes; and when it completes it has converged, as the
    tests check it. -/
theorem scripted_syncs_converge (hblake : Blake2bCollisionFree) (hfloat : FloatReprLaws)
    (huuid : Uuid5CollisionFree) (hdiff : DiffContract) {runtimeKey : String}
    {handle : DatasetHandle} {profileOf : String → CognifyProfile}
    (hkey : Coordinate runtimeKey ∧ matchesRuntimeKeyPattern runtimeKey)
    (htenant : Coordinate handle.tenant) (hname : Coordinate handle.name)
    {m : ScriptedMachine Unit} (hinit : m.Initial (.connector runtimeKey handle profileOf))
    (hscope : handle.identityScope = m.fake.identityScope) (hlocks : m.fake.LocksBalanced)
    (rules : List (ScriptedMachine.Rule Unit)) :
    let d : Deployment Unit := .connector runtimeKey handle profileOf
    let t := m.run d rules
    -- The syncs that failed and the scripts that are left are covered by what was injected.
    m.failures d rules + t.budget ≤ m.budget + (rules.map ScriptedMachine.Rule.shots).sum ∧
    -- A sync that is retried completes before the scripts are used up.
    (∃ n ≤ t.budget, ((t.run d (List.replicate n .sync)).sync d).1 = .ok ()) ∧
    -- A sync that completes converges, and no document is found that has not.
    ((t.sync d).1 = .ok () → (t.sync d).2.Converged d ∧
      (t.sync d).2.fake.unconvergedDocuments handle.tenant handle.name
        (some (profileOf t.configFp)) = []) ∧
    -- No lock is left behind.
    t.fake.LocksBalanced := by
  intro d t
  have hids (v : Unit) (k : DocumentKey) : ∃ i, d.dataId v k = .ok i :=
    Deployment.connector_dataId hkey htenant hname k
  obtain ⟨rules', hrules' : t.toConvergenceMachine = _⟩ := m.exists_run (d := d) rules
  have ht : d.handle.identityScope = t.fake.identityScope := by
    rw [hrules', ConvergenceMachine.run_identityScope]
    exact hscope
  refine ⟨ScriptedMachine.failures_le hids hscope rules, ScriptedMachine.exists_retry hids ht,
    fun hok => ?_, ScriptedMachine.locksBalanced_run hlocks rules⟩
  obtain ⟨faults, hsync, -⟩ := t.exists_sync (d := d)
  have hconverged : ((m.toConvergenceMachine.run d rules').sync d faults).2.Converged d := by
    refine hinit.converged hblake hfloat
      (Deployment.connector_separated huuid runtimeKey handle profileOf) hdiff ?_
    rw [← hrules', hsync]
    exact hok
  rw [← hrules', hsync] at hconverged
  have hfp : (t.sync d).2.configFp = t.configFp := by
    rw [ScriptedMachine.sync]
    cases t.round d <;> rfl
  refine ⟨hconverged, ?_⟩
  rw [← hfp]
  exact hconverged.unconvergedDocuments_eq_nil

end

/-- A document is declared, and the next two times a dataset is cognified fail. -/
def ScriptedMachine.sampleRules : List (@ScriptedMachine.Rule .sample Unit) :=
  letI : Platform := .sample
  [.offline (.declare .sample (.sample "alpha" "old")) trivial,
    .injectFault "cognify_dataset" 2 none false none, .sync]

/-- Retried at most twice, the sync completes, and at most two syncs failed. -/
theorem scripted_syncs_converge_sample :
    letI : Platform := .sample
    let m : ScriptedMachine Unit := ⟨.sample, fun _ => []⟩
    let t := m.run .sample ScriptedMachine.sampleRules
    m.failures .sample ScriptedMachine.sampleRules ≤ 2 ∧
      ∃ n ≤ 2, ((t.run .sample (List.replicate n .sync)).sync .sample).1 = .ok () := by
  let _ : Platform := .sample
  let m : ScriptedMachine Unit := ⟨.sample, fun _ => []⟩
  have hbudget : m.budget = 0 := ScriptedRuntime.budget_clear _
  obtain ⟨hfailures, ⟨n, hn, hok⟩, -, -⟩ := scripted_syncs_converge Platform.sample_blake2b
    Platform.sample_floatRepr Platform.sample_uuid5 Platform.sample_diff
    ⟨by decide, by decide⟩ (by decide) (by decide)
    (m := m) ConvergenceMachine.sample_initial rfl rfl ScriptedMachine.sampleRules
  have hle : m.failures .sample ScriptedMachine.sampleRules +
      (m.run .sample ScriptedMachine.sampleRules).budget ≤ 2 :=
    hfailures.trans_eq (by rw [hbudget]; rfl)
  exact ⟨(Nat.le_add_right _ _).trans hle, n, hn.trans ((Nat.le_add_left _ _).trans hle), hok⟩

end Cogindex
