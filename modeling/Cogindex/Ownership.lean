import Cogindex.Datasets
import Mathlib.Logic.Relation
import Mathlib.Logic.Function.Basic

/-!
# Ownership of datasets

The tracking store of datasets over whole runs (`DatasetMachine.Step`): a
dataset is declared, managed by the system or by its user, or unmounted; a
batch of datasets is reconciled and its actions are applied, in any world; the
process may exit before that, the sink may fail, and the process may exit
before the commit. What became of a dataset is its `history`, and its possible
records are those of the attempts since the last one that was committed.

* `user_managed_never_torn_down`: a dataset is torn down only if it is not
  declared and all of its possible records are those of the system, and then
  once, under its lock; a possible record of a user keeps the sink from making
  any call at all.
-/

namespace Cogindex

open Coroutine Function Relation

/-- What happened to a dataset: a state was intended, or committed. -/
inductive Mark
  | intended (record : Option DatasetTrackingRecord)
  | committed (record : Option DatasetTrackingRecord)

/-- The states that a dataset may be in, from its latest mark on: a committed
    one is the only one. -/
def possibleStates : List Mark → List (Option DatasetTrackingRecord)
  | [] => []
  | .intended record :: marks => record :: possibleStates marks
  | .committed record :: _ => [record]

/-- What is tracked of a dataset: its possible records, `none` for a deletion
    marker, and whether it may be missing. -/
structure DatasetEntry where
  possibleStates : List (Option DatasetTrackingRecord)
  mayBeMissing : Bool

section

variable [Platform]

/-- The declared datasets, the tracking store, and what happened to each dataset. -/
structure DatasetMachine where
  declared : DatasetKey → Option CogneeDatasetSpec
  tracking : DatasetKey → Option DatasetEntry
  history : DatasetKey → List Mark

namespace DatasetMachine

/-- Nothing is declared or tracked. -/
def initial : DatasetMachine := ⟨fun _ => none, fun _ => none, fun _ => []⟩

/-- The desired state of a dataset changes. -/
def desire (s : DatasetMachine) (key : DatasetKey) (desired : Option CogneeDatasetSpec) :
    DatasetMachine :=
  { s with declared := update s.declared key desired }

/-- The possible records of a dataset. -/
def prevRecords (s : DatasetMachine) (key : DatasetKey) : List DatasetTrackingRecord :=
  (s.tracking key).elim [] fun entry => entry.possibleStates.reduceOption

/-- Whether a dataset may be missing. -/
def prevMayBeMissing (s : DatasetMachine) (key : DatasetKey) : Bool :=
  (s.tracking key).elim true fun entry =>
    entry.mayBeMissing || decide (none ∈ entry.possibleStates)

/-- An intended state becomes possible. -/
def intend (s : DatasetMachine) (key : DatasetKey) (record : Option DatasetTrackingRecord) :
    DatasetMachine :=
  let entry := (s.tracking key).getD ⟨[], true⟩
  { s with
    tracking := update s.tracking key (some
      { entry with possibleStates := entry.possibleStates ++ [record] })
    history := update s.history key (.intended record :: s.history key) }

/-- A state becomes the only possible one. -/
def collapse (s : DatasetMachine) (key : DatasetKey) (record : Option DatasetTrackingRecord) :
    DatasetMachine :=
  { s with
    tracking := update s.tracking key (record.map fun record => ⟨[some record], false⟩)
    history := update s.history key (.committed record :: s.history key) }

/-- The intended states of a batch become possible. -/
def precommit (s : DatasetMachine) (outputs : List DatasetReconcileOutput) : DatasetMachine :=
  outputs.foldl (fun s o => s.intend o.action.key o.trackingRecord) s

/-- The intended states of a batch become the only ones. -/
def commit (s : DatasetMachine) (outputs : List DatasetReconcileOutput) : DatasetMachine :=
  outputs.foldl (fun s o => s.collapse o.action.key o.trackingRecord) s

/-- Reconciling a batch of datasets. -/
def reconcileBatch (resolve : SystemTransition) (s : DatasetMachine) (keys : List DatasetKey) :
    Except PyError (List DatasetReconcileOutput) :=
  keys.mapM fun key => DatasetHandler.reconcile resolve key.toStableKey (s.declared key)
    (s.prevRecords key) (s.prevMayBeMissing key)

theorem reconcileBatch_singleton {resolve : SystemTransition} {s : DatasetMachine}
    {key : DatasetKey} {o : DatasetReconcileOutput}
    (h : DatasetHandler.reconcile resolve key.toStableKey (s.declared key) (s.prevRecords key)
      (s.prevMayBeMissing key) = .ok o) : s.reconcileBatch resolve [key] = .ok [o] := by
  rw [reconcileBatch, List.mapM_cons, List.mapM_nil, h]
  rfl

/-- The sink of a batch, in any world, and what is recorded of it. -/
def Applies (ρ : Type) (outputs : List DatasetReconcileOutput)
    (outcome : Except PyError (List (Option (ChildTargetDef ρ))))
    (log : List (DatasetRecord ρ)) : Prop :=
  Runs Records (applyDatasetActions (outputs.map (·.action))) [] (ofExcept outcome) log

/-- The steps. -/
inductive Step (resolve : SystemTransition) (ρ : Type) : DatasetMachine → DatasetMachine → Prop
  | declare (s : DatasetMachine) (key : DatasetKey) (spec : CogneeDatasetSpec) :
    Step resolve ρ s (s.desire key (some spec))
  | unmount (s : DatasetMachine) (key : DatasetKey) :
    Step resolve ρ s (s.desire key none)
  | exitBeforeSink {s : DatasetMachine} {keys : List DatasetKey}
    {outputs : List DatasetReconcileOutput} (hbatch : s.reconcileBatch resolve keys = .ok outputs) :
    Step resolve ρ s (s.precommit outputs)
  | sinkFails {s : DatasetMachine} {keys : List DatasetKey}
    {outputs : List DatasetReconcileOutput} (hbatch : s.reconcileBatch resolve keys = .ok outputs)
    {e : PyError} {log : List (DatasetRecord ρ)} (hsink : Applies ρ outputs (.error e) log) :
    Step resolve ρ s (s.precommit outputs)
  | exitBeforeCommit {s : DatasetMachine} {keys : List DatasetKey}
    {outputs : List DatasetReconcileOutput} (hbatch : s.reconcileBatch resolve keys = .ok outputs)
    {children : List (Option (ChildTargetDef ρ))} {log : List (DatasetRecord ρ)}
    (hsink : Applies ρ outputs (.ok children) log) : Step resolve ρ s (s.precommit outputs)
  | completed {s : DatasetMachine} {keys : List DatasetKey}
    {outputs : List DatasetReconcileOutput} (hbatch : s.reconcileBatch resolve keys = .ok outputs)
    {children : List (Option (ChildTargetDef ρ))} {log : List (DatasetRecord ρ)}
    (hsink : Applies ρ outputs (.ok children) log) :
    Step resolve ρ s ((s.precommit outputs).commit outputs)

section Lookup

variable {s : DatasetMachine} {key : DatasetKey}

@[simp] theorem declared_desire (desired : Option CogneeDatasetSpec) :
    (s.desire key desired).declared key = desired := by
  simp only [desire, update_self]

@[simp] theorem history_intend (record : Option DatasetTrackingRecord) :
    (s.intend key record).history key = .intended record :: s.history key := by
  simp only [intend, update_self]

@[simp] theorem prevRecords_intend (record : DatasetTrackingRecord) :
    (s.intend key (some record)).prevRecords key = s.prevRecords key ++ [record] := by
  simp only [intend, prevRecords, update_self, Option.elim_some, List.reduceOption_append]
  cases s.tracking key <;> rfl

end Lookup

/-! ## Possible records -/

/-- A record that a dataset may be in. -/
def Possible (s : DatasetMachine) (key : DatasetKey) (record : DatasetTrackingRecord) : Prop :=
  some record ∈ possibleStates (s.history key)

/-- The tracking store has the possible records of each dataset. -/
def Tracked (s : DatasetMachine) : Prop :=
  ∀ key record, record ∈ s.prevRecords key ↔ s.Possible key record

variable {s s' : DatasetMachine} {resolve : SystemTransition} {ρ : Type} {key : DatasetKey}
  {outputs : List DatasetReconcileOutput}

theorem Tracked.intend (h : s.Tracked) (key : DatasetKey) (record : Option DatasetTrackingRecord) :
    (s.intend key record).Tracked := by
  intro key' r
  have hprev := h key' r
  by_cases hkey : key' = key
  · subst hkey
    simp only [Possible, prevRecords, DatasetMachine.intend, update_self, Option.elim_some,
      possibleStates, List.reduceOption_mem_iff, List.mem_append, List.mem_cons, List.not_mem_nil,
      or_false] at hprev ⊢
    rw [or_comm, ← hprev]
    refine or_congr_right ?_
    cases s.tracking key' with
    | none => exact iff_of_false List.not_mem_nil List.not_mem_nil
    | some entry => exact List.reduceOption_mem_iff.symm
  · simpa only [Possible, prevRecords, DatasetMachine.intend, update_of_ne hkey] using hprev

theorem Tracked.collapse (h : s.Tracked) (key : DatasetKey)
    (record : Option DatasetTrackingRecord) : (s.collapse key record).Tracked := by
  intro key' r
  have hprev := h key' r
  by_cases hkey : key' = key
  · subst hkey
    simp only [Possible, prevRecords, DatasetMachine.collapse, update_self, possibleStates,
      List.mem_singleton]
    cases record with
    | none => exact iff_of_false List.not_mem_nil nofun
    | some record => exact List.mem_singleton.trans Option.some_inj.symm
  · simpa only [Possible, prevRecords, DatasetMachine.collapse, update_of_ne hkey] using hprev

theorem Tracked.precommit (h : s.Tracked) : (s.precommit outputs).Tracked := by
  induction outputs generalizing s with
  | nil => exact h
  | cons o outputs ih => exact ih (h.intend _ _)

theorem Tracked.commit (h : s.Tracked) : (s.commit outputs).Tracked := by
  induction outputs generalizing s with
  | nil => exact h
  | cons o outputs ih => exact ih (h.collapse _ _)

theorem Tracked.step (h : s.Tracked) (hs : Step resolve ρ s s') : s'.Tracked := by
  cases hs with
  | declare => exact h
  | unmount => exact h
  | exitBeforeSink => exact h.precommit
  | sinkFails => exact h.precommit
  | exitBeforeCommit => exact h.precommit
  | completed => exact h.precommit.commit

/-- In every run, the tracking store has the possible records. -/
theorem Tracked.run (hrun : ReflTransGen (Step resolve ρ) initial s) : s.Tracked := by
  induction hrun with
  | refl => exact fun _ _ => iff_of_false List.not_mem_nil List.not_mem_nil
  | tail _ hs ih => exact ih.step hs

/-! ## What the sink does -/

/-- A dataset may be torn down: it is not declared, and all of its possible
    records, of which there are some, are those of the system. -/
structure Disposable (s : DatasetMachine) (key : DatasetKey) : Prop where
  undeclared : s.declared key = none
  recorded : ∃ record, s.Possible key record
  system : ∀ record, s.Possible key record → record.managedBy = .system

/-- What the sink does for a dataset. -/
structure Handled (s : DatasetMachine) (key : DatasetKey)
    (result : Except PyError (Option (ChildTargetDef ρ))) (events : List (DatasetRecord ρ)) :
    Prop where
  /-- A dataset is torn down only if it may be, once and under its lock. -/
  teardown : ∀ r handle response, ⟨.runtime r (.teardownDataset handle), response⟩ ∈ events →
    s.Disposable key ∧ ∃ released, events =
      [⟨.getRuntime key.runtimeKey, .ok (.runtime r)⟩,
        ⟨.runtime r (.resolveDataset key.datasetName key.tenant), .ok handle⟩,
        ⟨.runtime r (.lockEnter handle), .ok ()⟩,
        ⟨.runtime r (.teardownDataset handle), response⟩,
        ⟨.runtime r (.lockExit handle), released⟩]
  /-- And it is, unless the sink fails. -/
  tornDown : s.Disposable key → ∀ child, result = .ok child →
    ∃ r handle, ⟨.runtime r (.teardownDataset handle), .ok ()⟩ ∈ events
  /-- No call at all is made for a dataset that may be its user's. -/
  handsOff : s.declared key = none →
    (∃ record, s.Possible key record ∧ record.managedBy = .user) → events = [] ∧ result = .ok none
  /-- Exactly the declared datasets have a handler. -/
  child_iff : ∀ child, result = .ok child → (child = none ↔ s.declared key = none)
  /-- It is the handler of this dataset. -/
  child : ∀ c, result = .ok (some c) → c.handler.runtimeKey = key.runtimeKey ∧
    (∃ spec, s.declared key = some spec ∧ c.handler.profile = spec.profile ∧
      spec.processing.fingerprint = .ok c.handler.processingFingerprint) ∧
    events = [⟨.getRuntime key.runtimeKey, .ok (.runtime c.runtime)⟩,
      ⟨.runtime c.runtime (.resolveDataset key.datasetName key.tenant), .ok c.handler.handle⟩]

/-- A teardown is recorded once, under the lock. -/
theorem TearDownRun.mem_teardown {name tenant : String} {outcome : Except PyError Unit}
    {events : List RuntimeRecord} (h : TearDownRun name tenant outcome events)
    {handle : DatasetHandle} {response : Except PyError Unit}
    (hmem : ⟨.teardownDataset handle, response⟩ ∈ events) :
    ∃ released, events = [⟨.resolveDataset name tenant, .ok handle⟩, ⟨.lockEnter handle, .ok ()⟩,
      ⟨.teardownDataset handle, response⟩, ⟨.lockExit handle, released⟩] := by
  cases h with
  | unresolved e => simp at hmem
  | refused handle e => simp at hmem
  | held handle' outcome released =>
    simp only [List.mem_cons, List.not_mem_nil, or_false] at hmem
    rcases hmem with h | h | h | h <;> cases h
    exact ⟨released, rfl⟩

/-- A teardown that does not fail is recorded. -/
theorem TearDownRun.mem_of_ok {name tenant : String} {events : List RuntimeRecord}
    (h : TearDownRun name tenant (.ok ()) events) :
    ∃ handle, ⟨.teardownDataset handle, .ok ()⟩ ∈ events := by
  generalize houtcome : (.ok () : Except PyError Unit) = outcome at h
  cases h with
  | unresolved e => cases houtcome
  | refused handle e => cases houtcome
  | held handle outcome released =>
    obtain ⟨_, -, rfl⟩ := bind_eq_ok.1 houtcome.symm
    exact ⟨handle, by simp⟩

variable {o : DatasetReconcileOutput} {result : Except PyError (Option (ChildTargetDef ρ))}
  {events : List (DatasetRecord ρ)}

/-- Reconciling decides on a deletion exactly if the dataset may be torn down,
    and on nothing at all if it may be its user's. -/
theorem mainAction_undeclared (htracked : s.Tracked) (hresolve : SystemTransitionContract resolve)
    (hdiff : DiffDeleteContract) (hkey : s.declared key = none)
    (ho : DatasetHandler.reconcile resolve key.toStableKey (s.declared key) (s.prevRecords key)
      (s.prevMayBeMissing key) = .ok o) :
    (o.action.mainAction = some .delete ∧ s.Disposable key) ∨
      o.action.mainAction = none ∧ ¬s.Disposable key := by
  rw [hkey] at ho
  rcases DatasetHandler.mainAction_none hresolve hdiff ho with ⟨hmain, hprev, hsystem⟩ | ⟨hmain, h⟩
  · obtain ⟨r, hr⟩ := List.exists_mem_of_ne_nil _ hprev
    exact .inl ⟨hmain, hkey, ⟨r, (htracked key r).1 hr⟩,
      fun r hr => hsystem r ((htracked key r).2 hr)⟩
  · refine .inr ⟨hmain, fun hdisposable => ?_⟩
    rcases h with hprev | ⟨r, hr, huser⟩
    · obtain ⟨r, hr⟩ := hdisposable.recorded
      have hmem := (htracked key r).2 hr
      rw [hprev] at hmem
      exact absurd hmem List.not_mem_nil
    · have hsystem := hdisposable.system r ((htracked key r).1 hr)
      cases huser.symm.trans hsystem

/-- The sink handles a dataset as it was reconciled. -/
theorem handled_of_actionRun (htracked : s.Tracked) (hresolve : SystemTransitionContract resolve)
    (hdiff : DiffDeleteContract)
    (ho : DatasetHandler.reconcile resolve key.toStableKey (s.declared key) (s.prevRecords key)
      (s.prevMayBeMissing key) = .ok o)
    (hrun : ActionRun o.action result events) : s.Handled key result events := by
  obtain ⟨rfl, hspec, hrecord, -⟩ := DatasetHandler.reconcile_ok ho
  have hundeclared (h : o.action.spec = none) := mainAction_undeclared htracked hresolve hdiff
    (hspec ▸ h) ho
  have huser (hdisposable : s.Disposable o.action.key) :
      ¬∃ record, s.Possible o.action.key record ∧ record.managedBy = .user := by
    rintro ⟨r, hr, huser⟩
    cases huser.symm.trans (hdisposable.system r hr)
  cases hrun with
  | skipped hnone hmain =>
    have hnot : ¬s.Disposable o.action.key := by
      rcases hundeclared hnone with ⟨hdelete, -⟩ | ⟨-, hnot⟩
      · cases hmain.symm.trans hdelete
      · exact hnot
    exact {
      teardown := fun _ _ _ h => absurd h List.not_mem_nil
      tornDown := fun h => absurd h hnot
      handsOff := fun _ _ => ⟨rfl, rfl⟩
      child_iff := fun _ h => iff_of_true (Except.ok.inj h).symm (hspec ▸ hnone)
      child := fun _ h => nomatch Except.ok.inj h }
  | unbound hwork e response => exact {
      teardown := fun _ _ _ h => by simp at h
      tornDown := fun _ _ h => nomatch h
      handsOff := fun hnone hpossible => by
        rcases hundeclared (hspec.trans hnone) with ⟨-, hdisposable⟩ | ⟨hmain, -⟩
        · exact absurd hpossible (huser hdisposable)
        · exact absurd hmain (hwork (hspec.trans hnone))
      child_iff := fun _ h => nomatch h
      child := fun _ h => nomatch h }
  | kept hnone hmain hne r =>
    -- Nothing but a deletion is ever asked for.
    rcases hundeclared hnone with ⟨hdelete, -⟩ | ⟨hmain', -⟩
    · exact absurd (Option.some.inj (hmain.symm.trans hdelete)) hne
    · cases hmain.symm.trans hmain'
  | tornDown hnone hmain r hrun =>
    have hdisposable : s.Disposable o.action.key := by
      rcases hundeclared hnone with ⟨-, hdisposable⟩ | ⟨hmain', -⟩
      · exact hdisposable
      · cases hmain.symm.trans hmain'
    exact {
      teardown := fun r' handle response h => ⟨hdisposable, by
        rcases List.mem_cons.1 h with h | h
        · cases h
        · obtain ⟨x, hx, heq⟩ := List.mem_map.1 h
          obtain ⟨c, response'⟩ := x
          cases heq
          obtain ⟨released, rfl⟩ := TearDownRun.mem_teardown hrun hx
          exact ⟨released, rfl⟩⟩
      tornDown := fun _ _ h => by
        obtain ⟨_, hok, -⟩ := map_eq_ok.1 h
        obtain ⟨handle, hmem⟩ := TearDownRun.mem_of_ok (hok ▸ hrun)
        exact ⟨r, handle, List.mem_cons_of_mem _ (List.mem_map.2 ⟨_, hmem, rfl⟩)⟩
      handsOff := fun _ hpossible => absurd hpossible (huser hdisposable)
      child_iff := fun child h => by
        obtain ⟨_, -, rfl⟩ := map_eq_ok.1 h
        exact iff_of_true rfl (hspec ▸ hnone)
      child := fun c h => by
        obtain ⟨_, -, heq⟩ := map_eq_ok.1 h
        cases heq }
  | resolved hsome r response =>
    have hdeclared : ¬s.declared o.action.key = none := by
      rw [← hspec, hsome]
      nofun
    exact {
      teardown := fun _ _ _ h => by simp at h
      tornDown := fun h => absurd h.undeclared hdeclared
      handsOff := fun h => absurd h hdeclared
      child_iff := fun child h => by
        obtain ⟨c, -, rfl⟩ := map_eq_ok.1 h
        exact iff_of_false nofun hdeclared
      child := fun c h => by
        obtain ⟨_, hc, heq⟩ := map_eq_ok.1 h
        obtain rfl := Option.some.inj heq
        obtain ⟨handle, rfl, hchild⟩ := bind_eq_ok.1 hc
        rw [← hspec, hsome] at hrecord
        obtain ⟨f, hf, hfingerprint, -⟩ := DatasetHandler.trackingRecordFor_some hrecord
        rw [childFor, hfingerprint] at hchild
        obtain rfl := Except.ok.inj hchild
        exact ⟨rfl, ⟨_, hspec.symm.trans hsome, rfl, hf⟩, rfl⟩ }

end DatasetMachine

variable {s : DatasetMachine} {resolve : SystemTransition} {ρ : Type}

/-- A dataset that may be user-managed is never torn down. -/
theorem user_managed_never_torn_down (hresolve : SystemTransitionContract resolve)
    (hdiff : DiffDeleteContract)
    (hrun : ReflTransGen (DatasetMachine.Step resolve ρ) .initial s) {keys : List DatasetKey}
    {outputs : List DatasetReconcileOutput} (hbatch : s.reconcileBatch resolve keys = .ok outputs)
    {outcome : Except PyError (List (Option (ChildTargetDef ρ)))} {log : List (DatasetRecord ρ)}
    (hsink : DatasetMachine.Applies ρ outputs outcome log) :
    List.Forall₂ (fun key o => o.action.key = key ∧ o.action.spec = s.declared key ∧
      (o.trackingRecord = none ↔ s.declared key = none)) keys outputs ∧
    EachRun (fun o => s.Handled o.action.key) outputs outcome log ∧
    ∀ children, outcome = .ok children →
      List.Forall₂ (fun o child => child = none ↔ o.action.spec = none) outputs children := by
  have htracked := DatasetMachine.Tracked.run hrun
  have hreconciled := mapM_eq_ok_iff.1 hbatch
  have hkeys : List.Forall₂ (fun key o => o.action.key = key ∧ o.action.spec = s.declared key ∧
      (o.trackingRecord = none ↔ s.declared key = none)) keys outputs := by
    refine hreconciled.imp fun key o ho => ?_
    obtain ⟨hkey, hspec, -, -⟩ := DatasetHandler.reconcile_ok ho
    exact ⟨hkey, hspec, DatasetHandler.trackingRecord_eq_none_iff ho⟩
  -- Each output is that of its own key, so that it can be judged without the batch.
  have houtput : ∀ o ∈ outputs, DatasetHandler.reconcile resolve o.action.key.toStableKey
      (s.declared o.action.key) (s.prevRecords o.action.key)
      (s.prevMayBeMissing o.action.key) = .ok o := by
    intro o ho
    obtain ⟨key, -, hkey⟩ := exists_of_mem_forall₂ hreconciled ho
    rwa [(DatasetHandler.reconcile_ok hkey).1]
  have hhandled : EachRun (fun o => s.Handled o.action.key) outputs outcome log :=
    (eachRun_of_runs hsink).of_map.imp fun o ho _ _ =>
      DatasetMachine.handled_of_actionRun htracked hresolve hdiff (houtput o ho)
  refine ⟨hkeys, hhandled, ?_⟩
  rintro children rfl
  have hboth : EachRun (fun o result events => s.Handled o.action.key result events ∧
      o.action.spec = s.declared o.action.key) outputs (.ok children) log :=
    hhandled.imp fun o ho _ _ h => ⟨h, (DatasetHandler.reconcile_ok (houtput o ho)).2.1⟩
  refine hboth.forall₂.imp fun o child ⟨events, h, hspec⟩ => ?_
  rw [hspec]
  exact h.child_iff child rfl

end

/-- A transition of the target, unless its user manages it or it never existed. -/
def SystemTransition.sample : SystemTransition := fun t =>
  if (∃ r ∈ t.prev, r.managedBy = .user) ∨ ∃ r ∈ t.desired, r.managedBy = .user then none
  else if t.desired = none ∧ t.prev = [] then none
  else some ⟨t.desired.map (·.trackingRecord), t.prev.map (·.trackingRecord), t.prevMayBeMissing⟩

theorem SystemTransition.sample_contract : SystemTransitionContract .sample where
  empty _ := by simp [SystemTransition.sample]
  user _ _ h := if_pos (.inl h)
  system prev _ hprev h := by
    have huser : ¬((∃ r ∈ prev, r.managedBy = .user) ∨
        ∃ r ∈ (none : Option DatasetTrackingRecord), r.managedBy = .user) := by
      rintro (⟨r, hr, huser⟩ | ⟨r, hr, -⟩)
      · cases huser.symm.trans (h r hr)
      · exact absurd hr (Option.not_mem_none r)
    exact (if_neg huser).trans (if_neg fun hempty => hprev hempty.2)

/-- The key of a dataset on the sample platform. -/
def DatasetKey.sample : DatasetKey :=
  ⟨"rt", "default", "ds", ⟨by decide, by decide⟩, by decide, by decide⟩

/-- A user-managed dataset that was about to be created is unmounted: nothing is
    called, and there is no handler. -/
theorem user_managed_never_torn_down_sample :
    letI : Platform := .sample
    ∃ (s : DatasetMachine) (outputs : List DatasetReconcileOutput),
      s.declared .sample = none ∧ (∃ r, s.Possible .sample r ∧ r.managedBy = .user) ∧
      s.reconcileBatch .sample [.sample] = .ok outputs ∧
      EachRun (fun o => s.Handled o.action.key) outputs (.ok [none])
        ([] : List (DatasetRecord Unit)) := by
  let _ : Platform := .sample
  obtain ⟨f, hf⟩ := ProcessingConfig.sample_fingerprint
  let spec : CogneeDatasetSpec := ⟨{ chunkSize := some 100 }, .sample, .user⟩
  let record : DatasetTrackingRecord := ⟨⟨f, RECORD_SCHEMA_VERSION⟩, .user⟩
  have hrecord : DatasetHandler.trackingRecordFor (some spec) = .ok (some f, some record) := by
    rw [DatasetHandler.trackingRecordFor, hf]
    rfl
  let s₁ : DatasetMachine := DatasetMachine.initial.desire .sample (some spec)
  have hdeclared : s₁.declared .sample = some spec := DatasetMachine.declared_desire _
  obtain ⟨o, ho⟩ : ∃ o, DatasetHandler.reconcile .sample DatasetKey.sample.toStableKey
      (s₁.declared .sample) (s₁.prevRecords .sample) (s₁.prevMayBeMissing .sample) = .ok o :=
    ⟨_, DatasetHandler.reconcile_eq (hdeclared ▸ hrecord)⟩
  obtain ⟨hokey, -, horecord, -⟩ := DatasetHandler.reconcile_ok ho
  rw [hdeclared, hrecord] at horecord
  replace horecord : o.trackingRecord = some record :=
    (congrArg Prod.snd (Except.ok.inj horecord)).symm
  -- The process exits before the sink, and then the dataset is no longer declared.
  let s₂ : DatasetMachine := (s₁.precommit [o]).desire .sample none
  have hundeclared : s₂.declared .sample = none := DatasetMachine.declared_desire _
  have hhistory : s₂.history .sample = [.intended (some record)] := by
    show (s₁.intend o.action.key o.trackingRecord).history .sample = _
    rw [hokey, horecord, DatasetMachine.history_intend]
    rfl
  have hprev : s₂.prevRecords .sample = [record] := by
    show (s₁.intend o.action.key o.trackingRecord).prevRecords .sample = _
    rw [hokey, horecord, DatasetMachine.prevRecords_intend]
    rfl
  obtain ⟨o', ho'⟩ : ∃ o, DatasetHandler.reconcile .sample DatasetKey.sample.toStableKey
      (s₂.declared .sample) (s₂.prevRecords .sample) (s₂.prevMayBeMissing .sample) = .ok o :=
    ⟨_, DatasetHandler.reconcile_eq (f := none) (r := none) (hundeclared ▸ rfl)⟩
  obtain ⟨-, hospec, -, homain⟩ := DatasetHandler.reconcile_ok ho'
  have hbatch := DatasetMachine.reconcileBatch_singleton ho'
  refine ⟨s₂, [o'], hundeclared, ⟨record, ?_, rfl⟩, hbatch, ?_⟩
  · rw [DatasetMachine.Possible, hhistory]
    exact List.mem_singleton_self _
  · have hmain : o'.action.mainAction = none := by
      rw [homain, hprev, (DatasetHandler.trackingRecord_eq_none_iff ho').2 hundeclared]
      rfl
    have hsink : DatasetMachine.Applies Unit [o'] (.ok [none]) [] := by
      rw [DatasetMachine.Applies, applyDatasetActions, List.map_singleton, List.mapM_cons,
        applyDatasetAction, hospec.trans hundeclared, hmain]
      exact .refl
    have hrun : ReflTransGen (DatasetMachine.Step .sample Unit) .initial s₂ :=
      .tail (.tail (.single (.declare _ _ spec)) (.exitBeforeSink
        (DatasetMachine.reconcileBatch_singleton ho))) (.unmount _ _)
    exact (user_managed_never_torn_down SystemTransition.sample_contract
      (fun _ _ => rfl) hrun hbatch hsink).2.1

end Cogindex
