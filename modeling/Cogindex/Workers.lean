import Cogindex.Convergence
import Cogindex.Serializable

/-!
# Workers under one lock

Any number of workers declare documents of one dataset, each for keys of its
own, with its own tracking and its own handlers. Their attempts to sync are
interleaved at every call, fail anywhere, or exit before the batch or before
the commit (`Workers.Move`); all batches take the lock of the dataset.

* `Workers.Sound.of_runs`: what a batch does for the worker it belongs to;
* `Workers.Invariant.serialStep`: a step of the serial system, in which a batch
  runs at once;
* `workers_converge`: when all workers have synced, the dataset holds what they
  have declared and nothing else.
-/

namespace Cogindex

open Coroutine FakeCogneeRuntime Function Interleaving Relation

section

variable [Platform] {ι : Type}

/-! ## Workers -/

/-- What workers share: a runtime, a dataset and a processing configuration;
    and the keys that they do not share. -/
structure Workers (ι : Type) where
  runtimeKey : String
  handle : DatasetHandle
  profile : CognifyProfile
  processingFingerprint : String
  keys : ι → Set DocumentKey
  disjoint : ∀ i j, i ≠ j → Disjoint (keys i) (keys j)

/-- A batch in progress: the outputs of its round, and the task that applies them. -/
structure Attempt (ι : Type) where
  outputs : Outputs
  task : ι × Program Unit

/-- A worker: what it has declared and tracked, the batch in progress, and the
    declarations that its most recent attempt has synced, if that was complete. -/
structure Worker (ι : Type) where
  declared : Declared := ∅
  tracking : Tracking := ∅
  attempt : Option (Attempt ι) := none
  synced : Option Declared := none

/-- A worker runs the task of its batch. -/
def Worker.nesting (ι : Type) : Nesting (Worker ι) (ι × Program Unit) where
  active w := w.attempt.map Attempt.task
  resume w task := { w with attempt := some ⟨w.attempt.elim [] Attempt.outputs, task⟩ }
  active_resume _ _ := rfl
  resume_active := by
    rintro ⟨declared, tracking, _ | ⟨outputs, task⟩, synced⟩ a ha
    · cases ha
    · cases ha
      rfl
  resume_resume _ _ _ := rfl

namespace Workers

variable (W : Workers ι)

/-- The connector of a handler, whose handle of the dataset has an id or none. -/
abbrev connector (datasetId : Option UUID) : Deployment Unit :=
  .connector W.runtimeKey { W.handle with datasetId } fun _ => W.profile

/-- The handler of a worker. -/
abbrev handler (datasetId : Option UUID) : DocumentHandler :=
  (W.connector datasetId).handler W.processingFingerprint

/-- A round of reconciling of a worker. -/
abbrev round (datasetId : Option UUID) (w : Worker ι) : Except PyError Outputs :=
  (W.connector datasetId).round () W.processingFingerprint w.declared w.tracking

/-- What a worker does by itself, between its calls. -/
inductive Move (i : ι) : Worker ι → Worker ι → Prop
  | declare {w : Worker ι} (hw : w.attempt = none) {declared : Declared}
    (hkeys : ∀ k ∈ declared, k ∈ W.keys i) : Move i w { w with declared }
  /-- Reconciling raises. -/
  | rejected {w : Worker ι} (hw : w.attempt = none) {datasetId : Option UUID} {e : PyError}
    (hround : W.round datasetId w = .error e) : Move i w { w with synced := none }
  | start {w : Worker ι} (hw : w.attempt = none) {datasetId : Option UUID} {outputs : Outputs}
    (hround : W.round datasetId w = .ok outputs) : Move i w { w with
      tracking := w.tracking.precommit outputs
      attempt := some ⟨outputs, i, (W.handler datasetId).applyOutputs outputs⟩
      synced := none }
  /-- An exit between the precommit and the batch. -/
  | exitBeforeApply {w : Worker ι} (hw : w.attempt = none) {datasetId : Option UUID}
    {outputs : Outputs} (hround : W.round datasetId w = .ok outputs) :
    Move i w { w with tracking := w.tracking.precommit outputs, synced := none }
  | failed {w : Worker ι} {outputs : Outputs} {e : PyError}
    (hw : w.attempt = some ⟨outputs, i, .raise e⟩) : Move i w { w with attempt := none }
  | exitBeforeCommit {w : Worker ι} {outputs : Outputs}
    (hw : w.attempt = some ⟨outputs, i, .ret ()⟩) : Move i w { w with attempt := none }
  | commit {w : Worker ι} {outputs : Outputs} (hw : w.attempt = some ⟨outputs, i, .ret ()⟩) :
    Move i w { w with
      tracking := w.tracking.commit outputs, attempt := none, synced := some w.declared }

/-- The workers, as tasks that run batches now and then. -/
def system : TaskSystem ι (Worker ι) (World ι) (ι × RuntimeCall) (fun c => c.2.Response)
    PyError where
  internal := W.Move
  awaits := (Worker.nesting ι).awaits (sharing ι Unit).awaits
  lockOp c := c.2.lockOp
  step c := Touches c.1 c.2

variable {W} {i : ι} {w w' : Worker ι}

/-- Without a batch in progress, nothing is inside the lock. -/
theorem active_eq_none (hw : w.attempt = none) : (Worker.nesting ι).active w = none :=
  congrArg (Option.map Attempt.task) hw

theorem active_eq_some {outputs : Outputs} {task : ι × Program Unit}
    (hw : w.attempt = some ⟨outputs, task⟩) : (Worker.nesting ι).active w = some task :=
  congrArg (Option.map Attempt.task) hw

/-- The batch of a round enters the lock, unless there is nothing to do. -/
theorem ended_or_locked_applyOutputs (datasetId : Option UUID) (outputs : Outputs) :
    Ended ((W.handler datasetId).applyOutputs outputs) ∨
      Locked (lockScope W.handle) ((W.handler datasetId).applyOutputs outputs) := by
  rw [DocumentHandler.applyOutputs]
  split_ifs
  · exact .inl (ended_ret ())
  · rcases Job.raises_or_locked_apply (W.handler datasetId) (outputs.map (·.2.action)) with
      ⟨e, he⟩ | hlocked
    · rw [he]
      exact .inl (ended_raise e)
    · exact .inr hlocked

/-- Batches keep to the lock of the dataset. -/
def discipline (W : Workers ι) : Discipline (W.system.under (lockScope W.handle)) :=
  (Worker.nesting ι).discipline (Cogindex.discipline W.handle ι Unit)
    (fun {i l l'} hmove hout => by
      -- Of the moves of a worker, only the start of a round leaves an attempt behind.
      have hnone {w : Worker ι} (hw : w.attempt = none) : ∀ a ∈ (Worker.nesting ι).active w,
          (Cogindex.discipline W.handle ι Unit).Outside i a := fun a ha => by
        rw [active_eq_none hw] at ha
        cases ha
      cases hmove with
      | declare hw => exact hnone hw
      | rejected hw => exact hnone hw
      | start hw =>
        rintro _ ⟨⟩
        exact ⟨rfl, (ended_or_locked_applyOutputs _ _).elim .ended .locked⟩
      | exitBeforeApply hw => exact hnone hw
      | failed hw => exact hnone rfl
      | exitBeforeCommit hw => exact hnone rfl
      | commit hw => exact hnone rfl)
    fun {i l l' a} hmove ha hin => by
      -- Inside the lock, an attempt is in progress, and has not ended.
      have hnone (hw : l.attempt = none) : False := by
        rw [active_eq_none hw] at ha
        cases ha
      cases hmove with
      | declare hw => exact hnone hw
      | rejected hw => exact hnone hw
      | start hw => exact hnone hw
      | exitBeforeApply hw => exact hnone hw
      | failed hw =>
        cases ha.symm.trans (active_eq_some hw)
        exact hin.2
      | exitBeforeCommit hw =>
        cases ha.symm.trans (active_eq_some hw)
        exact hin.2
      | commit hw =>
        cases ha.symm.trans (active_eq_some hw)
        exact hin.2

/-! ## What the tracking of a worker says -/

/-- What the tracking of a worker says of its part of the dataset. -/
abbrev Covers (W : Workers ι) (i : ι) (tracking : Tracking) (s : FakeCogneeRuntime) : Prop :=
  (W.connector none).Covers (W.keys i) tracking s

/-- The tracking of a worker is what its declarations ask for. -/
abbrev Fixed (W : Workers ι) (declared : Declared) (tracking : Tracking) : Prop :=
  (W.connector none).Fixed () W.processingFingerprint declared tracking

/-- Where a worker is in its attempt, and what its tracking says then. -/
inductive Consistent (W : Workers ι) (i : ι) (s : FakeCogneeRuntime) : Worker ι → Prop
  | idle {w : Worker ι} (hw : w.attempt = none) (hcov : W.Covers i w.tracking s)
    (hsynced : ∀ declared, w.synced = some declared → W.Fixed declared w.tracking) :
    Consistent W i s w
  /-- The batch was not let in yet. -/
  | started {w : Worker ι} {datasetId : Option UUID} {outputs : Outputs}
    (hround : W.round datasetId w = .ok outputs) (hcov : W.Covers i w.tracking s)
    (htracked : ∀ k ∈ w.tracking, k ∈ W.keys i)
    (hlocked : Locked (lockScope W.handle) ((W.handler datasetId).applyOutputs outputs)) :
    Consistent W i s { w with
      tracking := w.tracking.precommit outputs
      attempt := some ⟨outputs, i, (W.handler datasetId).applyOutputs outputs⟩
      synced := none }
  /-- The batch has ended. -/
  | ended {w : Worker ι} {outputs : Outputs} {outcome : Except PyError Unit}
    (hw : w.attempt = some ⟨outputs, i, ofExcept outcome⟩) (hsynced : w.synced = none)
    (hcov : W.Covers i w.tracking s) (hok : outcome = .ok () →
      W.Covers i (w.tracking.commit outputs) s ∧ W.Fixed w.declared (w.tracking.commit outputs)) :
    Consistent W i s w

/-- The keys of a worker are its own, and its tracking is consistent. -/
structure Sound (W : Workers ι) (i : ι) (s : FakeCogneeRuntime) (w : Worker ι) : Prop where
  declared : ∀ k ∈ w.declared, k ∈ W.keys i
  tracked : ∀ k ∈ w.tracking, k ∈ W.keys i
  consistent : W.Consistent i s w

section Sound

variable {s s' : FakeCogneeRuntime} {datasetId : Option UUID} {outputs : Outputs}
  {outcome : Except PyError Unit}

theorem Consistent.of_idle (h : W.Consistent i s w) (hw : w.attempt = none) :
    W.Covers i w.tracking s ∧
      ∀ declared, w.synced = some declared → W.Fixed declared w.tracking := by
  cases h with
  | idle _ hcov hsynced => exact ⟨hcov, hsynced⟩
  | started => cases hw
  | ended hw' => cases hw.symm.trans hw'

theorem Consistent.of_ended (h : W.Consistent i s w)
    (hw : w.attempt = some ⟨outputs, i, ofExcept outcome⟩) : w.synced = none ∧
      W.Covers i w.tracking s ∧ (outcome = .ok () → W.Covers i (w.tracking.commit outputs) s ∧
        W.Fixed w.declared (w.tracking.commit outputs)) := by
  cases h with
  | idle hw' => cases hw.symm.trans hw'
  | @started v datasetId outputs' _ _ _ hlocked =>
    generalize (W.handler datasetId).applyOutputs outputs' = p at hw hlocked
    cases hw
    cases outcome <;> cases hlocked
  | @ended _ outputs' outcome' hw' hsynced hcov hok =>
    obtain ⟨rfl, htask⟩ := Attempt.mk.inj (Option.some.inj (hw.symm.trans hw'))
    obtain rfl := ofExcept_injective (Prod.mk.inj htask).2
    exact ⟨hsynced, hcov, hok⟩

/-- The outputs of a round are for keys of the worker. -/
theorem mem_keys_of_round (hdeclared : ∀ k ∈ w.declared, k ∈ W.keys i)
    (htracked : ∀ k ∈ w.tracking, k ∈ W.keys i) (hround : W.round datasetId w = .ok outputs)
    (k : DocumentKey) (o : ReconcileOutput) (ho : (k, o) ∈ outputs) : k ∈ W.keys i :=
  (Tracking.mem_roundKeys.1 ((Tracking.mem_outputs hround).1 ho).1).elim (hdeclared k) (htracked k)

/-- A precommit tracks no other keys. -/
theorem mem_keys_of_precommit (hdeclared : ∀ k ∈ w.declared, k ∈ W.keys i)
    (htracked : ∀ k ∈ w.tracking, k ∈ W.keys i) (hround : W.round datasetId w = .ok outputs)
    (k : DocumentKey) (hk : k ∈ w.tracking.precommit outputs) : k ∈ W.keys i := by
  by_cases ho : ∃ o, (k, o) ∈ outputs
  · obtain ⟨o, ho⟩ := ho
    exact mem_keys_of_round hdeclared htracked hround k o ho
  · have hentry := Tracking.getElem?_precommit_of_notMem w.tracking
      (Tracking.outputs_nodup hround) fun o h => ho ⟨o, h⟩
    rw [← Std.ExtTreeMap.isSome_getElem?_iff_mem, hentry,
      Std.ExtTreeMap.isSome_getElem?_iff_mem] at hk
    exact htracked k hk

/-- The tracking of a worker does not depend on what other workers write. -/
theorem Sound.of_covers (h : W.Sound i s w)
    (hcov : ∀ tracking, W.Covers i tracking s → W.Covers i tracking s') : W.Sound i s' w where
  declared := h.declared
  tracked := h.tracked
  consistent := by
    cases h.consistent with
    | idle hw hcov' hsynced => exact .idle hw (hcov _ hcov') hsynced
    | started hround hcov' htracked hlocked =>
      exact .started hround (hcov _ hcov') htracked hlocked
    | ended hw hsynced hcov' hok =>
      exact .ended hw hsynced (hcov _ hcov') fun houtcome => (hok houtcome).imp_left (hcov _)

variable (huuid : Uuid5CollisionFree) (hdiff : DiffContract)

include huuid hdiff

/-- The batch of a round, run to its end, is that of the worker. -/
theorem Sound.of_runs (hdeclared : ∀ k ∈ w.declared, k ∈ W.keys i)
    (htracked : ∀ k ∈ w.tracking, k ∈ W.keys i) (hround : W.round datasetId w = .ok outputs)
    (hcov : W.Covers i w.tracking s)
    (hrun : Runs Answers ((W.handler datasetId).applyOutputs outputs) s (ofExcept outcome) s') :
    W.Sound i s' { w with
      tracking := w.tracking.precommit outputs
      attempt := some ⟨outputs, i, ofExcept outcome⟩
      synced := none } where
  declared := hdeclared
  tracked := mem_keys_of_precommit hdeclared htracked hround
  consistent := by
    have hsep : (W.connector none).Separated := Deployment.connector_separated huuid _ _ _
    have hkeys := mem_keys_of_round hdeclared htracked hround
    have hc := Deployment.complete_actions hround
    obtain ⟨b, hb⟩ := hc.exists_collect
    obtain ⟨hcut, heffect⟩ := Deployment.writes_of_runs hb hc hrun
    refine .ended rfl rfl (Deployment.Covers.cut (v := ()) hsep hround hkeys hcov hb hdiff hcut)
      fun hok => ⟨?_, ?_⟩
    · exact Deployment.Covers.commit (v := ()) hsep hround hkeys hcov hb hdiff (heffect hok)
    · exact Deployment.fixed_of_commit hdiff hround hcov htracked

/-- What a worker does by itself. -/
theorem Sound.move (h : W.Sound i s w) (hmove : W.Move i w w') : W.Sound i s w' := by
  cases hmove with
  | declare hw hkeys =>
    obtain ⟨hcov, hsynced⟩ := h.consistent.of_idle hw
    exact ⟨hkeys, h.tracked, .idle hw hcov hsynced⟩
  | rejected hw =>
    obtain ⟨hcov, -⟩ := h.consistent.of_idle hw
    exact ⟨h.declared, h.tracked, .idle hw hcov (by simp)⟩
  | @start hw datasetId outputs hround =>
    obtain ⟨hcov, -⟩ := h.consistent.of_idle hw
    rcases ended_or_locked_applyOutputs datasetId outputs with ⟨outcome, hended⟩ | hlocked
    · have hrun : Runs Answers ((W.handler datasetId).applyOutputs outputs) s (ofExcept outcome)
          s := hended ▸ .refl
      rw [hended]
      exact .of_runs huuid hdiff h.declared h.tracked hround hcov hrun
    · exact ⟨h.declared, mem_keys_of_precommit h.declared h.tracked hround,
        .started hround hcov h.tracked hlocked⟩
  | exitBeforeApply hw hround =>
    obtain ⟨hcov, -⟩ := h.consistent.of_idle hw
    exact ⟨h.declared, mem_keys_of_precommit h.declared h.tracked hround,
      .idle hw (Deployment.Covers.precommit (v := ()) hround hcov) (by simp)⟩
  | failed hw =>
    obtain ⟨hsynced, hcov, -⟩ := h.consistent.of_ended (ofExcept_error _ ▸ hw)
    exact ⟨h.declared, h.tracked, .idle rfl hcov (by simp [hsynced])⟩
  | exitBeforeCommit hw =>
    obtain ⟨hsynced, hcov, -⟩ := h.consistent.of_ended (ofExcept_ok () ▸ hw)
    exact ⟨h.declared, h.tracked, .idle rfl hcov (by simp [hsynced])⟩
  | commit hw =>
    obtain ⟨-, -, hok⟩ := h.consistent.of_ended (ofExcept_ok () ▸ hw)
    obtain ⟨hcov, hfixed⟩ := hok rfl
    refine ⟨h.declared, fun k hk => h.declared k (hfixed.mem_tracking_iff.1 hk), .idle rfl hcov ?_⟩
    rintro _ ⟨⟩
    exact hfixed

end Sound

/-! ## Steps of the serial system -/

/-- A worker with a batch that was not let in yet: what it was before it started. -/
structure Started (W : Workers ι) (i : ι) (s : FakeCogneeRuntime) (w v : Worker ι)
    (datasetId : Option UUID) (outputs : Outputs) : Prop where
  declared : ∀ k ∈ v.declared, k ∈ W.keys i
  tracked : ∀ k ∈ v.tracking, k ∈ W.keys i
  round : W.round datasetId v = .ok outputs
  covers : W.Covers i v.tracking s
  locked : Locked (lockScope W.handle) ((W.handler datasetId).applyOutputs outputs)
  resume : ∀ p, (Worker.nesting ι).resume w (i, p) = { v with
    tracking := v.tracking.precommit outputs, attempt := some ⟨outputs, i, p⟩, synced := none }

/-- A call of a worker is one of its batch, which was not let in yet. -/
theorem Sound.started {s : FakeCogneeRuntime} (h : W.Sound i s w) {c : ι × RuntimeCall}
    {k : Except PyError c.2.Response → ι × Program Unit} {task : ι × Program Unit}
    (hw : (Worker.nesting ι).active w = some task)
    (ha : (sharing ι Unit).awaits task = some ⟨c, k⟩) :
    ∃ (v : Worker ι) (datasetId : Option UUID) (outputs : Outputs),
      task = (i, (W.handler datasetId).applyOutputs outputs) ∧
        W.Started i s w v datasetId outputs := by
  have hdeclared := h.declared
  cases h.consistent with
  | idle hidle =>
    rw [active_eq_none hidle] at hw
    cases hw
  | @started v _ _ hround hcov htracked hlocked =>
    cases hw
    exact ⟨v, _, _, rfl, hdeclared, htracked, hround, hcov, hlocked, fun _ => rfl⟩
  | ended hended =>
    cases (active_eq_some hended).symm.trans hw
    rw [(ended_ofExcept _).awaits_eq_none] at ha
    cases ha

/-- What a task touches, without its name. -/
theorem runs_answers {p q : Program Unit} {x y : World ι} (h : Runs (Touches i) p x q y) :
    Runs Answers p x.1 q y.1 := by
  induction h with
  | refl => exact .refl
  | await hs _ ih => exact .await hs.1 ih

/-- The rows are those of the keys of the workers, and each worker is sound. -/
structure Invariant (W : Workers ι) (x : World ι × (ι → Worker ι)) : Prop where
  owned : ∀ dataId, (x.1.1.row (keyOf W.handle) dataId).isSome →
    ∃ i, ∃ k ∈ W.keys i, dataId ∈ (W.connector none).ids k
  sound : ∀ i, W.Sound i x.1.1 (x.2 i)

section Invariant

variable [DecidableEq ι] {b t : World ι} {ps : ι → Worker ι}

/-- A worker goes on, and the dataset stays the same. -/
theorem Invariant.update (h : W.Invariant (b, ps)) (hw : W.Sound i b.1 w) :
    W.Invariant (b, Function.update ps i w) where
  owned := h.owned
  sound := (forall_update_iff ps fun j w => W.Sound j b.1 w).2 ⟨hw, fun j _ => h.sound j⟩

variable (huuid : Uuid5CollisionFree) (hdiff : DiffContract)

include huuid hdiff

/-- A batch runs to its end. -/
theorem Invariant.of_runs (h : W.Invariant (b, ps)) (hdeclared : ∀ k ∈ w.declared, k ∈ W.keys i)
    (htracked : ∀ k ∈ w.tracking, k ∈ W.keys i) {datasetId : Option UUID} {outputs : Outputs}
    (hround : W.round datasetId w = .ok outputs) (hcov : W.Covers i w.tracking b.1)
    {outcome : Except PyError Unit}
    (hrun : Runs Answers ((W.handler datasetId).applyOutputs outputs) b.1 (ofExcept outcome) t.1) :
    W.Invariant (t, Function.update ps i { w with
      tracking := w.tracking.precommit outputs
      attempt := some ⟨outputs, i, ofExcept outcome⟩
      synced := none }) := by
  have hsep : (W.connector none).Separated := Deployment.connector_separated huuid _ _ _
  have hkeys := mem_keys_of_round hdeclared htracked hround
  have hc := Deployment.complete_actions hround
  obtain ⟨batch, hb⟩ := hc.exists_collect
  obtain ⟨hcut, -⟩ := Deployment.writes_of_runs hb hc hrun
  refine ⟨fun dataId hrow => ?_, (forall_update_iff ps fun j w => W.Sound j t.1 w).2 ⟨?_, ?_⟩⟩
  · rcases Deployment.exists_mem_ids_of_cut hround hkeys hb hcut hrow with hrow | ⟨k, hk, hid⟩
    · exact h.owned dataId hrow
    · exact ⟨i, k, hk, (), hid⟩
  · exact .of_runs huuid hdiff hdeclared htracked hround hcov hrun
  · -- The keys of other workers have other rows.
    intro j hj
    exact (h.sound j).of_covers fun tracking hcov' =>
      Deployment.Covers.others (v := ()) hsep hround hkeys hcov hb (W.disjoint j i hj) hcov' hcut

/-- A step of the serial system. -/
theorem Invariant.serialStep {x x' : World ι × (ι → Worker ι)} (h : W.Invariant x)
    (hs : (W.system.under (lockScope W.handle)).SerialStep W.discipline.Good x x') :
    W.Invariant x' := by
  cases hs with
  | internal hmove => exact h.update ((h.sound _).move huuid hdiff hmove)
  | @plain b s t ps i c k r ha hc =>
    obtain ⟨task, k', hw, ha', rfl⟩ := Nesting.awaits_eq_some ha
    obtain ⟨v, datasetId, outputs, rfl, hv⟩ := (h.sound i).started hw ha'
    exact absurd (hc.symm.trans (kindOf_enter_iff.2 (hv.locked.lockOp_eq ha'))) (by simp)
  | @refused b s t ps i c k e ha hc _ hs =>
    obtain ⟨task, k', hw, ha', rfl⟩ := Nesting.awaits_eq_some ha
    obtain ⟨v, datasetId, outputs, rfl, hv⟩ := (h.sound i).started hw ha'
    rcases hv.locked.awaits ha' hs with ⟨e', -, hk, -⟩ | ⟨_, _, hr, -⟩
    · simp only
      rw [hk, hv.resume (.raise e')]
      have hcov := Deployment.Covers.precommit (v := ()) hv.round hv.covers
      exact h.update ⟨hv.declared, mem_keys_of_precommit hv.declared hv.tracked hv.round,
        @Consistent.ended _ _ _ _ _ _ _ (.error e') rfl rfl hcov (by simp)⟩
    · cases hr
  | @«section» b s t ps i l c k r hsection ha hc hs =>
    have hnested : ((Worker.nesting ι).system ((sharing ι Unit).under (lockScope W.handle))
        W.Move).Section (ps i) b l s := hsection
    obtain ⟨task, task', hw, rfl, hsub⟩ := Nesting.section hnested
    obtain ⟨k₀, hk₀⟩ : ∃ k₀, (sharing ι Unit).awaits task = some k₀ := by
      cases hsub with
      | intro ha₀ => exact ⟨_, ha₀⟩
    obtain ⟨v, datasetId, outputs, rfl, hv⟩ := (h.sound i).started hw hk₀
    obtain ⟨q, rfl, hinside, hrun⟩ := runs_of_section hv.locked hsub
    have hnested' : (Worker.nesting ι).awaits (sharing ι Unit).awaits
        ((Worker.nesting ι).resume (ps i) (i, q)) = some ⟨c, k⟩ := ha
    obtain ⟨task, k', hw', ha', rfl⟩ := Nesting.awaits_eq_some hnested'
    cases (Nesting.active_resume _ _ _).symm.trans hw'
    obtain ⟨outcome, hk, hrun'⟩ := runs_of_leave hinside ha' hc hs hrun
    simp only
    rw [hk, Nesting.resume_resume, hv.resume (ofExcept outcome)]
    exact h.of_runs huuid hdiff hv.declared hv.tracked hv.round hv.covers (runs_answers hrun')

omit huuid hdiff in
omit [DecidableEq ι] in
/-- An empty dataset, and workers that have declared nothing. -/
theorem Invariant.initial {s : FakeCogneeRuntime}
    (hrows : ∀ dataId, s.row (keyOf W.handle) dataId = none) :
    W.Invariant ((s, []), fun _ => {}) where
  owned dataId hrow := by
    rw [hrows] at hrow
    cases hrow
  sound i := by
    refine ⟨fun k hk => absurd hk Std.ExtTreeMap.not_mem_empty,
      fun k hk => absurd hk Std.ExtTreeMap.not_mem_empty, .idle rfl (fun k _ => ?_) (by simp)⟩
    rw [Tracking.prevRecords_of_notMem Std.ExtTreeMap.not_mem_empty,
      Tracking.prevMayBeMissing_of_notMem Std.ExtTreeMap.not_mem_empty]
    exact .fresh fun dataId _ => hrows dataId

/-- The invariant holds in every reachable state without a batch in progress. -/
theorem invariant_of_run [Fintype ι] {s : FakeCogneeRuntime}
    {t : Tasks ι (Worker ι) (World ι)} (hs : W.handle.identityScope = s.identityScope)
    (hrows : ∀ dataId, s.row (keyOf W.handle) dataId = none)
    (hrun : ReflTransGen W.system.Step (.start (s, []) fun _ => {}) t)
    (hidle : ∀ i, (t.procs i).attempt = none) : W.Invariant (t.store, t.procs) := by
  obtain ⟨-, holder, -, hunder⟩ := TaskSystem.simulates hrun (lockScope W.handle)
  have hgood : W.discipline.Good (s, []) := hs
  have hout : ∀ i, W.discipline.Outside i ({} : Worker ι) := fun i a ha => nomatch ha
  obtain ⟨-, x, hserial, hprogress⟩ := Discipline.serializable hgood hout hunder
  have hinv : W.Invariant x := by
    clear hprogress
    induction hserial with
    | refl => exact .initial hrows
    | tail _ hstep ih => exact ih.serialStep huuid hdiff hstep
  generalize hm : (⟨t.store, holder, t.procs⟩ : Config ι _ _) = m at hprogress
  cases hprogress with
  | free =>
    obtain ⟨hstore, -, hprocs⟩ := Config.mk.inj hm
    rw [hstore, hprocs]
    exact hinv
  | @held i l s hsection =>
    -- The worker that is inside has a batch in progress.
    obtain ⟨-, -, hprocs⟩ := Config.mk.inj hm
    have hnested : ((Worker.nesting ι).system ((sharing ι Unit).under (lockScope W.handle))
        W.Move).Section (x.2 i) x.1 l s := hsection
    obtain ⟨task, task', -, rfl, -⟩ := Nesting.section hnested
    have hi := hidle i
    rw [hprocs, update_self] at hi
    cases hi

end Invariant

/-- The dataset is the disjoint union of what the workers have declared, and no
    worker finds anything to do. -/
structure Converged (W : Workers ι) (s : FakeCogneeRuntime) (ps : ι → Worker ι) : Prop where
  rows : ∀ dataId, (s.row (keyOf W.handle) dataId).isSome ↔
    ∃ i, ∃ k ∈ (ps i).declared, (W.connector none).dataId () k = .ok dataId
  disjoint : ∀ i j, ∀ k ∈ (ps i).declared, ∀ l ∈ (ps j).declared, ∀ dataId,
    (W.connector none).dataId () k = .ok dataId → (W.connector none).dataId () l = .ok dataId →
      i = j ∧ k = l
  documents : ∀ i k spec, (ps i).declared[k]? = some spec → ∃ dataId x,
    (W.connector none).dataId () k = .ok dataId ∧ s.row (keyOf W.handle) dataId = some x ∧
      ConvergedTo spec W.profile x
  tracked : ∀ i k, k ∈ (ps i).tracking ↔ k ∈ (ps i).declared
  fixed : ∀ i datasetId, ∀ k ∈ Tracking.roundKeys (ps i).declared (ps i).tracking,
    (ps i).tracking.reconcileKey documentDataId (W.handler datasetId) (ps i).declared k = .ok none

/-! ## Progress -/

section Progress

variable {outputs : Outputs} {p : Program Unit}

/-- A worker with a batch in progress awaits the call of its batch. -/
theorem awaits_of_attempt {c : RuntimeCall} {k : Except PyError c.Response → Program Unit}
    (hw : w.attempt = some ⟨outputs, i, .await c k⟩) : W.system.awaits w =
      some ⟨(i, c), fun r => { w with attempt := some ⟨outputs, i, k r⟩ }⟩ := by
  obtain ⟨declared, tracking, attempt, synced⟩ := w
  obtain rfl : attempt = _ := hw
  rfl

/-- A round that has outputs enters the lock. -/
theorem locked_applyOutputs {datasetId : Option UUID} (hne : outputs ≠ []) {s : FakeCogneeRuntime}
    (hok : (run perform ((W.handler datasetId).applyOutputs outputs) [] s).1 = .ok ()) :
    Locked (lockScope W.handle) ((W.handler datasetId).applyOutputs outputs) := by
  rw [DocumentHandler.applyOutputs, if_neg hne] at hok ⊢
  rcases Job.raises_or_locked_apply (W.handler datasetId) (outputs.map (·.2.action)) with
    ⟨e, he⟩ | hlocked
  · rw [he] at hok
    cases hok
  · exact hlocked

/-- A batch that can end without faults is let in by the runtime. -/
theorem exists_enter (hp : Locked (lockScope W.handle) p) (x : World ι)
    (hok : (run perform p [] x.1).1 = .ok ()) :
    ∃ (handle : DatasetHandle) (k : Except PyError Unit → Program Unit) (y : World ι),
      p = .await (.lockEnter handle) k ∧ lockScope handle = lockScope W.handle ∧
      Inside (lockScope W.handle) (k (.ok ())) ∧ Touches i (.lockEnter handle) x (.ok ()) y ∧
      run perform p [] x.1 = run perform (k (.ok ())) [] y.1 := by
  cases hp with
  | @intro handle k hhandle hrefused hinside =>
    have hrun : run perform (.await (.lockEnter handle) k) [] x.1 =
        run perform (k (perform none (.lockEnter handle) x.1).1) []
          (perform none (.lockEnter handle) x.1).2 := rfl
    have hanswer : Touches i (.lockEnter handle) x (perform none (.lockEnter handle) x.1).1
        ((perform none (.lockEnter handle) x.1).2, x.2) :=
      ⟨⟨none, rfl⟩, (List.append_nil _).symm⟩
    -- It is let in: otherwise it would raise.
    generalize hresult : perform none (.lockEnter handle) x.1 = result at hrun hanswer
    obtain ⟨_ | _, s⟩ := result
    · rw [hrun, hrefused] at hok
      cases hok
    · exact ⟨handle, k, (s, x.2), rfl, hhandle, hinside, hanswer, hrun⟩

variable [DecidableEq ι] {t : Tasks ι (Worker ι) (World ι)} {e : EntryId}

/-- A batch that was let in can end as it does without faults. -/
theorem exists_run_of_inside (hp : Inside (lockScope W.handle) p)
    (hw : (t.procs i).attempt = some ⟨outputs, i, p⟩)
    (hphase : t.phase i = .inside (lockScope W.handle) e) : ∃ log provider,
      ReflTransGen W.system.Step t ⟨((run perform p [] t.store.1).2, log), provider,
        update t.phase i .outside, update t.procs i { t.procs i with
          attempt := some ⟨outputs, i, ofExcept (run perform p [] t.store.1).1⟩ }⟩ := by
  -- The program takes its calls in the order of `run`, and the last of them leaves the lock.
  induction p generalizing t with
  | ret a => exact hp.elim
  | raise e => exact hp.elim
  | await c k ih =>
    have hanswer : Touches i c t.store (perform none c t.store.1).1
        ((perform none c t.store.1).2, t.store.2 ++ c.access.toList.map (i, ·)) :=
      ⟨⟨none, rfl⟩, rfl⟩
    rcases hp with ⟨hc, hk⟩ | ⟨hc, hk⟩
    · have hstep : W.system.Step t _ := .plain (c := (i, c)) (awaits_of_attempt hw) hc hanswer
      obtain ⟨log, provider, hrun⟩ := ih (perform none c t.store.1).1 (hk _)
        (t := ⟨_, t.provider, t.phase, update t.procs i { t.procs i with
          attempt := some ⟨outputs, i, k (perform none c t.store.1).1⟩ }⟩)
        (by simp only [update_self]) hphase
      simp only [update_idem, update_self] at hrun
      exact ⟨log, provider, hrun.head hstep⟩
    · obtain ⟨outcome, houtcome⟩ := hk (perform none c t.store.1).1
      have hrun : run perform (.await c k) [] t.store.1 =
          (outcome, (perform none c t.store.1).2) := by
        show run perform (k (perform none c t.store.1).1) [] (perform none c t.store.1).2 = _
        rw [houtcome]
        cases outcome <;> rfl
      have hstep : W.system.Step t _ :=
        .leave (c := (i, c)) (awaits_of_attempt hw) hc hphase hanswer
      rw [hrun, ← houtcome]
      exact ⟨_, _, .single hstep⟩

/-- A worker whose batch begins can wait for the lock. -/
theorem exists_wait (hp : Locked (lockScope W.handle) p)
    (hw : (t.procs i).attempt = some ⟨outputs, i, p⟩) (hphase : t.phase i = .outside)
    (hscope : validateScope (lockScope W.handle) = .ok ())
    (hok : (run perform p [] t.store.1).1 = .ok ()) : ∃ provider e, W.system.Step t
      { t with provider, phase := update t.phase i (.waiting (lockScope W.handle) e) } := by
  obtain ⟨handle, k, y, rfl, hhandle, -, hanswer, -⟩ := exists_enter (i := i) hp t.store hok
  have hc : RuntimeCall.lockOp (.lockEnter handle) = some (.enter (lockScope W.handle)) :=
    congrArg (fun scope => some (LockOp.enter scope)) hhandle
  exact ⟨_, _, .wait (awaits_of_attempt hw) hc hphase hscope ⟨_, y, hanswer⟩⟩

/-- A worker that waits can apply its batch and commit it, once the lock is free. -/
theorem exists_sync_of_waiting (hp : Locked (lockScope W.handle) p)
    (hw : (t.procs i).attempt = some ⟨outputs, i, p⟩)
    (hphase : t.phase i = .waiting (lockScope W.handle) e)
    (hfree : (t.provider.entries e).locked = false)
    (hok : (run perform p [] t.store.1).1 = .ok ()) : ∃ log provider,
      ReflTransGen W.system.Step t ⟨((run perform p [] t.store.1).2, log), provider,
        update t.phase i .outside, update t.procs i { t.procs i with
          tracking := (t.procs i).tracking.commit outputs
          attempt := none
          synced := some (t.procs i).declared }⟩ := by
  obtain ⟨handle, k, y, rfl, hhandle, hinside, hanswer, hrun⟩ :=
    exists_enter (i := i) hp t.store hok
  have hc : RuntimeCall.lockOp (.lockEnter handle) = some (.enter (lockScope W.handle)) :=
    congrArg (fun scope => some (LockOp.enter scope)) hhandle
  have hacquired : W.system.Step t _ :=
    .acquired (c := (i, RuntimeCall.lockEnter handle)) (awaits_of_attempt hw) hc hphase hfree
      hanswer
  let u : Tasks ι (Worker ι) (World ι) :=
    ⟨y, t.provider.acquired e, update t.phase i (.inside (lockScope W.handle) e),
      update t.procs i { t.procs i with attempt := some ⟨outputs, i, k (.ok ())⟩ }⟩
  have hinsideAttempt : (u.procs i).attempt = some ⟨outputs, i, k (.ok ())⟩ := by
    simp only [u, update_self]
  obtain ⟨log, provider, hended⟩ := exists_run_of_inside hinside hinsideAttempt (update_self ..)
  rw [hrun] at hok ⊢
  simp only [u, hok, update_idem, update_self] at hended
  have hcommit : W.system.Step ⟨((run perform (k (.ok ())) [] y.1).2, log), provider,
      update t.phase i .outside, update t.procs i { t.procs i with
        attempt := some ⟨outputs, i, .ret ()⟩ }⟩ _ :=
    .internal (i := i) (.commit (by simp only [update_self]; rfl)) (by simp)
  simp only [update_idem, update_self] at hcommit
  exact ⟨log, provider, (hended.head hacquired).tail hcommit⟩

/-- While nobody is inside, every entry is free. -/
theorem free_of_run [Fintype ι] {x : World ι} {ps : ι → Worker ι}
    (hrun : ReflTransGen W.system.Step (.start x ps) t)
    (hout : ∀ i scope e, t.phase i ≠ .inside scope e) (e : EntryId) :
    (t.provider.entries e).locked = false := by
  rw [Bool.eq_false_iff, ne_eq, (TaskSystem.simulates hrun (lockScope W.handle)).1.locked]
  rintro ⟨i, scope, hi⟩
  exact hout i scope e hi

end Progress

end Workers

/-- **Many workers under one dataset lock converge.** Whenever no batch is in
    progress and each worker has synced what it declares, the dataset is the
    disjoint union of their converged documents, and nothing is left to do. -/
theorem workers_converge [Fintype ι] [DecidableEq ι] (hblake : Blake2bCollisionFree)
    (hfloat : FloatReprLaws) (huuid : Uuid5CollisionFree) (hdiff : DiffContract) (W : Workers ι)
    (s : FakeCogneeRuntime) (hs : W.handle.identityScope = s.identityScope)
    (hrows : ∀ dataId, s.row (keyOf W.handle) dataId = none)
    {t : Tasks ι (Worker ι) (World ι)}
    (hrun : ReflTransGen W.system.Step (.start (s, []) fun _ => {}) t)
    (hidle : ∀ i, (t.procs i).attempt = none)
    (hsynced : ∀ i, (t.procs i).synced = some (t.procs i).declared) :
    W.Converged t.store.1 t.procs := by
  have hsep : (W.connector none).Separated := Deployment.connector_separated huuid _ _ _
  have hinv := Workers.invariant_of_run huuid hdiff hs hrows hrun hidle
  have hdeclared i := (hinv.sound i).declared
  have hcov i : W.Covers i (t.procs i).tracking t.store.1 :=
    ((hinv.sound i).consistent.of_idle (hidle i)).1
  have hfixed i : W.Fixed (t.procs i).declared (t.procs i).tracking :=
    ((hinv.sound i).consistent.of_idle (hidle i)).2 _ (hsynced i)
  -- An owner of a row tracks it, and a key that is synced is tracked only if it is declared.
  refine ⟨fun dataId => ⟨fun hrow => ?_, ?_⟩, ?_, ?_, fun i k => (hfixed i).mem_tracking_iff, ?_⟩
  · obtain ⟨i, k, hk, hid⟩ := hinv.owned dataId hrow
    exact ⟨i, k, (hfixed i).declared_of_row (hcov i) hk hid hrow⟩
  · rintro ⟨i, k, hk, hid⟩
    exact (hfixed i).row_of_declared (hcov i) (hdeclared i k hk) hk hid
  · intro i j k hk l hl dataId hid hid'
    obtain rfl := hsep k l dataId ⟨(), hid⟩ ⟨(), hid'⟩
    refine ⟨?_, rfl⟩
    by_contra hij
    exact Set.disjoint_left.1 (W.disjoint i j hij) (hdeclared i k hk) (hdeclared j k hl)
  · intro i k spec hspec
    have hk : k ∈ (t.procs i).declared :=
      Std.ExtTreeMap.isSome_getElem?_iff_mem.1 (by rw [hspec]; rfl)
    exact (hfixed i).convergedTo hblake hfloat (hcov i) (hdeclared i k hk) hspec
  · intro i datasetId k hk
    have hround : W.round datasetId (t.procs i) = .ok [] := (hfixed i).round_eq_nil hdiff
    obtain ⟨_ | o, ho⟩ := Tracking.reconcileKey_ok hround hk
    · exact ho
    · exact absurd ((Tracking.mem_outputs hround).2 ⟨hk, ho⟩) List.not_mem_nil

end

/-- Two workers on the sample platform, one of which has a single key. -/
def Workers.sample : @Workers .sample Bool :=
  letI : Platform := .sample
  { runtimeKey := "rt"
    handle := DocumentHandler.sample.handle
    profile := DocumentHandler.sample.profile
    processingFingerprint := "pfp-A"
    keys := fun
      | true => {.sample}
      | false => {.sample}ᶜ
    disjoint := by
      rintro (_ | _) (_ | _) hij
      exacts [absurd rfl hij, disjoint_compl_left, disjoint_compl_right, absurd rfl hij] }

/-- Each of the workers declares a document of its own. -/
def Workers.sampleKey : Bool → @DocumentKey .sample
  | true => .sample
  | false => .other

/-- What a worker of the sample declares. -/
def Workers.sampleDeclared (i : Bool) : @Declared .sample :=
  letI : Platform := .sample
  (∅ : Declared).insert (sampleKey i) (.sample "alpha" "a")

theorem Workers.sampleDeclared_keys (i : Bool) :
    letI : Platform := .sample
    ∀ k ∈ sampleDeclared i, k ∈ Workers.sample.keys i := by
  let _ : Platform := .sample
  intro k hk
  have hother : sampleKey false ≠ sampleKey true := by
    rw [sampleKey, sampleKey, DocumentKey.other, DocumentKey.sample, ne_eq, DocumentKey.mk.injEq]
    decide
  rcases Std.ExtTreeMap.mem_insert.1 hk with hk | hk
  · obtain rfl := compare_eq_iff_eq.1 hk
    cases i
    exacts [hother, rfl]
  · exact absurd hk Std.ExtTreeMap.not_mem_empty

/-- The first round of a worker has a batch, which enters the lock and can be applied. -/
theorem Workers.exists_sampleRound (i : Bool) :
    letI : Platform := .sample
    ∃ outputs, Workers.sample.round none { declared := sampleDeclared i } = .ok outputs ∧
      Locked (lockScope Workers.sample.handle)
        ((Workers.sample.handler none).applyOutputs outputs) ∧
      ∀ s : FakeCogneeRuntime, s.identityScope = "fake-default" →
        (run perform ((Workers.sample.handler none).applyOutputs outputs) [] s).1 = .ok () ∧
        (run perform ((Workers.sample.handler none).applyOutputs outputs) [] s).2.identityScope =
          "fake-default" := by
  let _ : Platform := .sample
  obtain ⟨outputs, hround⟩ :
      ∃ outputs, Workers.sample.round none { declared := sampleDeclared i } = .ok outputs :=
    Tracking.exists_reconcileRound fun k _ => by
      obtain ⟨i, hi⟩ := @Deployment.connector_dataId _ "rt" Workers.sample.handle
        (fun _ => Workers.sample.profile) ⟨by decide, by decide⟩ (by decide) (by decide) k
      exact ⟨_, Tracking.reconcileKey_eq_ok_iff.2 ⟨i, hi, rfl⟩⟩
  obtain ⟨o, ho⟩ := Deployment.exists_output_of_missing Platform.sample_diff hround
    (Std.ExtTreeMap.mem_insert_self) (Tracking.prevMayBeMissing_of_notMem
      Std.ExtTreeMap.not_mem_empty)
  have hc := Deployment.complete_actions hround
  obtain ⟨b, hb⟩ := hc.exists_collect
  have hrun (s : FakeCogneeRuntime) (hs : s.identityScope = "fake-default") :
      (run perform ((Workers.sample.handler none).applyOutputs outputs) [] s).1 = .ok () ∧
        (run perform ((Workers.sample.handler none).applyOutputs outputs) [] s).2.identityScope =
          "fake-default" :=
    ⟨Deployment.run_applyOutputs_ok (h := Workers.sample.handler none) hc hs.symm,
      (Deployment.writes_of_run (h := Workers.sample.handler none) hb hc [] s).1.scope.trans hs⟩
  exact ⟨outputs, hround, locked_applyOutputs (List.ne_nil_of_mem ho) (hrun .sample rfl).1, hrun⟩

/-- On the sample platform, both workers wait for the lock with a batch of theirs, and sync. -/
theorem workers_converge_sample :
    letI : Platform := .sample
    ∃ u t, ReflTransGen Workers.sample.system.Step (.start (.sample, []) fun _ => {}) u ∧
      (∀ i, ∃ e, u.phase i = .waiting (lockScope Workers.sample.handle) e) ∧
      ReflTransGen Workers.sample.system.Step u t ∧
      (∀ i, Workers.sampleKey i ∈ (t.procs i).declared) ∧
      Workers.sample.Converged t.store.1 t.procs := by
  let _ : Platform := .sample
  have hscope : validateScope (lockScope Workers.sample.handle) = .ok () := by decide +kernel
  have hkeys := Workers.sampleDeclared_keys
  choose outputs hround hlocked happly using Workers.exists_sampleRound
  -- Both workers declare their documents, and start their rounds.
  let w (i : Bool) : Worker Bool :=
    { declared := Workers.sampleDeclared i
      tracking := (∅ : Tracking).precommit (outputs i)
      attempt := some ⟨outputs i, i, (Workers.sample.handler none).applyOutputs (outputs i)⟩ }
  let t₀ : Tasks Bool (Worker Bool) (World Bool) := ⟨(.sample, []), {}, fun _ => .outside, w⟩
  have hstarted :
      ReflTransGen Workers.sample.system.Step (.start (.sample, []) fun _ => {}) t₀ := by
    obtain ⟨ps, hrun, hps⟩ : ∃ ps, ReflTransGen Workers.sample.system.Step
        (.start (.sample, []) fun _ => {}) { t₀ with procs := ps } ∧ ∀ i, ps i = w i := by
      have hrun := ReflTransGen.refl (r := Workers.sample.system.Step)
        (a := .start (.sample, []) fun _ => {})
      have hrun := hrun.tail (.internal (i := true) (.declare rfl (hkeys true)) fun _ _ => nofun)
      have hrun := hrun.tail (.internal (i := false) (.declare rfl (hkeys false)) fun _ _ => nofun)
      have hrun := hrun.tail (.internal (i := true) (.start rfl (hround true)) fun _ _ => nofun)
      have hrun := hrun.tail (.internal (i := false) (.start rfl (hround false)) fun _ _ => nofun)
      exact ⟨_, hrun, by rintro (_ | _) <;> rfl⟩
    rwa [funext hps] at hrun
  -- Both of them wait for the lock.
  let scope := lockScope Workers.sample.handle
  obtain ⟨provider, e, hwait⟩ := Workers.exists_wait (i := true) (t := t₀) (hlocked true) rfl rfl
    hscope (happly true _ rfl).1
  obtain ⟨provider', e', hwait'⟩ := Workers.exists_wait (i := false) (t := { t₀ with
    provider, phase := update t₀.phase true (.waiting scope e) }) (hlocked false) rfl rfl hscope
      (happly false _ rfl).1
  let u : Tasks Bool (Worker Bool) (World Bool) := { t₀ with
    provider := provider'
    phase := update (update t₀.phase true (.waiting scope e)) false (.waiting scope e') }
  have hu : ReflTransGen Workers.sample.system.Step (.start (.sample, []) fun _ => {}) u :=
    (hstarted.tail hwait).tail hwait'
  have hwaits (i : Bool) : ∃ e, u.phase i = .waiting scope e := by
    cases i
    exacts [⟨_, rfl⟩, ⟨_, rfl⟩]
  -- Each of them is let in while nobody is inside, and commits.
  obtain ⟨log, provider₁, hsync⟩ := Workers.exists_sync_of_waiting (i := true) (t := u)
    (hlocked true) rfl rfl (Workers.free_of_run hu (by rintro (_ | _) <;> nofun) _)
      (happly true _ rfl).1
  obtain ⟨log', provider₂, hsync'⟩ := Workers.exists_sync_of_waiting (i := false) (hlocked false)
    rfl rfl (Workers.free_of_run (hu.trans hsync) (by rintro (_ | _) <;> nofun) _)
      (happly false _ (happly true _ rfl).2).1
  refine ⟨u, _, hu, hwaits, hsync.trans hsync', ?_,
    workers_converge Platform.sample_blake2b Platform.sample_floatRepr Platform.sample_uuid5
      Platform.sample_diff Workers.sample .sample rfl ?_ ((hu.trans hsync).trans hsync') ?_ ?_⟩
  · rintro (_ | _)
    exacts [Std.ExtTreeMap.mem_insert_self, Std.ExtTreeMap.mem_insert_self]
  · exact ConvergenceMachine.sample_initial.rows
  · rintro (_ | _) <;> rfl
  · rintro (_ | _) <;> rfl

end Cogindex
