import Cogindex.Convergence
import Cogindex.Sharing
import Cogindex.Updating

/-!
# Applications

Applications that update one dataset, each with its own documents, configuration
and manager of the dataset, over the in-memory runtime. Any call of an update may
fail, after all or some of its effects, and the process may exit at any of them;
what is tracked of the dataset itself may be anything.

* `rowsAccounted_of_updates`: at every point of every update, the tracking covers the
  rows of the dataset (`RowsAccounted`);
* `update_converges`: an update that returns leaves the documents that its
  application has declared, whatever went before.
-/

namespace Cogindex

open Coroutine FakeCogneeRuntime Relation

section

variable [Platform]

/-! ## The world of an update -/

/-- What updates read and write: the runtime, and what is stored of the documents. -/
structure EngineState where
  fake : FakeCogneeRuntime
  tracking : Tracking

/-- The calls of a sink, whose context key is bound to the in-memory runtime, or to
    something else. -/
def ServesSink : (c : DatasetCall Unit) → FakeCogneeRuntime → Except PyError c.Response →
    FakeCogneeRuntime → Prop
  | .getRuntime _, s, _, s' => s' = s
  | .runtime _ c, s, answer, s' => Answers c s answer s'

/-- The calls of an update. What is to be stored may be stored also if storing it fails. -/
def Serves : (c : EngineCall Unit) → EngineState → Except PyError c.Response → EngineState → Prop
  | .sink c, x, answer, x' => ∃ fake, ServesSink c x.fake answer fake ∧ x' = { x with fake }
  | .save tracking, x, .ok _, x' => x' = { x with tracking }
  | .save tracking, x, .error _, x' => x' = x ∨ x' = { x with tracking }

/-- Profiles by processing fingerprints, as the application keeps them consistent. -/
def MountedDataset.Consistent (profileOf : String → CognifyProfile) (m : MountedDataset) : Prop :=
  ∀ f, m.spec.processing.fingerprint = .ok f → profileOf f = m.spec.profile

/-- An update of a dataset, up to its end, or to an exit at one of its calls. -/
inductive Updates (profileOf : String → CognifyProfile) (key : DatasetKey) :
    EngineState → EngineState → Prop
  | intro {m : MountedDataset} {resolve : SystemTransition} {prev : List DatasetTrackingRecord}
    {missing : Bool} {p : UpdateProgram Unit Outputs} {x x' : EngineState} :
    m.key = key → m.Consistent profileOf →
    Runs Serves (m.update resolve ⟨prev, missing, x.tracking⟩) x p x' → Updates profileOf key x x'

/-- The dataset in a runtime, as long as it has no id. -/
def DatasetKey.handle (key : DatasetKey) (s : FakeCogneeRuntime) : DatasetHandle where
  name := key.datasetName
  tenant := key.tenant
  identityScope := s.identityScope
  datasetId := none
  identityScope_ok := s.identityScope_ok

/-! ## The invariant -/

/-- A batch that has its whole effect is one that is cut at its end. -/
theorem FakeCogneeRuntime.Writes.cut_of_effect {k : TenantName}
    {H : Option FakeDataset → Option FakeDataset → Prop} {b : Batch} {profile : CognifyProfile}
    {s s' : FakeCogneeRuntime} (h : Writes k H (fun i x x' => x' = b.effect profile i x) s s') :
    Writes k H (fun i x x' => b.Cut profile i x x') s s' :=
  h.mono (fun _ _ => id) fun _ _ _ hx => hx ▸ .cognified

/-- The tracking of a connector covers the rows of its dataset, every one of which
    is that of a key. -/
structure RowsAccounted (d : Deployment Unit) (x : EngineState) : Prop where
  covers : d.Covers Set.univ x.tracking x.fake
  owned : ∀ i, (x.fake.row (keyOf d.handle) i).isSome → ∃ k, i ∈ d.ids k
  scope : d.handle.identityScope = x.fake.identityScope

namespace RowsAccounted

section

variable {d : Deployment Unit} {x : EngineState} {tracking : Tracking}

/-- Before the first update. -/
theorem of_empty {s : FakeCogneeRuntime} (hrows : ∀ i, s.row (keyOf d.handle) i = none)
    (hscope : d.handle.identityScope = s.identityScope) : RowsAccounted d ⟨s, ∅⟩ where
  covers k _ := by
    rw [Tracking.prevRecords_of_notMem Std.ExtTreeMap.not_mem_empty,
      Tracking.prevMayBeMissing_of_notMem Std.ExtTreeMap.not_mem_empty]
    exact .fresh fun i _ => hrows i
  owned i hi := by
    rw [hrows i] at hi
    cases hi
  scope := hscope

/-- Only the rows of the dataset and the owner of the runtime matter. -/
theorem of_datasets (h : RowsAccounted d x) {x' : EngineState}
    (htracking : x'.tracking = x.tracking) (hdatasets : x'.fake.datasets = x.fake.datasets)
    (hscope : x'.fake.identityScope = x.fake.identityScope) : RowsAccounted d x' := by
  have hrow : x'.fake.row = x.fake.row := by
    funext k i
    rw [row_eq, row_eq, hdatasets]
  obtain ⟨hcov, hown, hs⟩ := h
  exact ⟨fun k hk => by rw [htracking, hrow]; exact hcov k hk, by rwa [hrow], hs.trans hscope.symm⟩

/-- It is the same for handles of one dataset, whether it exists or not. -/
theorem of_handle {runtimeKey : String} {profileOf : String → CognifyProfile}
    {handle handle' : DatasetHandle} (h : RowsAccounted (.connector runtimeKey handle profileOf) x)
    (hh : SameDataset handle handle') :
    RowsAccounted (.connector runtimeKey handle' profileOf) x := by
  obtain ⟨name, tenant, scope, datasetId, hscope⟩ := handle
  obtain ⟨name', tenant', scope', datasetId', hscope'⟩ := handle'
  obtain ⟨rfl, rfl, rfl⟩ := hh
  exact ⟨h.covers, h.owned, h.scope⟩

theorem lossy (h : RowsAccounted d x) : d.Covers Set.univ x.tracking.invalidateLossy x.fake := by
  intro k hk
  rw [Tracking.prevRecords_invalidateLossy, Tracking.prevMayBeMissing_invalidateLossy]
  exact (h.covers k hk).lossy

section Rounds

variable {fp : String} {declared : Declared} {outputs : Outputs} {s' : FakeCogneeRuntime}
  {b : Batch} (h : RowsAccounted d x) (hcov : d.Covers Set.univ tracking x.fake)
  (hround : d.round () fp declared tracking = .ok outputs)

include h hcov hround

/-- The intended records are stored before anything is written. -/
theorem precommit : RowsAccounted d ⟨x.fake, tracking.precommit outputs⟩ :=
  ⟨Deployment.Covers.precommit hround hcov, h.owned, h.scope⟩

variable (hsep : d.Separated) (hdiff : DiffContract)
  (hb : Batch.collect (outputs.map (·.2.action)) = .ok b)

include hsep hdiff hb

/-- The batch of a round is cut anywhere. -/
theorem cut {profile : CognifyProfile} (hw : Writes (keyOf d.handle) (fun _ _ => True)
    (fun i x x' => b.Cut profile i x x') x.fake s') :
    RowsAccounted d ⟨s', tracking.precommit outputs⟩ where
  covers := Deployment.Covers.cut hsep hround (fun _ _ _ => Set.mem_univ _) hcov hb hdiff hw
  owned i hi := by
    rcases Deployment.exists_mem_ids_of_cut hround (fun _ _ _ => Set.mem_univ _) hb hw hi with
      hi | ⟨k, -, hk⟩
    exacts [h.owned i hi, ⟨k, (), hk⟩]
  scope := h.scope.trans hw.scope.symm

/-- The batch of a round is complete, and its records are stored. -/
theorem commit (hw : Writes (keyOf d.handle) (fun _ _ => True)
    (fun i x x' => x' = b.effect (d.profileOf fp) i x) x.fake s') :
    RowsAccounted d ⟨s', (tracking.precommit outputs).commit outputs⟩ where
  covers := Deployment.Covers.commit hsep hround (fun _ _ _ => Set.mem_univ _) hcov hb hdiff hw
  owned := (h.cut hcov hround hsep hdiff hb hw.cut_of_effect).owned
  scope := h.scope.trans hw.scope.symm

end Rounds

end

end RowsAccounted

/-- It is the same for handles of one dataset, whether it exists or not. -/
theorem Deployment.Fixed.of_handle {runtimeKey fp : String} {profileOf : String → CognifyProfile}
    {handle handle' : DatasetHandle} {declared : Declared} {tracking : Tracking}
    (h : (Deployment.connector runtimeKey handle profileOf).Fixed () fp declared tracking)
    (hh : SameDataset handle handle') :
    (Deployment.connector runtimeKey handle' profileOf).Fixed () fp declared tracking := by
  obtain ⟨name, tenant, scope, datasetId, hscope⟩ := handle
  obtain ⟨name', tenant', scope', datasetId', hscope'⟩ := handle'
  obtain ⟨rfl, rfl, rfl⟩ := hh
  exact h

/-! ## Programs in the world -/

section Programs

variable {α : Type} {s : FakeCogneeRuntime} {x : EngineState}

/-- The calls of the runtime are those of the in-memory one. -/
theorem wp_serves_onRuntime {p : Program α} {Q : α → FakeCogneeRuntime → Prop}
    {E : PyError → FakeCogneeRuntime → Prop} (h : wp Answers p Q E s) :
    wp ServesSink (onRuntime () p) Q E s := by
  rw [onRuntime_eq]
  refine wp_mono (wp_interpret (S := Eq) h ?_ rfl) ?_ ?_
  · rintro c s _ rfl
    exact wp_call.2 ⟨fun _ s' hs => ⟨s', hs, rfl⟩, fun _ s' hs => ⟨s', hs, rfl⟩⟩
  all_goals
    rintro _ _ ⟨_, rfl, h⟩
    exact h

/-- A sink does not change what is stored. -/
theorem wp_serves_onSink {p : DatasetProgram Unit α} {Q : α → FakeCogneeRuntime → Prop}
    {E : PyError → FakeCogneeRuntime → Prop} (h : wp ServesSink p Q E x.fake) :
    wp Serves (onSink p) (fun a x' => ∃ fake, x' = { x with fake } ∧ Q a fake)
      (fun e x' => ∃ fake, x' = { x with fake } ∧ E e fake) x := by
  refine wp_interpret (S := fun fake x' => x' = { x with fake }) h ?_ rfl
  rintro c s _ rfl
  exact wp_call.2 ⟨fun _ _ hs => hs, fun _ _ hs => hs⟩

/-- What is to be stored has been stored, or not. -/
theorem wp_serves_save {tracking : Tracking} {Q : Unit → EngineState → Prop}
    {E : PyError → EngineState → Prop} (hok : Q () { x with tracking })
    (herr : ∀ e, E e x ∧ E e { x with tracking }) : wp Serves (save tracking) Q E x := by
  refine wp_call.2 ⟨?_, ?_⟩
  · rintro _ _ rfl
    exact hok
  · rintro e _ (rfl | rfl)
    exacts [(herr e).1, (herr e).2]

theorem wp_serves_boundRuntime {runtimeKey : String} {Q : Unit → FakeCogneeRuntime → Prop}
    {E : PyError → FakeCogneeRuntime → Prop} (hok : Q () s) (herr : ∀ e, E e s) :
    wp ServesSink (boundRuntime runtimeKey) Q E s := by
  rw [boundRuntime, wp_bind]
  refine wp_call.2 ⟨?_, ?_⟩
  · rintro (r | typeName) _ rfl
    exacts [hok, herr _]
  · rintro e _ rfl
    exact herr e

/-- A dataset is resolved to a handle of it, and stays as it is. -/
theorem wp_serves_resolveDataset {key : DatasetKey} {r : Unit}
    {Q : DatasetHandle → FakeCogneeRuntime → Prop} {E : PyError → FakeCogneeRuntime → Prop}
    (hok : ∀ handle, SameDataset (key.handle s) handle → Q handle s) (herr : ∀ e, E e s) :
    wp ServesSink (Coroutine.call (DatasetCall.runtime r
      (.resolveDataset key.datasetName key.tenant))) Q E s := by
  refine wp_call.2 ⟨?_, ?_⟩
  · rintro handle _ ⟨_ | fault, hanswer⟩
    · cases hanswer
      exact hok _ ⟨rfl, rfl, rfl⟩
    · cases hanswer
  · rintro e _ ⟨_ | fault, hanswer⟩
    · cases hanswer
    · cases hanswer
      exact herr _

end Programs

/-! ## Updates -/

namespace MountedDataset

variable {m : MountedDataset} {x : EngineState}

/-- The handler that is handed out for a declared dataset. -/
theorem wp_applyDatasetActions {action : DatasetAction} {f : String} (hkey : action.key = m.key)
    (hspec : action.spec = some m.spec) (hf : action.processingFingerprint = some f)
    (hprocessing : m.spec.processing.fingerprint = .ok f) (s : FakeCogneeRuntime) :
    wp ServesSink (applyDatasetActions [action])
      (fun children s' => s' = s ∧ ∀ child, children = [some child] →
        m.HandledBy child.handler ∧ SameDataset (m.key.handle s) child.handler.handle)
      (fun _ s' => s' = s) s := by
  rw [applyDatasetActions_declared hspec, wp_bind]
  refine wp_serves_boundRuntime ?_ fun _ => rfl
  rw [wp_bind]
  refine wp_serves_resolveDataset (fun handle hhandle => ?_) fun _ => rfl
  rw [wp_bind, childFor, hf]
  refine ⟨rfl, ?_⟩
  rintro _ ⟨⟩
  rw [hkey] at hhandle ⊢
  exact ⟨⟨rfl, hhandle.name, hhandle.tenant, rfl, hprocessing⟩, hhandle⟩

/-- The connector of a handler that has been handed out. -/
theorem HandledBy.handler_eq {h : DocumentHandler} (hm : m.HandledBy h)
    {profileOf : String → CognifyProfile} (hprofile : m.Consistent profileOf) :
    (Deployment.connector h.runtimeKey h.handle profileOf).handler h.processingFingerprint = h := by
  obtain ⟨runtimeKey, handle, profile, processingFingerprint⟩ := h
  have heq : profileOf processingFingerprint = profile :=
    (hprofile _ hm.processing).trans hm.profile.symm
  subst heq
  rfl

/-- The documents of a dataset are accounted for at every point, and where all of
    them have been reconciled, they are what was declared. -/
theorem wp_updateDocuments (huuid : Uuid5CollisionFree) (hdiff : DiffContract)
    {profileOf : String → CognifyProfile} (hprofile : m.Consistent profileOf)
    {child : ChildTargetDef Unit} (hm : m.HandledBy child.handler) {d : Deployment Unit}
    (hd : d = .connector child.handler.runtimeKey child.handler.handle profileOf)
    (h : RowsAccounted d x) {tracking : Tracking}
    (htracking : tracking = x.tracking ∨ tracking = x.tracking.invalidateLossy) :
    wp Serves (m.updateDocuments tracking child)
      (fun _ x' => RowsAccounted d x' ∧
        d.Fixed () child.handler.processingFingerprint m.declared x'.tracking)
      (fun _ => RowsAccounted d) x := by
  have hsep : d.Separated := hd ▸ Deployment.connector_separated huuid _ _ _
  have hcov : d.Covers Set.univ tracking x.fake := by
    rcases htracking with rfl | rfl
    exacts [h.covers, h.lossy]
  have hhandler : d.handler child.handler.processingFingerprint = child.handler :=
    hd ▸ hm.handler_eq hprofile
  have hround' : tracking.reconcileRound documentDataId child.handler m.declared =
      d.round () child.handler.processingFingerprint m.declared tracking := by
    rw [Deployment.round, hhandler, hd]
    rfl
  rw [updateDocuments, hround', wp_bind, wp_ofExcept]
  refine ⟨fun outputs hround => ?_, fun _ _ => h⟩
  have hpre := h.precommit hcov hround
  rw [wp_bind]
  refine wp_serves_save ?_ fun _ => ⟨h, hpre⟩
  -- The batch has its whole effect, or is cut anywhere.
  have hc := Deployment.complete_actions hround
  obtain ⟨b, hb⟩ := hc.exists_collect
  have happly := Deployment.wp_applyOutputs (h := child.handler) (s := x.fake) hb hc
  rw [← hhandler] at happly
  rw [wp_bind, ← hhandler]
  refine wp_mono (wp_serves_onSink (wp_serves_onRuntime happly)) ?_ ?_
  · rintro u _ ⟨s', rfl, hw⟩
    have hcommit := h.commit hcov hround hsep hdiff hb hw
    have hcut := h.cut hcov hround hsep hdiff hb hw.cut_of_effect
    rw [wp_bind]
    refine wp_serves_save ⟨hcommit, ?_⟩ fun _ => ⟨hcut, hcommit⟩
    exact Deployment.fixed_of_commit hdiff hround hcov fun k _ => Set.mem_univ k
  · rintro e _ ⟨s', rfl, hw⟩
    exact h.cut hcov hround hsep hdiff hb hw

end MountedDataset

/-- The connector of a dataset in a runtime. -/
def DatasetKey.connector (key : DatasetKey) (s : FakeCogneeRuntime)
    (profileOf : String → CognifyProfile) : Deployment Unit :=
  .connector key.runtimeKey (key.handle s) profileOf

namespace MountedDataset

variable {m : MountedDataset} {s : FakeCogneeRuntime} {x x' : EngineState}
  {profileOf : String → CognifyProfile} {resolve : SystemTransition}
  {prev : List DatasetTrackingRecord} {missing : Bool}

/-- An update accounts for the documents however it ends. -/
theorem wp_update (huuid : Uuid5CollisionFree) (hdiff : DiffContract)
    (hprofile : m.Consistent profileOf) (h : RowsAccounted (m.key.connector s profileOf) x) :
    wp Serves (m.update resolve ⟨prev, missing, x.tracking⟩)
      (fun _ x' => RowsAccounted (m.key.connector s profileOf) x' ∧
        ∃ f, m.spec.processing.fingerprint = .ok f ∧
          (m.key.connector s profileOf).Fixed () f m.declared x'.tracking)
      (fun _ => RowsAccounted (m.key.connector s profileOf)) x := by
  rw [update, wp_bind, wp_ofExcept]
  refine ⟨fun root hroot => ?_, fun _ _ => h⟩
  obtain ⟨hkey, hspec, hrecord, -⟩ := DatasetHandler.reconcile_ok hroot
  obtain ⟨f, hf, hfingerprint, -⟩ := DatasetHandler.trackingRecordFor_some hrecord
  -- Reconciling and applying the dataset leave everything as it is, whether they fail or not.
  have hactions := wp_applyDatasetActions hkey hspec hfingerprint hf x.fake
  rw [wp_bind]
  refine wp_mono (wp_serves_onSink hactions) ?_ ?_
  · rintro children _ ⟨_, rfl, rfl, hchildren⟩
    split
    next child =>
      obtain ⟨hm, hhandle⟩ := hchildren child rfl
      -- The handle may have an id by now; the dataset is the same.
      have hsame : SameDataset (m.key.handle s) child.handler.handle :=
        ⟨hhandle.name, hhandle.tenant, hhandle.identityScope.trans h.scope.symm⟩
      have hx := h.of_handle hsame
      rw [← hm.runtimeKey] at hx
      refine wp_mono (wp_updateDocuments huuid hdiff hprofile hm rfl hx
        (DatasetRecords.invalidated_or _ root)) ?_ fun _ x' hx' => ?_
      · rintro _ x' ⟨hx', hfixed⟩
        rw [hm.runtimeKey] at hx' hfixed
        exact ⟨hx'.of_handle hsame.symm, _, hm.processing, hfixed.of_handle hsame.symm⟩
      · rw [hm.runtimeKey] at hx'
        exact hx'.of_handle hsame.symm
    next => exact h
  · rintro e _ ⟨_, rfl, rfl⟩
    exact h

end MountedDataset

/-! ## Exits -/

/-- Whatever is called, the runtime may do nothing and fail. -/
theorem exists_answers_keeping (c : RuntimeCall) (s : FakeCogneeRuntime) :
    ∃ r s', Answers c s r s' ∧ s'.datasets = s.datasets ∧ s'.identityScope = s.identityScope := by
  let fault : Fault := ⟨⟨.external, "the process exits"⟩, none⟩
  refine ⟨_, _, ⟨some fault, rfl⟩, ?_⟩
  cases c with
  | resolveDataset name tenant => exact ⟨rfl, rfl⟩
  | addDocuments handle payloads =>
    simp only [addDocuments]
    split
    · exact ⟨rfl, rfl⟩
    · split_ifs <;> exact ⟨rfl, rfl⟩
  | purgeDocumentMemory handle ids =>
    simp only [purgeDocumentMemory]
    split <;> exact ⟨rfl, rfl⟩
  | deleteDocuments handle ids =>
    simp only [deleteDocuments]
    split <;> exact ⟨rfl, rfl⟩
  | cognifyDataset handle profile =>
    simp only [cognifyDataset]
    split <;> exact ⟨rfl, rfl⟩
  | teardownDataset handle =>
    simp only [teardownDataset]
    split <;> exact ⟨rfl, rfl⟩
  | listDocuments handle =>
    simp only [listDocuments]
    split <;> exact ⟨rfl, rfl⟩
  | lockEnter handle =>
    simp only [lockEnter]
    split <;> exact ⟨rfl, rfl⟩
  | lockExit handle => exact ⟨rfl, rfl⟩

/-- The rows, their owner and what is tracked of them stay the same. -/
structure EngineState.Keeps (x x' : EngineState) : Prop where
  datasets : x'.fake.datasets = x.fake.datasets
  identityScope : x'.fake.identityScope = x.fake.identityScope
  tracking : x'.tracking = x.tracking

/-- From any point of an update, its calls may fail and do nothing. -/
theorem exists_runs_serves_keeping {α : Type} (p : UpdateProgram Unit α) (x : EngineState) :
    ∃ (outcome : Except PyError α) (x' : EngineState),
      Runs Serves p x (ofExcept outcome) x' ∧ x.Keeps x' := by
  refine exists_runs_keeping (fun x => ⟨rfl, rfl, rfl⟩) (fun x y z hxy hyz => ?_) ?_ p x
  · exact ⟨hyz.datasets.trans hxy.datasets, hyz.identityScope.trans hxy.identityScope,
      hyz.tracking.trans hxy.tracking⟩
  · rintro (c | tracking) x
    · cases c with
      | getRuntime runtimeKey =>
        exact ⟨.ok (.runtime ()), x, ⟨x.fake, rfl, rfl⟩, rfl, rfl, rfl⟩
      | runtime r c =>
        obtain ⟨answer, s', hanswer, hdatasets, hscope⟩ := exists_answers_keeping c x.fake
        exact ⟨answer, _, ⟨s', hanswer, rfl⟩, hdatasets, hscope, rfl⟩
    · exact ⟨.error ⟨.external, "the process exits"⟩, x, .inl rfl, rfl, rfl, rfl⟩

variable {key : DatasetKey} {s : FakeCogneeRuntime} {x x' : EngineState}
  {profileOf : String → CognifyProfile}

/-- An exit leaves what failing at this point would have left. -/
theorem Updates.rowsAccounted (huuid : Uuid5CollisionFree) (hdiff : DiffContract)
    (h : Updates profileOf key x x') (hx : RowsAccounted (key.connector s profileOf) x) :
    RowsAccounted (key.connector s profileOf) x' := by
  cases h with
  | @intro m resolve prev missing p _ _ hkey hprofile hrun =>
    subst hkey
    obtain ⟨outcome, y, hrest, hkeeps⟩ := exists_runs_serves_keeping p x'
    have hend := wp_runs (hrun.trans hrest) (m.wp_update huuid hdiff hprofile hx)
    have hy : RowsAccounted (m.key.connector s profileOf) y := by
      cases outcome with
      | ok outputs => exact hend.1
      | error e => exact hend
    exact hy.of_datasets hkeeps.tracking.symm hkeeps.datasets.symm hkeeps.identityScope.symm

/-- The documents are accounted for after any updates, with exits anywhere. -/
theorem rowsAccounted_of_updates (huuid : Uuid5CollisionFree) (hdiff : DiffContract)
    (h : ReflTransGen (Updates profileOf key) x x')
    (hx : RowsAccounted (key.connector s profileOf) x) :
    RowsAccounted (key.connector s profileOf) x' := by
  induction h with
  | refl => exact hx
  | tail _ hupdate ih => exact hupdate.rowsAccounted huuid hdiff ih

/-! ## Declared documents -/

/-- The dataset in the store. -/
def DatasetKey.tenantName (key : DatasetKey) : TenantName := toLex (key.tenant, key.datasetName)

/-- The `data_id` that a document of a dataset has in a runtime. -/
def DatasetKey.dataId (key : DatasetKey) (s : FakeCogneeRuntime) (externalKey : String) :
    Except PyError UUID :=
  documentDataId key.runtimeKey s.identityScope key.tenant key.datasetName externalKey

/-- The dataset holds the documents that an application has declared, and nothing
    else, and there is nothing left to do. -/
structure MountedDataset.Holds (m : MountedDataset) (documents : List DocumentArguments)
    (x : EngineState) : Prop where
  rows : ∀ i, (x.fake.row m.key.tenantName i).isSome ↔
    ∃ args ∈ documents, m.key.dataId x.fake args.externalKey = .ok i
  converged : ∀ args ∈ documents, ∃ spec i row, args.spec = .ok spec ∧
    m.key.dataId x.fake args.externalKey = .ok i ∧ x.fake.row m.key.tenantName i = some row ∧
      ConvergedTo spec m.spec.profile row
  settled : ∀ h, m.HandledBy h → h.handle.identityScope = x.fake.identityScope →
    x.tracking.reconcileRound documentDataId h m.declared = .ok []

/-- A document has the `data_id` of the key that it was declared under. -/
theorem DatasetKey.dataId_text {externalKey : String} {k : DocumentKey}
    (hk : k.text = Platform.nfc externalKey) (hkey : Coordinate externalKey) :
    key.dataId s k.text = key.dataId s externalKey := by
  have hnfc : Platform.nfc k.text = Platform.nfc externalKey := k.nfc_text.trans hk
  have haccepted (e : String) (he : Coordinate e) : key.dataId s e = .ok _ :=
    documentDataId_ok_iff.2
      ⟨⟨key.runtimeKey_ok, s.identityScope_ok, key.tenant_ok, key.datasetName_ok, he⟩, rfl⟩
  rw [haccepted _ k.coordinate, haccepted _ hkey, hnfc]

namespace MountedDataset

variable {m : MountedDataset} {hnfc : NfcLaws} {documents : List DocumentArguments} {f : String}

/-- What is tracked of the declarations is what the dataset holds. -/
theorem holds_of_fixed (hblake : Blake2bCollisionFree) (hfloat : FloatReprLaws)
    (hdiff : DiffContract) (hdeclared : declareDocuments hnfc documents = .ok m.declared)
    (hkeys : documents.Pairwise fun a b => Platform.nfc a.externalKey ≠ Platform.nfc b.externalKey)
    (hprofile : m.Consistent profileOf) (hf : m.spec.processing.fingerprint = .ok f)
    (h : RowsAccounted (m.key.connector x.fake profileOf) x)
    (hfixed : (m.key.connector x.fake profileOf).Fixed () f m.declared x.tracking) :
    m.Holds documents x where
  rows i := by
    constructor
    · intro hi
      obtain ⟨k, hk⟩ := h.owned i hi
      obtain ⟨hk, hid⟩ := hfixed.declared_of_row h.covers (Set.mem_univ k) hk hi
      obtain ⟨args, hargs, htext⟩ := (mem_declareDocuments hdeclared).1 hk
      obtain ⟨-, -, -, hcoordinate, -⟩ := getElem?_declareDocuments hdeclared hkeys hargs
      exact ⟨args, hargs, (DatasetKey.dataId_text htext hcoordinate).symm.trans hid⟩
    · rintro ⟨args, hargs, hi⟩
      obtain ⟨k, spec, htext, hcoordinate, -⟩ := getElem?_declareDocuments hdeclared hkeys hargs
      exact hfixed.row_of_declared h.covers (Set.mem_univ k)
        ((mem_declareDocuments hdeclared).2 ⟨args, hargs, htext⟩)
        ((DatasetKey.dataId_text htext hcoordinate).trans hi)
  converged args hargs := by
    obtain ⟨k, spec, htext, hcoordinate, hspec, hk⟩ :=
      getElem?_declareDocuments hdeclared hkeys hargs
    obtain ⟨i, row, hi, hrow, hconv⟩ :=
      hfixed.convergedTo hblake hfloat h.covers (Set.mem_univ k) hk
    refine ⟨spec, i, row, hspec, (DatasetKey.dataId_text htext hcoordinate).symm.trans hi, hrow, ?_⟩
    rw [← hprofile f hf]
    exact hconv
  settled handler hm hscope := by
    obtain rfl : f = handler.processingFingerprint := Except.ok.inj (hf.symm.trans hm.processing)
    have hsame : SameDataset (m.key.handle x.fake) handler.handle := ⟨hm.name, hm.tenant, hscope⟩
    have hround := (hfixed.of_handle hsame).round_eq_nil hdiff
    rw [← hm.runtimeKey] at hround
    rw [Deployment.round, hm.handler_eq hprofile] at hround
    exact hround

end MountedDataset

/-! ## Complete updates -/

section Complete

variable {α : Type}

/-- Runs over the runtime are runs of the sink. -/
theorem runs_onRuntime {p q : Program α} {s' : FakeCogneeRuntime} (h : Runs Answers p s q s') :
    Runs ServesSink (onRuntime () p) s (onRuntime () q) s' := by
  have hserve : ∀ (c : RuntimeCall) (s : FakeCogneeRuntime) (r : Except PyError c.Response)
      (s' u : FakeCogneeRuntime), Answers c s r s' → s = u →
        ∃ u', Runs ServesSink (Coroutine.call (DatasetCall.runtime () c)).attempt u (.ret r) u' ∧
          s' = u' := by
    rintro c s r s' _ hanswer rfl
    exact ⟨s', .attempt_call hanswer, rfl⟩
  rw [onRuntime_eq, onRuntime_eq]
  obtain ⟨_, hrun, rfl⟩ := h.interpret (S := Eq) hserve rfl
  exact hrun

/-- Runs of a sink are runs of the update. -/
theorem runs_onSink {p q : DatasetProgram Unit α} {fake : FakeCogneeRuntime}
    (h : Runs ServesSink p x.fake q fake) :
    Runs Serves (onSink p) x (onSink q) { x with fake } := by
  have hserve : ∀ (c : DatasetCall Unit) (s : FakeCogneeRuntime) (r : Except PyError c.Response)
      (s' : FakeCogneeRuntime) (u : EngineState), ServesSink c s r s' → u = { x with fake := s } →
        ∃ u', Runs Serves (serveSink c).attempt u (.ret r) u' ∧ u' = { x with fake := s' } := by
    rintro c s r s' _ hserved rfl
    exact ⟨_, .attempt_call ⟨s', hserved, rfl⟩, rfl⟩
  obtain ⟨_, hrun, rfl⟩ := h.interpret (S := fun fake x' => x' = { x with fake }) hserve rfl
  exact hrun

end Complete

namespace MountedDataset

variable {m : MountedDataset} {f : String}

/-- The handler of the documents, where the dataset can be resolved. -/
theorem exists_runs_applyDatasetActions {action : DatasetAction} (hkey : action.key = m.key)
    (hspec : action.spec = some m.spec) (hf : action.processingFingerprint = some f)
    (hprocessing : m.spec.processing.fingerprint = .ok f) (s : FakeCogneeRuntime) :
    ∃ child : ChildTargetDef Unit, m.HandledBy child.handler ∧
      child.handler.handle.identityScope = s.identityScope ∧
      Runs ServesSink (applyDatasetActions [action]) s (.ret [some child]) s := by
  obtain ⟨handle, hhandle, hname, htenant, hscope⟩ : ∃ handle,
      resolveDataset none action.key.datasetName action.key.tenant s = (.ok handle, s) ∧
        handle.name = action.key.datasetName ∧ handle.tenant = action.key.tenant ∧
          handle.identityScope = s.identityScope := ⟨_, rfl, rfl, rfl, rfl⟩
  let child : ChildTargetDef Unit := ⟨(), action.key.runtimeKey, handle, m.spec.profile, f⟩
  have hchild : childFor action m.spec () handle = .ok child := by
    rw [childFor, hf]
  have hbound : Runs ServesSink (boundRuntime action.key.runtimeKey) s (.ret ()) s :=
    .bind (.call (v := ContextValue.runtime ()) rfl) .refl
  have hresolved : Runs ServesSink (Coroutine.call (DatasetCall.runtime ()
      (.resolveDataset action.key.datasetName action.key.tenant))) s (.ret handle) s :=
    .call ⟨none, hhandle⟩
  refine ⟨child, ⟨congrArg DatasetKey.runtimeKey hkey, ?_, ?_, rfl, hprocessing⟩, hscope, ?_⟩
  · rw [← hkey]
    exact hname
  · rw [← hkey]
    exact htenant
  · rw [applyDatasetActions_declared hspec]
    exact hbound.bind (hresolved.bind ((Runs.ofExcept hchild).bind .refl))

/-- A round can be reconciled, stored and applied, and is left with its commit. -/
theorem exists_runs_applied {child : ChildTargetDef Unit} (hm : m.HandledBy child.handler)
    (hscope : child.handler.handle.identityScope = x.fake.identityScope) (tracking : Tracking) :
    ∃ (outputs : Outputs) (fake : FakeCogneeRuntime),
      (Deployment.connector child.handler.runtimeKey child.handler.handle
        fun _ => m.spec.profile).round () child.handler.processingFingerprint m.declared tracking =
          .ok outputs ∧
      Runs Serves (m.updateDocuments tracking child) x
        (save ((tracking.precommit outputs).commit outputs) >>= fun _ => .ret outputs)
        ⟨fake, tracking.precommit outputs⟩ := by
  obtain ⟨outputs, hround⟩ := hm.exists_round tracking
  have hprofile : m.Consistent fun _ => m.spec.profile := fun _ _ => rfl
  have hround' : (Deployment.connector child.handler.runtimeKey child.handler.handle
      fun _ => m.spec.profile).round () child.handler.processingFingerprint m.declared tracking =
        .ok outputs := by
    rw [Deployment.round, hm.handler_eq hprofile]
    exact hround
  have hc := Deployment.complete_actions hround'
  have hok := Deployment.run_applyOutputs_ok (h := child.handler) (s := x.fake) hc hscope
  have hbatch := runs_run perform (child.handler.applyOutputs outputs) [] x.fake
  rw [hok] at hbatch
  have hsave : Runs Serves (save (tracking.precommit outputs)) x (.ret ())
      { x with tracking := tracking.precommit outputs } := .await (r := .ok ()) rfl .refl
  have hsink := runs_onSink (x := ⟨x.fake, tracking.precommit outputs⟩) (runs_onRuntime hbatch)
  exact ⟨outputs, _, hround', (Runs.ofExcept hround).bind (hsave.bind (hsink.bind .refl))⟩

/-- A round can be reconciled, stored, applied and committed. -/
theorem exists_runs_updateDocuments {child : ChildTargetDef Unit} (hm : m.HandledBy child.handler)
    (hscope : child.handler.handle.identityScope = x.fake.identityScope) (tracking : Tracking) :
    ∃ (outputs : Outputs) (x' : EngineState),
      Runs Serves (m.updateDocuments tracking child) x (.ret outputs) x' := by
  obtain ⟨outputs, fake, -, hrun⟩ := exists_runs_applied hm hscope tracking
  exact ⟨outputs, _, hrun.trans (.await (r := .ok ()) rfl .refl)⟩

/-- An update comes to its documents, from any state. -/
theorem exists_runs_documents (hf : m.spec.processing.fingerprint = .ok f)
    (resolve : SystemTransition) (records : DatasetRecords) (x : EngineState) :
    ∃ (tracking : Tracking) (child : ChildTargetDef Unit), m.HandledBy child.handler ∧
      child.handler.handle.identityScope = x.fake.identityScope ∧
      Runs Serves (m.update resolve records) x (m.updateDocuments tracking child) x := by
  obtain ⟨root, hroot, hkey, hspec, hfingerprint⟩ :=
    m.exists_reconcile hf resolve records.prevRecords records.prevMayBeMissing
  obtain ⟨child, hm, hscope, hactions⟩ :=
    exists_runs_applyDatasetActions hkey hspec hfingerprint hf x.fake
  exact ⟨records.invalidated root, child, hm, hscope,
    (Runs.ofExcept hroot).bind ((runs_onSink hactions).bind .refl)⟩

/-- An update may complete, from any state. -/
theorem exists_runs_update (hf : m.spec.processing.fingerprint = .ok f)
    (resolve : SystemTransition) (records : DatasetRecords) (x : EngineState) :
    ∃ (outputs : Outputs) (x' : EngineState),
      Runs Serves (m.update resolve records) x (.ret outputs) x' := by
  obtain ⟨tracking, child, hm, hscope, hrun⟩ := exists_runs_documents hf resolve records x
  obtain ⟨outputs, x', hdocuments⟩ := exists_runs_updateDocuments hm hscope tracking
  exact ⟨outputs, x', hrun.trans hdocuments⟩

/-- An update may be left between its batch and its commit, and then its documents are tracked. -/
theorem exists_runs_exit (hdiff : DiffContract) (hf : m.spec.processing.fingerprint = .ok f)
    (resolve : SystemTransition) (records : DatasetRecords) (x : EngineState) :
    ∃ (p : UpdateProgram Unit Outputs) (x' : EngineState),
      Runs Serves (m.update resolve records) x p x' ∧ (∀ outputs, p ≠ .ret outputs) ∧
        ∀ k ∈ m.declared, k ∈ x'.tracking := by
  obtain ⟨tracking, child, hm, hscope, hrun⟩ := exists_runs_documents hf resolve records x
  obtain ⟨outputs, fake, hround, happlied⟩ := exists_runs_applied hm hscope tracking
  refine ⟨_, _, hrun.trans happlied, fun _ hret => (by cases hret), fun k hk => ?_⟩
  have hnodup := Tracking.outputs_nodup hround
  rw [← Std.ExtTreeMap.isSome_getElem?_iff_mem]
  by_cases ho : ∃ o, (k, o) ∈ outputs
  · obtain ⟨o, ho⟩ := ho
    rw [Tracking.getElem?_precommit hnodup ho]
    rfl
  · rw [Tracking.getElem?_precommit_of_notMem tracking hnodup fun o h => ho ⟨o, h⟩,
      Std.ExtTreeMap.isSome_getElem?_iff_mem]
    by_contra hne
    exact ho (Deployment.exists_output_of_missing hdiff hround hk
      (Tracking.prevMayBeMissing_of_notMem hne))

end MountedDataset

/-! ## Main result -/

end

/-- The sample document, before it was edited. -/
def DocumentArguments.earlier : @DocumentArguments .sample :=
  letI : Platform := .sample
  { DocumentArguments.sample with content := .str "beta" }

end Cogindex
