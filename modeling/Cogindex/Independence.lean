import Cogindex.Completion

/-!
# Datasets are independent

Document batches, teardowns and verifications of any number of datasets run
concurrently on one runtime. Each dataset is the one that its own jobs have
left one after the other, in the order in which they accessed its rows, whatever
the jobs on other datasets did meanwhile: `datasets_independent`.
-/

namespace Cogindex

open Coroutine FakeCogneeRuntime Function Interleaving Relation

section

variable [Platform] {ι : Type} {dataset : ι → DatasetHandle} {d : DatasetHandle}
  {jobs : ι → Job} {s : FakeCogneeRuntime}
  {t : Tasks ι (ι × Program (Option VerificationReport)) (World ι)}

/-- What concurrent jobs have left in a dataset, and what its own jobs leave one
    after the other. -/
structure LeftBy (dataset : ι → DatasetHandle) (d : DatasetHandle) (jobs : ι → Job)
    (s : FakeCogneeRuntime) (t : Tasks ι (ι × Program (Option VerificationReport)) (World ι))
    (order : List (Cohort dataset (keyOf d) × Except PyError (Option VerificationReport)))
    (w : World (Cohort dataset (keyOf d))) : Prop where
  /-- The jobs on the dataset that got its lock and left it, in this order. -/
  serial : SerialRun (fun i => (jobs i.1).program d.name d.tenant) (s, []) order w
  nodup : (order.map Prod.fst).Nodup
  /-- With the same outcomes. -/
  done : ∀ x ∈ order, t.procs x.1.1 = (x.1.1, ofExcept x.2)
  /-- The accesses to rows of the dataset, one job after the other: first those
      of the jobs that left the lock, in their order. -/
  segments : ∃ segments : List (Cohort dataset (keyOf d) × List RowAccess),
    (segments.map Prod.fst).Nodup ∧ order.map Prod.fst <+: segments.map Prod.fst ∧
    (t.store.2.filter fun x => keyOf (dataset x.1) = keyOf d) =
      segments.flatMap fun x => x.2.map (x.1.1, ·)
  /-- A job that accessed rows of the dataset is one of these, or still inside. -/
  accessed : ∀ x ∈ t.store.2, ∀ hx : keyOf (dataset x.1) = keyOf d,
    ⟨x.1, hx⟩ ∈ order.map Prod.fst ∨ ∃ e, t.phase x.1 = .inside (lockScope d) e
  /-- Where none of them is inside, the dataset is theirs. -/
  left : (∀ i, keyOf (dataset i) = keyOf d → ∀ e, t.phase i ≠ .inside (lockScope d) e) →
    t.store.1.datasets[keyOf d]? = w.1.datasets[keyOf d]?
  /-- So it is where all of them have ended. -/
  finished : (∀ i, keyOf (dataset i) = keyOf d → Ended (t.procs i).2) →
    t.store.1.datasets[keyOf d]? = w.1.datasets[keyOf d]?

/-- What a dataset is left by, seen from the run of its own jobs alone. -/
theorem LeftBy.of_underLock
    {t' : Tasks (Cohort dataset (keyOf d))
      (Cohort dataset (keyOf d) × Program (Option VerificationReport))
      (World (Cohort dataset (keyOf d)))}
    {order : List (Cohort dataset (keyOf d) × Except PyError (Option VerificationReport))}
    {w : World (Cohort dataset (keyOf d))} (hprojects : Projects dataset d t t')
    (h : UnderLock d (fun i => jobs i.1) s t' order w) : LeftBy dataset d jobs s t order w where
  serial := h.serial
  nodup := h.nodup
  done x hx := by
    obtain ⟨p, hp, -⟩ := hprojects.confined x.1.1
    have heq := (hprojects.procs x.1).symm.trans (h.done x hx)
    rw [hp] at heq ⊢
    exact Prod.ext rfl (Prod.mk.inj heq).2
  segments := by
    obtain ⟨segments, hnodup, hprefix, hlog⟩ := h.segments
    refine ⟨segments, hnodup, hprefix, ?_⟩
    rw [← hprojects.store.accesses, hlog, List.map_flatMap]
    simp only [List.map_map, Function.comp_def]
  accessed x hx hkey := by
    have hfilter : x ∈ t.store.2.filter fun x => keyOf (dataset x.1) = keyOf d :=
      List.mem_filter.2 ⟨hx, decide_eq_true hkey⟩
    rw [← hprojects.store.accesses] at hfilter
    obtain ⟨y, hy, rfl⟩ := List.mem_map.1 hfilter
    obtain ⟨segments, horder, hw⟩ := h.serial.exists_segments
    -- What the serial run has recorded is of the jobs of its order.
    have hrecorded (hy : y ∈ w.2) : y.1 ∈ order.map Prod.fst := by
      rw [hw] at hy
      obtain ⟨z, hz, hyz⟩ := List.mem_flatMap.1 hy
      obtain ⟨a, -, rfl⟩ := List.mem_map.1 hyz
      exact horder ▸ List.mem_map_of_mem hz
    rcases h.store with ⟨-, heq⟩ | ⟨i, e, hi, -, p, hrun⟩
    · exact .inl (hrecorded (heq ▸ hy))
    · obtain ⟨accesses, haccesses⟩ := exists_accesses hrun
      rw [haccesses] at hy
      rcases List.mem_append.1 hy with hy | hy
      · exact .inl (hrecorded hy)
      · obtain ⟨a, -, rfl⟩ := List.mem_map.1 hy
        exact .inr (hi ▸ hprojects.phase i).exists_inside_left
  left hout := by
    rcases h.store with ⟨-, heq⟩ | ⟨i, e, hi, -⟩
    · rw [← hprojects.store.agree.dataset, heq]
    · obtain ⟨e', he'⟩ := (hi ▸ hprojects.phase i).exists_inside_left
      exact absurd he' (hout i.1 i.2 e')
  finished hall := by
    have hended (i : Cohort dataset (keyOf d)) : Ended (t'.procs i).2 := by
      rw [hprojects.procs i]
      exact hall i.1 i.2
    rw [← hprojects.store.agree.dataset, (h.finished hended).2]

/-- **Datasets are independent.** Whatever jobs on other datasets do meanwhile,
    the jobs on a dataset have a run by themselves in which they come to the
    same points with the same answers, and leave the same dataset: the one that
    they leave one after the other, in the order in which they access its rows. -/
theorem datasets_independent [Fintype ι] [DecidableEq ι] (hjobs : ∀ i, (jobs i).On (dataset i))
    (hs : ∀ i, (dataset i).identityScope = s.identityScope) (hd : d.identityScope = s.identityScope)
    (hrun : ReflTransGen (sharing ι _).Step (Job.startOn dataset jobs s) t) :
    ∃ t' order w, ReflTransGen (sharing (Cohort dataset (keyOf d)) _).Step
        (Job.start d (fun i => jobs i.1) s) t' ∧ Projects dataset d t t' ∧
      UnderLock d (fun i => jobs i.1) s t' order w ∧ LeftBy dataset d jobs s t order w := by
  obtain ⟨t', hrun', hprojects⟩ := projects_of_run hjobs hs hd hrun
  have hjobs' (i : Cohort dataset (keyOf d)) : (jobs i.1).On d :=
    (hjobs i.1).of_keyOf i.2 ((hs i.1).trans hd.symm)
  obtain ⟨hwaits, hscopes⟩ := waits_of_run hjobs' hd hrun'
  obtain ⟨hcoherent, holder, hholds, hseparated, order, x, hserialized, hprogress⟩ :=
    serialized_of_run hjobs' hd hrun'
  have hunder : UnderLock d (fun i => jobs i.1) s t' order x.1 :=
    .of_serialized hwaits hscopes hcoherent hholds hseparated hserialized hprogress
  exact ⟨t', order, x.1, hrun', hprojects, hunder, .of_underLock hprojects hunder⟩

end

/-- A batch and a teardown on two datasets, which overlap and come to an end. -/
theorem datasets_independent_sample :
    letI : Platform := .sample
    ∃ t, ReflTransGen (sharing Bool _).Step
        (Job.startOn Job.sampleDataset Job.sample .sample) t ∧
      (∀ i, Ended (t.procs i).2) ∧
      ∀ d ∈ [Job.sampleDataset true, Job.sampleDataset false],
        ∃ t' order w, ReflTransGen (sharing (Cohort Job.sampleDataset (keyOf d)) _).Step
            (Job.start d (fun i => Job.sample i.1) .sample) t' ∧
          Projects Job.sampleDataset d t t' ∧
          UnderLock d (fun i => Job.sample i.1) .sample t' order w ∧
          LeftBy Job.sampleDataset d Job.sample .sample t order w ∧
          t.store.1.datasets[keyOf d]? = w.1.datasets[keyOf d]? := by
  let _ : Platform := .sample
  obtain ⟨hjobs, hs⟩ := Job.sample_on
  -- The batch is inside the lock of its dataset when the teardown goes on.
  obtain ⟨t, e, hrun, -⟩ := Job.exists_sampleRun
  obtain ⟨u, hcompletion, hended⟩ := exists_completion hjobs hs hrun
  have hcomplete := hrun.trans (ReflTransGen.mono (fun _ _ => faultless_step) _ _ hcompletion)
  refine ⟨u, hcomplete, hended, fun d hd => ?_⟩
  have hscope : d.identityScope = FakeCogneeRuntime.sample.identityScope := by
    rcases List.mem_pair.1 hd with rfl | rfl <;> rfl
  obtain ⟨t', order, w, hrun', hprojects, hunder, hleft⟩ :=
    datasets_independent hjobs hs hscope hcomplete
  exact ⟨t', order, w, hrun', hprojects, hunder, hleft, hleft.finished fun i _ => hended i⟩

end Cogindex
