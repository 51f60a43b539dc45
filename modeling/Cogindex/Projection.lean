import Cogindex.Serializable

/-!
# The jobs of one dataset

Document batches, teardowns and verifications of any number of datasets run
concurrently on one runtime. What the jobs of a dataset do, they could do if
there were no others (`projects_of_run`).

* `RuntimeCall.target`: a call is about one dataset. Its answer, and what it
  does, depend on this dataset only (`perform_agree`), and it leaves the others
  as they are (`perform_elsewhere`);
* `Confines`: the calls of a job are about its own dataset;
* `Projects`: a state of all jobs, and one of those of a dataset that run alone.
-/

namespace Cogindex

open Coroutine FakeCogneeRuntime Function Interleaving Relation

section

variable [Platform] {α β ι : Type}

/-! ## Locality of calls -/

/-- The dataset that a call is about. -/
def RuntimeCall.target : RuntimeCall → TenantName
  | .resolveDataset name tenant => toLex (tenant, name)
  | .addDocuments handle _ => keyOf handle
  | .purgeDocumentMemory handle _ => keyOf handle
  | .deleteDocuments handle _ => keyOf handle
  | .cognifyDataset handle _ => keyOf handle
  | .teardownDataset handle => keyOf handle
  | .listDocuments handle => keyOf handle
  | .lockEnter handle => keyOf handle
  | .lockExit handle => keyOf handle

/-- Runtimes of one owner that agree on a dataset. -/
structure AgreeOn (k : TenantName) (s s' : FakeCogneeRuntime) : Prop where
  identityScope : s'.identityScope = s.identityScope
  dataset : s'.datasets[k]? = s.datasets[k]?

section AgreeOn

variable {k : TenantName} {s s' : FakeCogneeRuntime} {handle : DatasetHandle}

theorem AgreeOn.log (h : AgreeOn k s s') (op : String) (detail : List String) :
    AgreeOn k (s.log op handle detail) (s'.log op handle detail) :=
  ⟨h.identityScope, h.dataset⟩

theorem AgreeOn.modifyRows (h : AgreeOn (keyOf handle) s s') (op : String) (detail : List String)
    (f : Documents → Documents) : AgreeOn (keyOf handle)
      ((s.log op handle detail).modifyRows handle f)
      ((s'.log op handle detail).modifyRows handle f) where
  identityScope := h.identityScope
  dataset := by
    rw [FakeCogneeRuntime.modifyRows, FakeCogneeRuntime.modifyRows,
      Std.ExtTreeMap.getElem?_modify_self, Std.ExtTreeMap.getElem?_modify_self,
      (h.log op detail).dataset]

theorem AgreeOn.validateHandle (h : AgreeOn k s s') :
    s'.validateHandle handle = s.validateHandle handle := by
  rw [FakeCogneeRuntime.validateHandle, FakeCogneeRuntime.validateHandle, h.identityScope]

theorem modifyRows_elsewhere (hk : k ≠ keyOf handle) (f : Documents → Documents) :
    (s.modifyRows handle f).datasets[k]? = s.datasets[k]? := by
  rw [FakeCogneeRuntime.modifyRows, Std.ExtTreeMap.getElem?_modify,
    if_neg (mt compare_eq_iff_eq.1 hk.symm)]

/-- A call leaves the other datasets as they are. -/
theorem perform_elsewhere {c : RuntimeCall} (hk : k ≠ c.target) (f : Option Fault) :
    (perform f c s).2.datasets[k]? = s.datasets[k]? := by
  cases c with
  | resolveDataset name tenant => cases f <;> rfl
  | addDocuments handle payloads =>
    have hkey : ¬compare (keyOf handle) k = .eq := mt compare_eq_iff_eq.1 hk.symm
    have hinsert (d : FakeDataset) : (s.datasets.insert (keyOf handle) d)[k]? = s.datasets[k]? := by
      rw [Std.ExtTreeMap.getElem?_insert, if_neg hkey]
    simp only [perform, addDocuments]
    split
    · rfl
    · split_ifs
      · rfl
      · rcases f with _ | ⟨e, _ | effects⟩
        exacts [hinsert _, rfl, hinsert _]
  | purgeDocumentMemory handle ids =>
    simp only [perform, purgeDocumentMemory]
    split
    · rfl
    · rcases f with _ | ⟨e, _ | effects⟩
      exacts [modifyRows_elsewhere hk _, rfl, modifyRows_elsewhere hk _]
  | deleteDocuments handle ids =>
    simp only [perform, deleteDocuments]
    split
    · rfl
    · rcases f with _ | ⟨e, _ | effects⟩
      exacts [modifyRows_elsewhere hk _, rfl, modifyRows_elsewhere hk _]
  | cognifyDataset handle profile =>
    simp only [perform, cognifyDataset]
    split
    · rfl
    · rcases f with _ | ⟨e, _ | effects⟩
      exacts [modifyRows_elsewhere hk _, rfl, modifyRows_elsewhere hk _]
  | teardownDataset handle =>
    have hkey : ¬compare (keyOf handle) k = .eq := mt compare_eq_iff_eq.1 hk.symm
    have herase : (s.datasets.erase (keyOf handle))[k]? = s.datasets[k]? := by
      rw [Std.ExtTreeMap.getElem?_erase, if_neg hkey]
    simp only [perform, teardownDataset]
    split
    · rfl
    · rcases f with _ | ⟨e, _ | _ | _⟩
      exacts [herase, rfl, rfl, herase]
  | listDocuments handle =>
    simp only [perform, listDocuments]
    split
    · rfl
    · cases f <;> rfl
  | lockEnter handle =>
    simp only [perform, lockEnter]
    split
    · rfl
    · cases f <;> rfl
  | lockExit handle => rfl

/-- The answer to a call, and what it does, depend on its dataset only. -/
theorem perform_agree {c : RuntimeCall} (hc : c.target = k) (h : AgreeOn k s s')
    (f : Option Fault) : (perform f c s').1 = (perform f c s).1 ∧
      AgreeOn k (perform f c s).2 (perform f c s').2 := by
  subst hc
  cases c with
  | resolveDataset name tenant =>
    cases f with
    | some f => exact ⟨rfl, h⟩
    | none =>
      have hdataset : s'.dataset tenant name = s.dataset tenant name := h.dataset
      refine ⟨?_, h⟩
      simp only [perform, resolveDataset, hdataset, h.identityScope]
  | addDocuments handle payloads =>
    have h : AgreeOn (keyOf handle) s s' := h
    have hdataset : s'.ensureDataset handle = s.ensureDataset handle := by
      rw [ensureDataset, ensureDataset, h.dataset]
    have hinsert (d : FakeDataset) (op : String) (detail : List String) :
        AgreeOn (keyOf handle)
          ({ s with datasets := s.datasets.insert (keyOf handle) d }.log op handle detail)
          ({ s' with datasets := s'.datasets.insert (keyOf handle) d }.log op handle detail) :=
      ⟨h.identityScope, by
        simp only [FakeCogneeRuntime.log, Std.ExtTreeMap.getElem?_insert_self]⟩
    simp only [perform, addDocuments, h.validateHandle, hdataset]
    split
    · exact ⟨rfl, h⟩
    · split_ifs
      · exact ⟨rfl, h⟩
      · rcases f with _ | ⟨e, _ | effects⟩
        exacts [⟨rfl, hinsert _ _ _⟩, ⟨rfl, h⟩, ⟨rfl, hinsert _ _ _⟩]
  | purgeDocumentMemory handle ids =>
    have h : AgreeOn (keyOf handle) s s' := h
    simp only [perform, purgeDocumentMemory, h.validateHandle]
    split
    · exact ⟨rfl, h⟩
    · rcases f with _ | ⟨e, _ | effects⟩
      all_goals dsimp only [RuntimeCall.target]
      exacts [⟨rfl, h.modifyRows _ _ _⟩, ⟨rfl, h⟩, ⟨rfl, h.modifyRows _ _ _⟩]
  | deleteDocuments handle ids =>
    have h : AgreeOn (keyOf handle) s s' := h
    simp only [perform, deleteDocuments, h.validateHandle]
    split
    · exact ⟨rfl, h⟩
    · rcases f with _ | ⟨e, _ | effects⟩
      all_goals dsimp only [RuntimeCall.target]
      exacts [⟨rfl, h.modifyRows _ _ _⟩, ⟨rfl, h⟩, ⟨rfl, h.modifyRows _ _ _⟩]
  | cognifyDataset handle profile =>
    have h : AgreeOn (keyOf handle) s s' := h
    -- Which rows are cognified is read off the dataset.
    simp only [perform, cognifyDataset, h.validateHandle]
    split
    · exact ⟨rfl, h⟩
    · rcases f with _ | ⟨e, _ | effects⟩
      all_goals dsimp only [RuntimeCall.target]
      exacts [⟨rfl, h.modifyRows _ _ _⟩, ⟨rfl, h⟩, ⟨rfl, h.modifyRows _ _ _⟩]
  | teardownDataset handle =>
    have h : AgreeOn (keyOf handle) s s' := h
    have herase (op : String) (detail : List String) : AgreeOn (keyOf handle)
        { s.log op handle detail with datasets := s.datasets.erase (keyOf handle) }
        { s'.log op handle detail with datasets := s'.datasets.erase (keyOf handle) } :=
      ⟨h.identityScope, by
        rw [Std.ExtTreeMap.getElem?_erase_self, Std.ExtTreeMap.getElem?_erase_self]⟩
    simp only [perform, teardownDataset, h.validateHandle]
    split
    · exact ⟨rfl, h⟩
    · rcases f with _ | ⟨e, _ | _ | _⟩
      exacts [⟨rfl, herase _ _⟩, ⟨rfl, h⟩, ⟨rfl, h.log _ _⟩, ⟨rfl, herase _ _⟩]
  | listDocuments handle =>
    have h : AgreeOn (keyOf handle) s s' := h
    have hdataset : s'.dataset handle.tenant handle.name = s.dataset handle.tenant handle.name :=
      h.dataset
    simp only [perform, listDocuments, h.validateHandle, hdataset]
    split
    · exact ⟨rfl, h⟩
    · cases f <;> exact ⟨rfl, h⟩
  | lockEnter handle =>
    have h : AgreeOn (keyOf handle) s s' := h
    simp only [perform, lockEnter, h.validateHandle]
    split
    · exact ⟨rfl, h⟩
    · cases f
      exacts [⟨rfl, h.log _ _⟩, ⟨rfl, h⟩]
  | lockExit handle => exact ⟨rfl, h.log _ _⟩

end AgreeOn

/-! ## Confined programs -/

/-- Calls about a dataset return handles of it. -/
def RuntimeCall.Returns (d : DatasetHandle) : (c : RuntimeCall) → Except PyError c.Response → Prop
  | .resolveDataset _ _, r => ∀ handle, r = .ok handle → SameDataset d handle
  | .addDocuments _ _, r => ∀ handle, r = .ok handle → SameDataset d handle
  | _, _ => True

/-- As long as handles of a dataset are returned for it, all calls of a program
    are about this dataset, and a result satisfies `Q`. -/
def Confines (d : DatasetHandle) : Program α → (α → Prop) → Prop
  | .ret a, Q => Q a
  | .raise _, _ => True
  | .await c k, Q => c.target = keyOf d ∧ ∀ r, c.Returns d r → Confines d (k r) Q

section Confines

variable {d handle : DatasetHandle} {p : Program α} {Q : α → Prop}

theorem SameDataset.keyOf_eq (h : SameDataset d handle) : keyOf handle = keyOf d := by
  rw [keyOf, keyOf, h.tenant, h.name]

theorem sameDataset_of_keyOf (hkey : keyOf handle = keyOf d)
    (hscope : handle.identityScope = d.identityScope) : SameDataset d handle := by
  obtain ⟨htenant, hname⟩ := Prod.mk.inj (toLex.injective hkey)
  exact ⟨hname, htenant, hscope⟩

theorem Confines.mono {Q' : α → Prop} (h : Confines d p Q) (hQ : ∀ a, Q a → Q' a) :
    Confines d p Q' := by
  induction p with
  | ret a => exact hQ a h
  | raise e => trivial
  | await c k ih => exact ⟨h.1, fun r hr => ih r (h.2 r hr)⟩

theorem Confines.bind {f : α → Program β} {Q' : β → Prop} (h : Confines d p Q)
    (hf : ∀ a, Q a → Confines d (f a) Q') : Confines d (p >>= f) Q' := by
  induction p with
  | ret a => exact hf a h
  | raise e => trivial
  | await c k ih => exact ⟨h.1, fun r hr => ih r (h.2 r hr)⟩

theorem confines_call {c : RuntimeCall} (hc : c.target = keyOf d) :
    Confines d (await c) fun v => c.Returns d (.ok v) := by
  refine ⟨hc, fun r hr => ?_⟩
  cases r with
  | ok v => exact hr
  | error e => trivial

theorem confines_ofExcept (x : Except PyError α) : Confines d (ofExcept x) fun _ => True := by
  cases x <;> trivial

theorem confines_ite {P : Prop} [Decidable P] {q : Program α} (hp : Confines d p Q)
    (hq : Confines d q Q) : Confines d (if P then p else q) Q := by
  split_ifs
  exacts [hp, hq]

/-- The lock of a dataset is left, however the body ends. -/
theorem confines_withLock (hh : keyOf handle = keyOf d) (h : Confines d p Q) :
    Confines d (withLock handle p) fun _ => True := by
  refine (confines_call (c := .lockEnter handle) hh).bind fun _ _ => ?_
  have hlast (outcome : Except PyError α) :
      Confines d (await (.lockExit handle) >>= fun _ => ofExcept outcome) fun _ => True :=
    (confines_call (c := .lockExit handle) hh).bind fun _ _ => confines_ofExcept outcome
  induction p with
  | ret a => exact hlast (.ok a)
  | raise e => exact hlast (.error e)
  | await c k ih => exact ⟨h.1, fun r hr => ih r (h.2 r hr)⟩

/-- The phases of a batch, the last one through the handle that the add returned. -/
theorem confines_applyBatch {h : DocumentHandler} (hh : SameDataset d h.handle) (b : Batch) :
    Confines d (h.applyBatch b) fun _ => True := by
  have hkey := hh.keyOf_eq
  refine Confines.bind (Q := fun _ => True) ?_ fun _ _ => ?_
  · exact confines_ite (confines_call (c := .deleteDocuments _ _) hkey) trivial
  refine Confines.bind (Q := fun _ => True) ?_ fun _ _ => ?_
  · exact confines_ite (confines_call (c := .purgeDocumentMemory _ _) hkey) trivial
  refine Confines.bind (Q := SameDataset d) ?_ fun handle hhandle => ?_
  · refine confines_ite hh ?_
    exact (confines_call (c := .addDocuments _ _) hkey).mono fun handle hr => hr handle rfl
  · exact confines_ite (confines_call (c := .cognifyDataset _ _) hhandle.keyOf_eq) trivial

theorem confines_listUnderLock : Confines d (listUnderLock d.name d.tenant) fun _ => True := by
  refine (confines_call rfl).bind fun handle hh => ?_
  exact (confines_call (c := .listDocuments handle) (hh handle rfl).keyOf_eq).bind
    fun _ _ => confines_ofExcept _

/-- Every job makes only calls about its own dataset. -/
theorem Job.confines {job : Job} (h : job.On d) :
    Confines d (job.program d.name d.tenant) fun _ => True := by
  cases job with
  | batch handler actions =>
    refine Confines.bind (Q := fun _ => True) ?_ fun _ _ => trivial
    exact (confines_ofExcept _).bind fun b _ =>
      confines_withLock (SameDataset.keyOf_eq h) (confines_applyBatch h b)
  | teardown =>
    refine Confines.bind (Q := fun _ => True) ?_ fun _ _ => trivial
    refine (confines_call rfl).bind fun handle hh => ?_
    have hkey := (hh handle rfl).keyOf_eq
    exact confines_withLock hkey (confines_call hkey)
  | verification runtimeKey expected =>
    refine Confines.bind (Q := fun _ => True) ?_ fun _ _ => trivial
    refine (confines_ofExcept _).bind fun _ _ => (confines_ofExcept _).bind fun _ _ =>
      (confines_ofExcept _).bind fun _ _ => (confines_call rfl).bind fun handle hh => ?_
    refine (confines_ofExcept _).bind fun _ _ =>
      (confines_withLock (hh handle rfl).keyOf_eq confines_listUnderLock).bind fun _ _ =>
        (confines_ofExcept _).bind fun _ _ => trivial

end Confines

/-! ## The jobs of a dataset -/

/-- The answers of the runtime are handles of the dataset that a call is about. -/
theorem Touches.returns {i : ι} {d : DatasetHandle} {c : RuntimeCall} {w w' : World ι}
    {r : Except PyError c.Response} (hc : c.target = keyOf d)
    (hd : d.identityScope = w.1.identityScope) (h : Touches i c w r w') : c.Returns d r := by
  obtain ⟨⟨f, hf⟩, -⟩ := h
  have hr : r = (perform f c w.1).1 := by rw [hf]
  subst hr
  cases c with
  | resolveDataset name tenant =>
    intro handle hok
    cases f with
    | some f => cases hok
    | none =>
      cases hok
      exact sameDataset_of_keyOf hc hd.symm
  | addDocuments handle payloads =>
    intro handle' hok
    simp only [perform, addDocuments, validateHandle] at hok
    by_cases hscope : handle.identityScope = w.1.identityScope
    · have hsame := sameDataset_of_keyOf hc (hscope.trans hd.symm)
      rw [if_pos hscope] at hok
      simp only at hok
      split_ifs at hok
      · cases hok
        exact hsame
      · rcases f with _ | ⟨e, _ | effects⟩
        all_goals cases hok
        exact ⟨hsame.name, hsame.tenant, hsame.identityScope⟩
    · rw [if_neg hscope] at hok
      cases hok
  | _ => trivial

/-- The phases of a task in two runs, whose providers have other entries. -/
inductive SamePhase : LockPhase → LockPhase → Prop
  | outside : SamePhase .outside .outside
  | waiting (scope : String) (e e' : EntryId) : SamePhase (.waiting scope e) (.waiting scope e')
  | inside (scope : String) (e e' : EntryId) : SamePhase (.inside scope e) (.inside scope e')

section SamePhase

variable {l : LockPhase} {scope : String} {e : EntryId}

omit [Platform] in
theorem SamePhase.eq_outside (h : SamePhase .outside l) : l = .outside := by
  cases h
  rfl

omit [Platform] in
theorem SamePhase.exists_waiting (h : SamePhase (.waiting scope e) l) :
    ∃ e', l = .waiting scope e' := by
  cases h with
  | waiting => exact ⟨_, rfl⟩

omit [Platform] in
theorem SamePhase.exists_inside (h : SamePhase (.inside scope e) l) :
    ∃ e', l = .inside scope e' := by
  cases h with
  | «inside» => exact ⟨_, rfl⟩

omit [Platform] in
theorem SamePhase.exists_inside_left (h : SamePhase l (.inside scope e)) :
    ∃ e', l = .inside scope e' := by
  cases h with
  | «inside» => exact ⟨_, rfl⟩

end SamePhase

/-- The tasks whose dataset has a key. -/
abbrev Cohort (dataset : ι → DatasetHandle) (k : TenantName) : Type :=
  { i : ι // keyOf (dataset i) = k }

/-- What a store of all tasks, and one of those of a dataset, have in common. -/
structure SameStore (dataset : ι → DatasetHandle) (d : DatasetHandle) (w : World ι)
    (w' : World (Cohort dataset (keyOf d))) : Prop where
  scope : d.identityScope = w.1.identityScope
  agree : AgreeOn (keyOf d) w.1 w'.1
  accesses : w'.2.map (fun x => (x.1.1, x.2)) = w.2.filter fun x => keyOf (dataset x.1) = keyOf d

section SameStore

variable {dataset : ι → DatasetHandle} {d : DatasetHandle} {w v : World ι}
  {w' : World (Cohort dataset (keyOf d))} {c : RuntimeCall} {r : Except PyError c.Response}

/-- A task on another dataset leaves the dataset as it is. -/
theorem SameStore.other (h : SameStore dataset d w w') {i : ι} (hi : keyOf (dataset i) ≠ keyOf d)
    (hc : c.target = keyOf (dataset i)) (hs : Touches i c w r v) : SameStore dataset d v w' where
  scope := h.scope.trans hs.identityScope.symm
  agree := by
    obtain ⟨⟨f, hf⟩, -⟩ := hs
    have hv : v.1 = (perform f c w.1).2 := by rw [hf]
    refine ⟨?_, ?_⟩
    · rw [hv, perform_identityScope, h.agree.identityScope]
    · rw [hv, perform_elsewhere (hc ▸ hi.symm), h.agree.dataset]
  accesses := by
    rw [h.accesses, hs.2, List.filter_append, List.self_eq_append_right, List.filter_eq_nil_iff]
    intro x hx
    obtain ⟨a, -, rfl⟩ := List.mem_map.1 hx
    simpa using hi

/-- A task on the dataset does the same without the others. -/
theorem SameStore.same (h : SameStore dataset d w w') (i : Cohort dataset (keyOf d))
    (hc : c.target = keyOf d) (hs : Touches i.1 c w r v) :
    ∃ v', Touches i c w' r v' ∧ SameStore dataset d v v' := by
  have hscope := h.scope.trans hs.identityScope.symm
  obtain ⟨⟨f, hf⟩, haccesses⟩ := hs
  have hr : (perform f c w.1).1 = r := by rw [hf]
  have hv : (perform f c w.1).2 = v.1 := by rw [hf]
  obtain ⟨hr', hagree⟩ := perform_agree hc h.agree f
  refine ⟨((perform f c w'.1).2, w'.2 ++ c.access.toList.map (i, ·)),
    ⟨⟨f, Prod.ext (hr'.trans hr) rfl⟩, rfl⟩, hscope, hv ▸ hagree, ?_⟩
  have hkept : (c.access.toList.map (i.1, ·)).filter (fun x => keyOf (dataset x.1) = keyOf d) =
      c.access.toList.map (i.1, ·) := by
    refine List.filter_eq_self.2 fun x hx => ?_
    obtain ⟨a, -, rfl⟩ := List.mem_map.1 hx
    exact decide_eq_true i.2
  rw [haccesses, List.map_append, h.accesses, List.filter_append, hkept, List.map_map]
  rfl

end SameStore

/-- A state of all tasks, and one of those of a dataset that run alone. -/
structure Projects (dataset : ι → DatasetHandle) (d : DatasetHandle)
    (t : Tasks ι (ι × Program α) (World ι))
    (t' : Tasks (Cohort dataset (keyOf d)) (Cohort dataset (keyOf d) × Program α)
      (World (Cohort dataset (keyOf d)))) : Prop where
  confined : ∀ i, ∃ p, t.procs i = (i, p) ∧ Confines (dataset i) p fun _ => True
  procs : ∀ i, t'.procs i = (i, (t.procs i.1).2)
  phase : ∀ i, SamePhase (t.phase i.1) (t'.phase i)
  store : SameStore dataset d t.store t'.store

section Projects

variable [DecidableEq ι] {dataset : ι → DatasetHandle} {d : DatasetHandle}
  {t u : Tasks ι (ι × Program α) (World ι)}
  {t' : Tasks (Cohort dataset (keyOf d)) (Cohort dataset (keyOf d) × Program α)
    (World (Cohort dataset (keyOf d)))}

/-- A task on another dataset moves, and the others wait. -/
theorem Projects.other (h : Projects dataset d t t') {i : ι} (hi : keyOf (dataset i) ≠ keyOf d)
    {w : World ι} (hw : SameStore dataset d w t'.store) (provider : InProcessLockProvider)
    (l : LockPhase) {q : Program α} (hq : Confines (dataset i) q fun _ => True) :
    Projects dataset d ⟨w, provider, update t.phase i l, update t.procs i (i, q)⟩ t' where
  confined := (forall_update_iff t.procs fun j x =>
    ∃ p, x = (j, p) ∧ Confines (dataset j) p fun _ => True).2
      ⟨⟨q, rfl, hq⟩, fun j _ => h.confined j⟩
  procs j := by
    have hj : j.1 ≠ i := fun hj => hi (hj ▸ j.2)
    simp only [update_of_ne hj]
    exact h.procs j
  phase j := by
    have hj : j.1 ≠ i := fun hj => hi (hj ▸ j.2)
    simp only [update_of_ne hj]
    exact h.phase j
  store := hw

/-- A task on the dataset moves, with the others or without. -/
theorem Projects.same (h : Projects dataset d t t') (i : Cohort dataset (keyOf d)) {w : World ι}
    {w' : World (Cohort dataset (keyOf d))} (hw : SameStore dataset d w w')
    (provider provider' : InProcessLockProvider) {l l' : LockPhase} (hl : SamePhase l l')
    {q : Program α} (hq : Confines (dataset i.1) q fun _ => True) :
    Projects dataset d ⟨w, provider, update t.phase i.1 l, update t.procs i.1 (i.1, q)⟩
      ⟨w', provider', update t'.phase i l', update t'.procs i (i, q)⟩ where
  confined := (forall_update_iff t.procs fun j x =>
    ∃ p, x = (j, p) ∧ Confines (dataset j) p fun _ => True).2
      ⟨⟨q, rfl, hq⟩, fun j _ => h.confined j⟩
  procs j := by
    by_cases hj : j = i
    · subst hj
      simp only [update_self]
    · have hj' : j.1 ≠ i.1 := fun heq => hj (Subtype.ext heq)
      simp only [update_of_ne hj, update_of_ne hj']
      exact h.procs j
  phase j := by
    by_cases hj : j = i
    · subst hj
      simp only [update_self]
      exact hl
    · have hj' : j.1 ≠ i.1 := fun heq => hj (Subtype.ext heq)
      simp only [update_of_ne hj, update_of_ne hj']
      exact h.phase j
  store := hw

omit [DecidableEq ι] in
/-- What a task awaits, and how it goes on. -/
theorem Projects.awaits (h : Projects dataset d t t') {i : ι} {c : ι × RuntimeCall}
    {k : Except PyError c.2.Response → ι × Program α}
    (ha : (sharing ι α).awaits (t.procs i) = some ⟨c, k⟩) :
    ∃ (c' : RuntimeCall) (k' : Except PyError c'.Response → Program α),
      t.procs i = (i, .await c' k') ∧ c'.target = keyOf (dataset i) ∧
      (⟨c, k⟩ : (c : ι × RuntimeCall) × (Except PyError c.2.Response → ι × Program α)) =
        ⟨(i, c'), fun r => (i, k' r)⟩ ∧
      ∀ r, c'.Returns (dataset i) r → Confines (dataset i) (k' r) fun _ => True := by
  obtain ⟨p, hp, hconfined⟩ := h.confined i
  rw [hp] at ha ⊢
  cases p with
  | ret a => cases ha
  | raise e => cases ha
  | await c' k' => exact ⟨c', k', rfl, hconfined.1, (Option.some.inj ha).symm, hconfined.2⟩

variable [Fintype ι]

omit [DecidableEq ι] in
/-- A lock that is free is also free where the others do not run. -/
theorem Projects.free (h : Projects dataset d t t') (ht : Coherent t.provider t.phase)
    (ht' : Coherent t'.provider t'.phase) {i : Cohort dataset (keyOf d)} {scope : String}
    {e e' : EntryId} (hi : t.phase i.1 = .waiting scope e) (hi' : t'.phase i = .waiting scope e')
    (hfree : (t.provider.entries e).locked = false) :
    (t'.provider.entries e').locked = false := by
  refine Bool.eq_false_iff.2 fun hlocked => ?_
  obtain ⟨j, scope', hj'⟩ := (ht'.locked e').1 hlocked
  have hentry := ht'.registered i scope e' (by rw [hi']; rfl)
  obtain rfl := ht'.injective scope scope' e' hentry (ht'.registered j scope' e' (by rw [hj']; rfl))
  -- The task that is inside there is inside here, too.
  obtain ⟨e₁, hj⟩ := (hj' ▸ h.phase j).exists_inside_left
  have hregistered := ht.registered j.1 scope e₁ (by rw [hj]; rfl)
  obtain rfl := Option.some.inj
    (hregistered.symm.trans (ht.registered i.1 scope e (by rw [hi]; rfl)))
  rw [(ht.locked e₁).2 ⟨j.1, scope, hj⟩] at hfree
  cases hfree

/-- A step of all tasks is one of those of a dataset alone, or none of theirs. -/
theorem Projects.step (hscope : ∀ i, (dataset i).identityScope = d.identityScope)
    (h : Projects dataset d t t') (ht : Coherent t.provider t.phase)
    (ht' : Coherent t'.provider t'.phase) (hs : (sharing ι α).Step t u) :
    ∃ u', ReflTransGen (sharing (Cohort dataset (keyOf d)) α).Step t' u' ∧
      Projects dataset d u u' := by
  have hgood (i : ι) : (dataset i).identityScope = t.store.1.identityScope :=
    (hscope i).trans h.store.scope
  -- What a task of the dataset awaits, it awaits alone.
  have halone {i : Cohort dataset (keyOf d)} {c : RuntimeCall}
      {k : Except PyError c.Response → Program α} (hp : t.procs i.1 = (i.1, .await c k)) :
      (sharing (Cohort dataset (keyOf d)) α).awaits (t'.procs i) =
        some ⟨(i, c), fun r => (i, k r)⟩ := by
    rw [h.procs i, hp]
    rfl
  cases hs with
  | internal hmove => exact absurd hmove id
  | @plain i c k r w ha hc hs =>
    obtain ⟨c, k, hp, htarget, heq, hk⟩ := h.awaits ha
    cases heq
    have hq := hk r (hs.returns htarget (hgood i))
    by_cases hi : keyOf (dataset i) = keyOf d
    · obtain ⟨w', hs', hw⟩ := h.store.same ⟨i, hi⟩ (htarget.trans hi) hs
      have hnext := h.same ⟨i, hi⟩ hw t.provider t'.provider (h.phase ⟨i, hi⟩) hq
      rw [update_eq_self, update_eq_self] at hnext
      exact ⟨_, .single (.plain (halone hp) hc hs'), hnext⟩
    · have hnext := h.other hi (h.store.other hi htarget hs) t.provider (t.phase i) hq
      rw [update_eq_self] at hnext
      exact ⟨t', .refl, hnext⟩
  | @refused i c k scope e w ha hc hphase hs =>
    obtain ⟨c, k, hp, htarget, heq, hk⟩ := h.awaits ha
    cases heq
    have hq := hk (.error e) (hs.returns htarget (hgood i))
    by_cases hi : keyOf (dataset i) = keyOf d
    · obtain ⟨w', hs', hw⟩ := h.store.same ⟨i, hi⟩ (htarget.trans hi) hs
      have hnext := h.same ⟨i, hi⟩ hw t.provider t'.provider (h.phase ⟨i, hi⟩) hq
      rw [update_eq_self, update_eq_self] at hnext
      have hphase' := (hphase ▸ h.phase ⟨i, hi⟩).eq_outside
      exact ⟨_, .single (.refused (halone hp) hc hphase' hs'), hnext⟩
    · have hnext := h.other hi (h.store.other hi htarget hs) t.provider (t.phase i) hq
      rw [update_eq_self] at hnext
      exact ⟨t', .refl, hnext⟩
  | @wait i c k scope ha hc hphase hvalid hs =>
    obtain ⟨c, k, hp, htarget, heq, hk⟩ := h.awaits ha
    cases heq
    obtain ⟨q, hq, hconfined⟩ := h.confined i
    by_cases hi : keyOf (dataset i) = keyOf d
    · have hphase' := (hphase ▸ h.phase ⟨i, hi⟩).eq_outside
      obtain ⟨v, w, hs⟩ := hs
      obtain ⟨w', hs', -⟩ := h.store.same ⟨i, hi⟩ (htarget.trans hi) hs
      have hnext := h.same ⟨i, hi⟩ h.store (t.provider.enter scope).2 (t'.provider.enter scope).2
        (.waiting scope (t.provider.enter scope).1 (t'.provider.enter scope).1) hconfined
      rw [← hq, update_eq_self, show ((⟨i, hi⟩, q) : _ × Program α) = t'.procs ⟨i, hi⟩ by
        rw [h.procs, hq], update_eq_self] at hnext
      exact ⟨_, .single (.wait (halone hp) hc hphase' hvalid ⟨v, w', hs'⟩), hnext⟩
    · have hnext := h.other hi h.store (t.provider.enter scope).2
        (.waiting scope (t.provider.enter scope).1) hconfined
      rw [← hq, update_eq_self] at hnext
      exact ⟨t', .refl, hnext⟩
  | @abandon i c k scope entry e w ha hc hphase hs =>
    obtain ⟨c, k, hp, htarget, heq, hk⟩ := h.awaits ha
    cases heq
    have hq := hk (.error e) (hs.returns htarget (hgood i))
    by_cases hi : keyOf (dataset i) = keyOf d
    · obtain ⟨entry', hphase'⟩ := (hphase ▸ h.phase ⟨i, hi⟩).exists_waiting
      obtain ⟨w', hs', hw⟩ := h.store.same ⟨i, hi⟩ (htarget.trans hi) hs
      exact ⟨_, .single (.abandon (halone hp) hc hphase' hs'), h.same ⟨i, hi⟩ hw _ _ .outside hq⟩
    · exact ⟨t', .refl, h.other hi (h.store.other hi htarget hs) _ _ hq⟩
  | @acquired i c k scope entry v w ha hc hphase hfree hs =>
    obtain ⟨c, k, hp, htarget, heq, hk⟩ := h.awaits ha
    cases heq
    have hq := hk (.ok v) (hs.returns htarget (hgood i))
    by_cases hi : keyOf (dataset i) = keyOf d
    · obtain ⟨entry', hphase'⟩ := (hphase ▸ h.phase ⟨i, hi⟩).exists_waiting
      obtain ⟨w', hs', hw⟩ := h.store.same ⟨i, hi⟩ (htarget.trans hi) hs
      have hfree' := h.free ht ht' hphase hphase' hfree
      exact ⟨_, .single (.acquired (halone hp) hc hphase' hfree' hs'),
        h.same ⟨i, hi⟩ hw _ _ (.inside scope entry entry') hq⟩
    · exact ⟨t', .refl, h.other hi (h.store.other hi htarget hs) _ _ hq⟩
  | @leave i c k scope entry r w ha hc hphase hs =>
    obtain ⟨c, k, hp, htarget, heq, hk⟩ := h.awaits ha
    cases heq
    have hq := hk r (hs.returns htarget (hgood i))
    by_cases hi : keyOf (dataset i) = keyOf d
    · obtain ⟨entry', hphase'⟩ := (hphase ▸ h.phase ⟨i, hi⟩).exists_inside
      obtain ⟨w', hs', hw⟩ := h.store.same ⟨i, hi⟩ (htarget.trans hi) hs
      exact ⟨_, .single (.leave (halone hp) hc hphase' hs'), h.same ⟨i, hi⟩ hw _ _ .outside hq⟩
    · exact ⟨t', .refl, h.other hi (h.store.other hi htarget hs) _ _ hq⟩

end Projects

/-! ## Runs -/

section Main

variable [Fintype ι] [DecidableEq ι] {dataset : ι → DatasetHandle} {d : DatasetHandle}
  {jobs : ι → Job} {s : FakeCogneeRuntime}
  {t : Tasks ι (ι × Program (Option VerificationReport)) (World ι)}

/-- Before any job has started, each on its own dataset. -/
abbrev Job.startOn (dataset : ι → DatasetHandle) (jobs : ι → Job) (s : FakeCogneeRuntime) :
    Tasks ι (ι × Program (Option VerificationReport)) (World ι) :=
  .start (s, []) fun i => (i, (jobs i).program (dataset i).name (dataset i).tenant)

/-- A run of jobs on any datasets is one of those on a dataset alone. -/
theorem projects_of_run (hjobs : ∀ i, (jobs i).On (dataset i))
    (hs : ∀ i, (dataset i).identityScope = s.identityScope) (hd : d.identityScope = s.identityScope)
    (hrun : ReflTransGen (sharing ι _).Step (Job.startOn dataset jobs s) t) :
    ∃ t', ReflTransGen (sharing (Cohort dataset (keyOf d)) _).Step
        (Job.start d (fun i => jobs i.1) s) t' ∧ Projects dataset d t t' := by
  have hscope (i : ι) : (dataset i).identityScope = d.identityScope := (hs i).trans hd.symm
  induction hrun with
  | refl =>
    refine ⟨_, .refl, fun i => ⟨_, rfl, Job.confines (hjobs i)⟩, fun i => ?_, fun _ => .outside,
      hd, ⟨rfl, rfl⟩, rfl⟩
    obtain ⟨htenant, hname⟩ := Prod.mk.inj (toLex.injective i.2)
    simp only [Tasks.start, htenant, hname]
  | tail hrun hstep ih =>
    obtain ⟨t', hrun', hprojects⟩ := ih
    obtain ⟨ht, -⟩ := TaskSystem.simulates hrun ""
    obtain ⟨ht', -⟩ := TaskSystem.simulates hrun' ""
    obtain ⟨u', hsteps, hnext⟩ := hprojects.step hscope ht ht' hstep
    exact ⟨u', hrun'.trans hsteps, hnext⟩

/-- A job on a dataset with the same key is one on the dataset. -/
theorem Job.On.of_keyOf {job : Job} {d' : DatasetHandle} (h : job.On d')
    (hkey : keyOf d' = keyOf d) (hscope : d'.identityScope = d.identityScope) : job.On d := by
  have hsame := sameDataset_of_keyOf hkey hscope
  cases job with
  | batch handler actions =>
    have hh : SameDataset d' handler.handle := h
    exact ⟨hh.name.trans hsame.name, hh.tenant.trans hsame.tenant,
      hh.identityScope.trans hsame.identityScope⟩
  | teardown => trivial
  | verification runtimeKey expected => trivial

end Main

end

/-- The dataset of the batch, and another one for the teardown. -/
def Job.sampleDataset : Bool → @DatasetHandle .sample
  | true => @DocumentHandler.handle .sample DocumentHandler.sample
  | false => @DatasetHandle.mk .sample "other" "default" "fake-default" none coordinate_fakeDefault

theorem Job.sample_on : letI : Platform := .sample
    (∀ i, (Job.sample i).On (Job.sampleDataset i)) ∧
      ∀ i, (Job.sampleDataset i).identityScope = FakeCogneeRuntime.sample.identityScope := by
  let _ : Platform := .sample
  refine ⟨?_, ?_⟩ <;> rintro (_ | _)
  exacts [trivial, ⟨rfl, rfl, rfl⟩, rfl, rfl]

/-- The batch is let in while the teardown has resolved the other dataset. -/
theorem Job.exists_sampleRun : letI : Platform := .sample
    ∃ t e, ReflTransGen (sharing Bool _).Step (Job.startOn Job.sampleDataset Job.sample .sample) t ∧
      t.phase true = .inside (lockScope DocumentHandler.sample.handle) e := by
  let _ : Platform := .sample
  have hscope : validateScope (lockScope DocumentHandler.sample.handle) = .ok () := by
    decide +kernel
  have hrun : ReflTransGen (sharing Bool (Option VerificationReport)).Step
      (Job.startOn Job.sampleDataset Job.sample .sample) _ :=
    ((ReflTransGen.single (.plain (i := false) (s := (_, _)) rfl rfl
      ⟨⟨none, rfl⟩, rfl⟩)).tail
      (.wait (i := true) rfl rfl rfl hscope ⟨(), (_, _), ⟨none, rfl⟩, rfl⟩)).tail
      (.acquired (i := true) (v := ()) (s := (_, _)) rfl rfl rfl rfl ⟨⟨none, rfl⟩, rfl⟩)
  exact ⟨_, 0, hrun, rfl⟩

end Cogindex
