import Cogindex.Testing

/-!
# What the calls do to a row

A call of the in-memory runtime changes the rows of one dataset. `Writes` says
how: what becomes of each row, of the dataset itself (its `header`), and that
nothing else changes. There is one rule for each call (`wp_deleteDocuments`,
`wp_purgeDocumentMemory`, `wp_addDocuments`, `wp_cognifyDataset`): what it does
when it returns, and what it may have done when it raises.
-/

namespace Cogindex

variable [Platform]

/-! ## Folding over the rows -/

namespace Documents

theorem getElem?_modify_iff (ds : Documents) (f : FakeDocument → FakeDocument) (i j : UUID) :
    (ds.modify j f)[i]? = if j = i then ds[i]?.map f else ds[i]? := by
  rw [Std.ExtTreeMap.getElem?_modify]
  by_cases h : j = i
  · rw [if_pos (compare_eq_iff_eq.2 h), if_pos h, h]
  · rw [if_neg (mt compare_eq_iff_eq.1 h), if_neg h]

theorem getElem?_erase_iff (ds : Documents) (i j : UUID) :
    (ds.erase j)[i]? = if j = i then none else ds[i]? := by
  rw [Std.ExtTreeMap.getElem?_erase]
  by_cases h : j = i
  · rw [if_pos (compare_eq_iff_eq.2 h), if_pos h]
  · rw [if_neg (mt compare_eq_iff_eq.1 h), if_neg h]

/-- Modifying rows in turn modifies each of them once, if twice is the same as once. -/
theorem getElem?_foldl_modify {f : FakeDocument → FakeDocument} (hf : ∀ d, f (f d) = f d)
    (ids : List UUID) (ds : Documents) (i : UUID) :
    (ids.foldl (fun ds j => ds.modify j f) ds)[i]? = if i ∈ ids then ds[i]?.map f else ds[i]? := by
  induction ids generalizing ds with
  | nil => rw [List.foldl_nil, if_neg List.not_mem_nil]
  | cons j ids ih =>
    rw [List.foldl_cons, ih, getElem?_modify_iff]
    by_cases hj : j = i
    · subst hj
      rw [if_pos rfl, Option.map_map, show f ∘ f = f from funext hf, ite_self,
        if_pos List.mem_cons_self]
    · have hmem : i ∈ j :: ids ↔ i ∈ ids := by rw [List.mem_cons, or_iff_right (Ne.symm hj)]
      rw [if_neg hj]
      simp only [hmem]

end Documents

theorem FakeDocument.purge_purge (d : FakeDocument) : d.purge.purge = d.purge := rfl

/-- A document is cognified once, whatever the profiles. -/
theorem FakeDocument.cognify_cognify (profile profile' : CognifyProfile) (d : FakeDocument) :
    (d.cognify profile).cognify profile' = d.cognify profile := by
  unfold FakeDocument.cognify
  split_ifs <;> simp_all

namespace Documents

theorem getElem?_purgeAll (ds : Documents) (ids : List UUID) (i : UUID) :
    (ds.purgeAll ids)[i]? = if i ∈ ids then ds[i]?.map FakeDocument.purge else ds[i]? :=
  getElem?_foldl_modify FakeDocument.purge_purge ids ds i

theorem getElem?_cognifyAll (ds : Documents) (profile : CognifyProfile) (ids : List UUID)
    (i : UUID) : (ds.cognifyAll profile ids)[i]? =
      if i ∈ ids then ds[i]?.map (FakeDocument.cognify profile) else ds[i]? :=
  getElem?_foldl_modify (FakeDocument.cognify_cognify profile profile) ids ds i

/-- Deleting rows completely. -/
theorem getElem?_deleteAll_done (ds : Documents) (ids : List UUID) (i : UUID) :
    (ds.deleteAll (ids.map fun i => (i, .done)))[i]? = if i ∈ ids then none else ds[i]? := by
  unfold deleteAll
  induction ids generalizing ds with
  | nil => rw [List.map_nil, List.foldl_nil, if_neg List.not_mem_nil]
  | cons j ids ih =>
    rw [List.map_cons, List.foldl_cons, ih, deleteOne, getElem?_erase_iff]
    by_cases hj : j = i
    · subst hj
      rw [if_pos rfl, ite_self, if_pos List.mem_cons_self]
    · have hmem : i ∈ j :: ids ↔ i ∈ ids := by rw [List.mem_cons, or_iff_right (Ne.symm hj)]
      rw [if_neg hj]
      simp only [hmem]

/-- A failing delete leaves a row alone, deletes it or tears it. -/
theorem getElem?_deleteAll_cases (ds : Documents) (items : List (UUID × ItemEffect)) (i : UUID) :
    (ds.deleteAll items)[i]? = ds[i]? ∨ i ∈ items.map Prod.fst ∧
      ((ds.deleteAll items)[i]? = none ∨
        (ds.deleteAll items)[i]? = ds[i]?.map FakeDocument.tear) := by
  unfold deleteAll
  induction items generalizing ds with
  | nil => exact .inl rfl
  | cons item items ih =>
    obtain ⟨j, e⟩ := item
    rw [List.foldl_cons, List.map_cons]
    by_cases hj : j = i
    · subst hj
      refine .inr ⟨List.mem_cons_self, ?_⟩
      -- The ids may repeat; a row that was torn can be deleted or torn again.
      have htear : FakeDocument.tear ∘ FakeDocument.tear = FakeDocument.tear := rfl
      cases e with
      | done =>
        have hrow : (ds.deleteOne j .done)[j]? = none := by
          rw [deleteOne, getElem?_erase_iff, if_pos rfl]
        rcases ih (ds.deleteOne j .done) with h | ⟨-, h | h⟩ <;> rw [h]
        · exact .inl hrow
        · exact .inl rfl
        · rw [hrow]
          exact .inl rfl
      | torn =>
        have hrow : (ds.deleteOne j .torn)[j]? = ds[j]?.map FakeDocument.tear := by
          rw [deleteOne, getElem?_modify_iff, if_pos rfl]
        rcases ih (ds.deleteOne j .torn) with h | ⟨-, h | h⟩ <;> rw [h]
        · exact .inr hrow
        · exact .inl rfl
        · rw [hrow, Option.map_map, htear]
          exact .inr rfl
    · have hrow : (ds.deleteOne j e)[i]? = ds[i]? := by
        cases e with
        | done => rw [deleteOne, getElem?_erase_iff, if_neg hj]
        | torn => rw [deleteOne, getElem?_modify_iff, if_neg hj]
      rcases ih (ds.deleteOne j e) with h | ⟨hmem, h⟩
      · exact .inl (h.trans hrow)
      · rw [hrow] at h
        exact .inr ⟨List.mem_cons_of_mem _ hmem, h⟩

theorem getElem?_addOne (ds : Documents) (p : DocumentPayload) (i : UUID) :
    (ds.addOne p)[i]? = if p.dataId = i then some (FakeDocument.add p ds[i]?) else ds[i]? := by
  rw [addOne, Std.ExtTreeMap.getElem?_insert]
  by_cases h : p.dataId = i
  · rw [if_pos (compare_eq_iff_eq.2 h), if_pos h, h]
  · rw [if_neg (mt compare_eq_iff_eq.1 h), if_neg h]

/-- Adding payloads of different documents adds each of them once. -/
theorem getElem?_addAll_cases {ps : List DocumentPayload}
    (hps : (ps.map DocumentPayload.dataId).Nodup) (ds : Documents) (i : UUID) :
    (∃ p ∈ ps, p.dataId = i ∧ (ds.addAll ps)[i]? = some (FakeDocument.add p ds[i]?)) ∨
      (∀ p ∈ ps, p.dataId ≠ i) ∧ (ds.addAll ps)[i]? = ds[i]? := by
  unfold addAll
  induction ps generalizing ds with
  | nil => exact .inr ⟨fun _ h => absurd h List.not_mem_nil, rfl⟩
  | cons p ps ih =>
    rw [List.map_cons, List.nodup_cons] at hps
    rw [List.foldl_cons]
    have hrow := getElem?_addOne ds p i
    by_cases hp : p.dataId = i
    · -- No later payload is for `i`.
      rw [if_pos hp] at hrow
      rcases ih hps.2 (ds.addOne p) with ⟨q, hq, hqi, -⟩ | ⟨-, h⟩
      · exact absurd (List.mem_map.2 ⟨q, hq, hqi.trans hp.symm⟩) hps.1
      · exact .inl ⟨p, List.mem_cons_self, hp, h.trans hrow⟩
    · rw [if_neg hp] at hrow
      rcases ih hps.2 (ds.addOne p) with ⟨q, hq, hqi, h⟩ | ⟨hne, h⟩
      · exact .inl ⟨q, List.mem_cons_of_mem _ hq, hqi, by rw [h, hrow]⟩
      · exact .inr ⟨List.forall_mem_cons.2 ⟨hp, hne⟩, h.trans hrow⟩

end Documents

/-! ## Writing to a dataset -/

namespace FakeCogneeRuntime

/-- The row of a document in a dataset. -/
def row (s : FakeCogneeRuntime) (k : TenantName) (i : UUID) : Option FakeDocument :=
  s.datasets[k]?.bind fun d => d.documents[i]?

/-- A dataset without its rows. -/
def header (s : FakeCogneeRuntime) (k : TenantName) : Option FakeDataset :=
  s.datasets[k]?.map fun d => { d with documents := ∅ }

theorem row_eq (s : FakeCogneeRuntime) (k : TenantName) (i : UUID) :
    s.row k i = s.datasets[k]?.bind fun d => d.documents[i]? := rfl

theorem header_eq (s : FakeCogneeRuntime) (k : TenantName) :
    s.header k = s.datasets[k]?.map fun d => { d with documents := ∅ } := rfl

/-- The row of a document is what the inspection helper finds. -/
theorem row_keyOf (s : FakeCogneeRuntime) (handle : DatasetHandle) (i : UUID) :
    s.row (keyOf handle) i = s.document handle.tenant handle.name i := rfl

/-- The header and the rows of a dataset are all of it. -/
theorem dataset_ext {s s' : FakeCogneeRuntime} {k : TenantName}
    (hheader : s'.header k = s.header k) (hrow : ∀ i, s'.row k i = s.row k i) :
    s'.datasets[k]? = s.datasets[k]? := by
  simp only [row_eq, header_eq] at hheader hrow
  cases h : s.datasets[k]? with
  | none =>
    cases h' : s'.datasets[k]? with
    | none => rfl
    | some d' => simp [h, h'] at hheader
  | some d =>
    cases h' : s'.datasets[k]? with
    | none => simp [h, h'] at hheader
    | some d' =>
      simp only [h, h', Option.bind_some, Option.map_some, Option.some.injEq] at hheader hrow
      have hdocs : d'.documents = d.documents := Std.ExtTreeMap.ext_getElem? hrow
      obtain ⟨id, name, tenant, docs⟩ := d
      obtain ⟨id', name', tenant', docs'⟩ := d'
      cases hdocs
      cases hheader
      rfl

/-- What a change of the store from `s` to `s'` does to a dataset:
    `H` to its header, `R` to its rows. The other datasets stay the same. -/
structure Writes (k : TenantName) (H : Option FakeDataset → Option FakeDataset → Prop)
    (R : UUID → Option FakeDocument → Option FakeDocument → Prop) (s s' : FakeCogneeRuntime) :
    Prop where
  scope : s'.identityScope = s.identityScope
  elsewhere : ∀ l, l ≠ k → s'.datasets[l]? = s.datasets[l]?
  header : H (s.header k) (s'.header k)
  row : ∀ i, R i (s.row k i) (s'.row k i)

namespace Writes

variable {k : TenantName} {H H' : Option FakeDataset → Option FakeDataset → Prop}
  {R R' : UUID → Option FakeDocument → Option FakeDocument → Prop} {s s' s'' : FakeCogneeRuntime}

theorem mono (h : Writes k H R s s') (hH : ∀ o o', H o o' → H' o o')
    (hR : ∀ i d d', R i d d' → R' i d d') : Writes k H' R' s s' :=
  ⟨h.scope, h.elsewhere, hH _ _ h.header, fun i => hR i _ _ (h.row i)⟩

/-- One change after the other. -/
theorem trans (h : Writes k H R s s') (h' : Writes k H' R' s' s'') :
    Writes k (fun o o'' => ∃ o', H o o' ∧ H' o' o'')
      (fun i d d'' => ∃ d', R i d d' ∧ R' i d' d'') s s'' :=
  ⟨h'.scope.trans h.scope, fun l hl => (h'.elsewhere l hl).trans (h.elsewhere l hl),
    ⟨_, h.header, h'.header⟩, fun i => ⟨_, h.row i, h'.row i⟩⟩

/-- The log is not part of the store. -/
theorem of_datasets_eq (hscope : s'.identityScope = s.identityScope)
    (h : s'.datasets = s.datasets) (hH : ∀ o, H o o) (hR : ∀ i d, R i d d) :
    Writes k H R s s' := by
  have hheader : s'.header k = s.header k := by rw [header_eq, header_eq, h]
  have hrow : ∀ i, s'.row k i = s.row k i := fun i => by rw [row_eq, row_eq, h]
  exact ⟨hscope, fun l _ => by rw [h], hheader ▸ hH _, fun i => hrow i ▸ hR i _⟩

theorem refl (hH : ∀ o, H o o) (hR : ∀ i d, R i d d) : Writes k H R s s :=
  of_datasets_eq rfl rfl hH hR

/-- Changing the rows of a dataset. -/
theorem modifyRows {handle : DatasetHandle} {f : Documents → Documents}
    (hscope : s'.identityScope = s.identityScope)
    (h : s'.datasets = (s.modifyRows handle f).datasets)
    (hR : ∀ (ds : Documents) i, R i ds[i]? (f ds)[i]?) (hnone : ∀ i, R i none none) :
    Writes (keyOf handle) Eq R s s' := by
  have hat : s'.datasets[keyOf handle]? = s.datasets[keyOf handle]?.map fun d =>
      { d with documents := f d.documents } := by
    rw [h, FakeCogneeRuntime.modifyRows, Std.ExtTreeMap.getElem?_modify_self]
  refine ⟨hscope, fun l hl => ?_, ?_, fun i => ?_⟩
  · rw [h, FakeCogneeRuntime.modifyRows, Std.ExtTreeMap.getElem?_modify,
      if_neg (mt compare_eq_iff_eq.1 (Ne.symm hl))]
  · rw [header_eq, header_eq, hat, Option.map_map]
    rfl
  · rw [row_eq, row_eq, hat]
    cases s.datasets[keyOf handle]? with
    | none => exact hnone i
    | some d => exact hR d.documents i

end Writes

/-! ## The rules of the calls -/

/-- The answers of the in-memory runtime: with any fault, or without. -/
abbrev Answers : (c : RuntimeCall) → FakeCogneeRuntime → Except PyError c.Response →
    FakeCogneeRuntime → Prop :=
  Coroutine.Scripted perform

section Rules

open Coroutine

variable {handle : DatasetHandle} {s : FakeCogneeRuntime}
  {E : PyError → FakeCogneeRuntime → Prop}

/-- Nothing happens to a row. -/
abbrev Untouched : UUID → Option FakeDocument → Option FakeDocument → Prop := fun _ d d' => d' = d

theorem wp_lockEnter {Q : Unit → FakeCogneeRuntime → Prop}
    (hok : ∀ s', Writes (keyOf handle) Eq Untouched s s' →
      s.identityScope = handle.identityScope → Q () s')
    (herr : ∀ e s', Writes (keyOf handle) Eq Untouched s s' → E e s') :
    wp Answers (await (.lockEnter handle)) Q E s := by
  refine wp_call.2 ⟨?_, ?_⟩
  · rintro ⟨⟩ s' ⟨f, hf⟩
    simp only [perform, lockEnter, validateHandle] at hf
    split_ifs at hf with hscope
    · rcases f with _ | f
      · cases hf
        exact hok _ (.of_datasets_eq rfl rfl (fun _ => rfl) fun _ _ => rfl) hscope.symm
      · cases hf
    · cases hf
  · rintro e s' ⟨f, hf⟩
    simp only [perform, lockEnter, validateHandle] at hf
    split_ifs at hf
    · rcases f with _ | f <;> cases hf
      exact herr _ _ (.refl (fun _ => rfl) fun _ _ => rfl)
    · cases hf
      exact herr _ _ (.refl (fun _ => rfl) fun _ _ => rfl)

theorem wp_lockExit {Q : Unit → FakeCogneeRuntime → Prop}
    (hok : ∀ s', Writes (keyOf handle) Eq Untouched s s' → Q () s') :
    wp Answers (await (.lockExit handle)) Q E s := by
  refine wp_call.2 ⟨?_, ?_⟩
  · rintro ⟨⟩ s' ⟨f, hf⟩
    cases hf
    exact hok _ (.of_datasets_eq rfl rfl (fun _ => rfl) fun _ _ => rfl)
  · rintro e s' ⟨f, hf⟩
    cases hf

/-- A call on the rows of a dataset: `all` is done to them, or where a fault
    strikes a `part` of it, or nothing. -/
theorem wp_rowCall {c : RuntimeCall} {v : c.Response} {op : String} {detail : List String}
    {all : Documents → Documents} (part : List ItemEffect → Documents → Documents)
    {R R' : UUID → Option FakeDocument → Option FakeDocument → Prop}
    {Q : c.Response → FakeCogneeRuntime → Prop}
    (hc : ∀ f, perform f c s = match s.validateHandle handle with
      | .error e => (.error e, s)
      | .ok () => match f with
        | some ⟨e, none⟩ => (.error e, s)
        | some ⟨e, some effects⟩ =>
          (.error e, (s.log op handle detail).modifyRows handle (part effects))
        | none => (.ok v, (s.log op handle detail).modifyRows handle all))
    (hall : ∀ (ds : Documents) i, R i ds[i]? (all ds)[i]?) (hnone : ∀ i, R i none none)
    (hpart : ∀ effects (ds : Documents) i, R' i ds[i]? (part effects ds)[i]?)
    (hrefl : ∀ i d, R' i d d)
    (hok : ∀ s', Writes (keyOf handle) Eq R s s' → Q v s')
    (herr : ∀ e s', Writes (keyOf handle) Eq R' s s' → E e s') : wp Answers (await c) Q E s := by
  refine wp_call.2 ⟨?_, ?_⟩
  · rintro _ s' ⟨f, hf⟩
    rw [hc] at hf
    cases hvalid : s.validateHandle handle with
    | error e =>
      rw [hvalid] at hf
      cases hf
    | ok u =>
      rw [hvalid] at hf
      rcases f with _ | ⟨e, _ | effects⟩ <;> cases hf
      exact hok _ (.modifyRows rfl rfl hall hnone)
  · rintro e s' ⟨f, hf⟩
    rw [hc] at hf
    cases hvalid : s.validateHandle handle with
    | error e =>
      rw [hvalid] at hf
      cases hf
      exact herr _ _ (.refl (fun _ => rfl) hrefl)
    | ok u =>
      rw [hvalid] at hf
      rcases f with _ | ⟨e, _ | effects⟩ <;> cases hf
      · exact herr _ _ (.refl (fun _ => rfl) hrefl)
      -- The fault strikes after the first ones of the items.
      · exact herr _ _ (.modifyRows rfl rfl (hpart effects) fun i => hrefl i none)

theorem wp_purgeDocumentMemory {ids : List UUID} {Q : Unit → FakeCogneeRuntime → Prop}
    (hok : ∀ s', Writes (keyOf handle) Eq
      (fun i d d' => d' = if i ∈ ids then d.map FakeDocument.purge else d) s s' → Q () s')
    (herr : ∀ e s', Writes (keyOf handle) Eq
      (fun i d d' => d' = d ∨ i ∈ ids ∧ d' = d.map FakeDocument.purge) s s' → E e s') :
    wp Answers (await (.purgeDocumentMemory handle ids)) Q E s := by
  refine wp_rowCall (v := ()) (fun effects ds => ds.purgeAll (ids.take effects.length))
    (fun f => rfl) (fun ds i => ds.getElem?_purgeAll ids i) (fun i => ?_) (fun effects ds i => ?_)
    (fun _ _ => .inl rfl) hok herr
  · rw [Option.map_none, ite_self]
  · rw [Documents.getElem?_purgeAll]
    split_ifs with h
    · exact .inr ⟨List.mem_of_mem_take h, rfl⟩
    · exact .inl rfl

theorem wp_deleteDocuments {ids : List UUID} {Q : Unit → FakeCogneeRuntime → Prop}
    (hok : ∀ s', Writes (keyOf handle) Eq
      (fun i d d' => d' = if i ∈ ids then none else d) s s' → Q () s')
    (herr : ∀ e s', Writes (keyOf handle) Eq (fun i d d' =>
      d' = d ∨ i ∈ ids ∧ (d' = none ∨ d' = d.map FakeDocument.tear)) s s' → E e s') :
    wp Answers (await (.deleteDocuments handle ids)) Q E s := by
  refine wp_rowCall (v := ()) (fun effects ds => ds.deleteAll (ids.zip effects))
    (fun f => rfl) (fun ds i => ds.getElem?_deleteAll_done ids i) (fun i => (ite_self _).symm)
    (fun effects ds i => ?_) (fun _ _ => .inl rfl) hok herr
  refine (ds.getElem?_deleteAll_cases (ids.zip effects) i).imp_right fun h => ⟨?_, h.2⟩
  obtain ⟨⟨j, e⟩, hj, rfl⟩ := List.mem_map.1 h.1
  exact (List.of_mem_zip hj).1

theorem wp_cognifyDataset {profile : CognifyProfile} {Q : Unit → FakeCogneeRuntime → Prop}
    (hok : ∀ s', Writes (keyOf handle) Eq
      (fun _ d d' => d' = d.map (FakeDocument.cognify profile)) s s' → Q () s')
    (herr : ∀ e s', Writes (keyOf handle) Eq
      (fun _ d d' => d' = d ∨ d' = d.map (FakeDocument.cognify profile)) s s' → E e s') :
    wp Answers (await (.cognifyDataset handle profile)) Q E s := by
  refine wp_rowCall (v := ())
    (fun effects ds => ds.cognifyAll profile (ds.keys.take effects.length)) (fun f => rfl)
    (fun ds i => ?_) (fun i => ?_) (fun effects ds i => ?_) (fun _ _ => .inl rfl) hok herr
  · show (ds.cognifyAll profile ds.keys)[i]? = _
    rw [Documents.getElem?_cognifyAll]
    split_ifs with h
    · rfl
    · rw [Std.ExtTreeMap.mem_keys, Std.ExtTreeMap.mem_iff_isSome_getElem?] at h
      rw [Option.not_isSome_iff_eq_none.1 h, Option.map_none]
  · rfl
  · rw [Documents.getElem?_cognifyAll]
    split_ifs with h
    · exact .inr rfl
    · exact .inl rfl

/-- The dataset exists afterwards; if it did before, it is the same. -/
def Materializes (handle : DatasetHandle) (o o' : Option FakeDataset) : Prop :=
  o' = some (o.getD (freshDataset handle))

/-- Adding payloads to the dataset of a handle, which is materialized. -/
theorem writes_addAll {s' : FakeCogneeRuntime} {ps : List DocumentPayload}
    (hps : (ps.map DocumentPayload.dataId).Nodup) (hscope : s'.identityScope = s.identityScope)
    (h : s'.datasets = s.datasets.insert (keyOf handle)
      { s.ensureDataset handle with documents := (s.ensureDataset handle).documents.addAll ps }) :
    Writes (keyOf handle) (Materializes handle) (fun i d d' =>
      (∃ p ∈ ps, p.dataId = i ∧ d' = some (FakeDocument.add p d)) ∨
        (∀ p ∈ ps, p.dataId ≠ i) ∧ d' = d) s s' := by
  have hat : s'.datasets[keyOf handle]? = some
      { s.ensureDataset handle with
        documents := (s.ensureDataset handle).documents.addAll ps } := by
    rw [h, Std.ExtTreeMap.getElem?_insert_self]
  have hrow : ∀ i, s.row (keyOf handle) i = (s.ensureDataset handle).documents[i]? := fun i => by
    rw [row_eq, ensureDataset]
    cases s.datasets[keyOf handle]? with
    | none => exact (Std.ExtTreeMap.getElem?_empty).symm
    | some d => rfl
  refine ⟨hscope, fun k hk => ?_, ?_, fun i => ?_⟩
  · rw [h, Std.ExtTreeMap.getElem?_insert, if_neg (mt compare_eq_iff_eq.1 (Ne.symm hk))]
  · rw [Materializes, header_eq, header_eq, hat, ensureDataset]
    cases s.datasets[keyOf handle]? <;> rfl
  · rw [hrow, row_eq, hat]
    exact Documents.getElem?_addAll_cases hps _ i

theorem wp_addDocuments {ps : List DocumentPayload} (hne : ps ≠ [])
    (hps : (ps.map DocumentPayload.dataId).Nodup) {Q : DatasetHandle → FakeCogneeRuntime → Prop}
    (hok : ∀ s' datasetId, Writes (keyOf handle) (Materializes handle) (fun i d d' =>
      (∃ p ∈ ps, p.dataId = i ∧ d' = some (FakeDocument.add p d)) ∨
        (∀ p ∈ ps, p.dataId ≠ i) ∧ d' = d) s s' → Q { handle with datasetId } s')
    (herr : ∀ e s', Writes (keyOf handle) (fun o o' => o' = o ∨ Materializes handle o o')
      (fun i d d' => d' = d ∨ ∃ p ∈ ps, p.dataId = i ∧ d' = some (FakeDocument.add p d)) s s' →
        E e s') :
    wp Answers (await (.addDocuments handle ps)) Q E s := by
  refine wp_call.2 ⟨?_, ?_⟩
  · rintro v s' ⟨f, hf⟩
    simp only [perform, addDocuments, validateHandle, List.isEmpty_iff, if_neg hne] at hf
    split_ifs at hf
    · rcases f with _ | ⟨e, _ | effects⟩ <;> cases hf
      exact hok _ _ (writes_addAll hps rfl rfl)
    · cases hf
  · rintro e s' ⟨f, hf⟩
    simp only [perform, addDocuments, validateHandle, List.isEmpty_iff, if_neg hne] at hf
    split_ifs at hf
    · rcases f with _ | ⟨e, _ | effects⟩ <;> cases hf
      · exact herr _ _ (.refl (fun _ => .inl rfl) fun _ _ => .inl rfl)
      · have htake : ((ps.take effects.length).map DocumentPayload.dataId).Nodup :=
          hps.sublist ((List.take_sublist _ _).map _)
        refine herr _ _ (.mono (writes_addAll htake rfl rfl) (fun _ _ h => Or.inr h) ?_)
        rintro i d d' (⟨p, hp, hpi, hd⟩ | ⟨-, hd⟩)
        · exact .inr ⟨p, List.mem_of_mem_take hp, hpi, hd⟩
        · exact .inl hd
    · cases hf
      exact herr _ _ (.refl (fun _ => .inl rfl) fun _ _ => .inl rfl)

end Rules

end FakeCogneeRuntime

end Cogindex
