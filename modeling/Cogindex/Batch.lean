import Cogindex.Target
import Cogindex.Rows

/-!
# Batches

What applying a batch of actions does to each row of the dataset. The four
phases are functions of a row (`Batch.deleteRow`, `purgeRow`, `addRow`,
`cognifyRow`), and `Batch.effect` is one after the other. A batch that is
interrupted leaves a row in one of the states of `Batch.Cut`.

* `Batch.collect_collected`: which ids a list of actions deletes, purges,
  recreates and writes;
* `wp_apply`: a batch that returns has its effect on each row, and one that
  raises has cut it;
* `Batch.effect_of_cut`: the effect of a batch absorbs what an interrupted
  attempt at it left behind.
-/

namespace Cogindex

open Coroutine FakeCogneeRuntime

variable [Platform]

theorem mem_ordered {ids : Finset UUID} {i : UUID} : i ∈ ordered ids ↔ i ∈ ids :=
  Finset.mem_sort _

namespace Batch

/-! ## Collecting actions -/

/-- What a list of actions asks for, before the conflicts are resolved. -/
structure Collected (actions : List DocumentAction) (b : Batch) : Prop where
  deleteIds : ∀ i, i ∈ b.deleteIds ↔
    ∃ a ∈ actions, i ∈ a.staleDataIds ∨ a.op = .delete ∧ a.dataId = i
  purgeIds : ∀ i, i ∈ b.purgeIds ↔ ∃ a ∈ actions, a.op = .replace ∧ a.dataId = i
  recreateIds : ∀ i, i ∈ b.recreateIds ↔ ∃ a ∈ actions, a.op = .recreate ∧ a.dataId = i
  written : ∀ i, i ∈ b.payloads ↔ ∃ a ∈ actions, a.op ≠ .delete ∧ a.dataId = i
  payloads : ∀ i p, b.payloads[i]? = some p →
    ∃ a ∈ actions, a.op ≠ .delete ∧ a.dataId = i ∧ a.payload = some p
  needsCognify : b.needsCognify = true ↔
    ∃ a ∈ actions, a.op = .upsert ∨ a.op = .replace ∨ a.op = .recreate

theorem Collected.nil : Collected [] {} := by
  constructor <;> simp

theorem Collected.add {actions : List DocumentAction} {b b' : Batch} {a : DocumentAction}
    (h : Collected actions b) (hb : b.add a = .ok b') : Collected (actions ++ [a]) b' := by
  have hex : ∀ {P : DocumentAction → Prop}, (∃ x ∈ actions ++ [a], P x) ↔
      (∃ x ∈ actions, P x) ∨ P a := fun {P} => by
    simp only [List.mem_append, List.mem_singleton, or_and_right, exists_or, exists_eq_left]
  -- A delete only extends the ids to delete; any other action needs its payload.
  by_cases hop : a.op = .delete
  · rw [Batch.add, if_pos hop] at hb
    cases hb
    constructor
    all_goals simp only [hex]
    · intro i
      rw [Finset.mem_insert, Finset.mem_union, List.mem_toFinset, h.deleteIds, @eq_comm _ i]
      simp only [hop, true_and]
      rw [or_comm, or_assoc]
    · exact fun i => by rw [h.purgeIds]; simp [hop]
    · exact fun i => by rw [h.recreateIds]; simp [hop]
    · exact fun i => by rw [h.written]; simp [hop]
    · exact fun i p hp => .inl (h.payloads i p hp)
    · rw [h.needsCognify]; simp [hop]
  · rw [Batch.add, if_neg hop] at hb
    cases hpay : a.payload with
    | none => rw [hpay] at hb; cases hb
    | some p =>
      rw [hpay] at hb
      cases hb
      constructor
      all_goals simp only [hex]
      · intro i
        rw [Finset.mem_union, List.mem_toFinset, h.deleteIds]
        simp only [hop, false_and, or_false]
      · intro i
        split_ifs with hr
        · rw [Finset.mem_insert, h.purgeIds, @eq_comm _ i, or_comm]
          simp only [hr, true_and]
        · rw [h.purgeIds]; simp [hr]
      · intro i
        split_ifs with hr
        · rw [Finset.mem_insert, h.recreateIds, @eq_comm _ i, or_comm]
          simp only [hr, true_and]
        · rw [h.recreateIds]; simp [hr]
      · intro i
        rw [Std.ExtTreeMap.mem_insert, compare_eq_iff_eq, h.written]
        simp only [ne_eq, hop, not_false_eq_true, true_and]
        exact or_comm
      · intro i q hq
        rw [Std.ExtTreeMap.getElem?_insert] at hq
        split_ifs at hq with hi
        · cases hq
          exact .inr ⟨hop, compare_eq_iff_eq.1 hi, hpay⟩
        · exact .inl (h.payloads i q hq)
      · rw [Bool.or_eq_true, decide_eq_true_iff, h.needsCognify]

theorem Collected.of_foldlM {actions : List DocumentAction} {b : Batch}
    (h : actions.foldlM Batch.add {} = .ok b) : Collected actions b := by
  induction actions using List.reverseRecOn generalizing b with
  | nil => cases h; exact .nil
  | append_singleton actions a ih =>
    rw [List.foldlM_append, bind_eq_ok] at h
    obtain ⟨b', hb', h⟩ := h
    rw [List.foldlM_cons, bind_eq_ok] at h
    obtain ⟨b'', hb'', h⟩ := h
    cases h
    exact (ih hb').add hb''

/-- A batch is collected from actions, and its conflicts are resolved. -/
theorem collect_eq_ok {actions : List DocumentAction} {b : Batch} (h : collect actions = .ok b) :
    ∃ b', Collected actions b' ∧ b'.finish = b := by
  rw [collect, bind_eq_ok] at h
  obtain ⟨b', hb', h⟩ := h
  exact ⟨b', .of_foldlM hb', pure_eq_ok.1 h⟩

/-- Actions with payloads can be collected. -/
theorem exists_collect {actions : List DocumentAction}
    (h : ∀ a ∈ actions, a.op ≠ .delete → a.payload.isSome) : ∃ b, collect actions = .ok b := by
  have hfold : ∀ (as : List DocumentAction) (b : Batch),
      (∀ a ∈ as, a.op ≠ .delete → a.payload.isSome) → ∃ b', as.foldlM Batch.add b = .ok b' := by
    intro as
    induction as with
    | nil => exact fun b _ => ⟨b, rfl⟩
    | cons a as ih =>
      intro b h
      have hadd : ∃ b', b.add a = .ok b' := by
        by_cases hop : a.op = .delete
        · rw [Batch.add, if_pos hop]
          exact ⟨_, rfl⟩
        · obtain ⟨p, hp⟩ := Option.isSome_iff_exists.1 (h a List.mem_cons_self hop)
          rw [Batch.add, if_neg hop, hp]
          exact ⟨_, rfl⟩
      obtain ⟨b', hb'⟩ := hadd
      obtain ⟨b'', hb''⟩ := ih b' fun x hx => h x (List.mem_cons_of_mem _ hx)
      exact ⟨b'', by rw [List.foldlM_cons, bind_eq_ok]; exact ⟨b', hb', hb''⟩⟩
  obtain ⟨b, hb⟩ := hfold actions {} h
  exact ⟨b.finish, by rw [collect, bind_eq_ok]; exact ⟨b, hb, rfl⟩⟩

/-- What the phases rely on: payloads are those of the ids they are written
    under, and every purge comes with a write and a cognify. -/
structure Sound (b : Batch) : Prop where
  own : ∀ (i : UUID) (p : DocumentPayload), b.payloads[i]? = some p → p.dataId = i
  written : ∀ i ∈ b.purgeIds, i ∈ b.payloads
  derives : ∀ i ∈ b.purgeIds, b.needsCognify = true

/-- Every action but a delete has a payload for its own id. -/
def Complete (actions : List DocumentAction) : Prop :=
  ∀ a ∈ actions, a.op ≠ .delete → ∃ p, a.payload = some p ∧ p.dataId = a.dataId

theorem sound_of_collect {actions : List DocumentAction} (hc : Complete actions) {b : Batch}
    (h : collect actions = .ok b) : b.Sound := by
  obtain ⟨b, hb, rfl⟩ := collect_eq_ok h
  refine ⟨fun i p hp => ?_, fun i hi => ?_, fun i hi => ?_⟩
  · obtain ⟨a, ha, hop, rfl, hpay⟩ := hb.payloads i p hp
    obtain ⟨q, hq, hqi⟩ := hc a ha hop
    rw [hpay] at hq
    exact Option.some.inj hq ▸ hqi
  · obtain ⟨a, ha, hop, hai⟩ := (hb.purgeIds i).1 (Finset.mem_sdiff.1 hi).1
    exact (hb.written i).2 ⟨a, ha, by rw [hop]; decide, hai⟩
  · obtain ⟨a, ha, hop, -⟩ := (hb.purgeIds i).1 (Finset.mem_sdiff.1 hi).1
    exact hb.needsCognify.2 ⟨a, ha, .inr (.inl hop)⟩

/-! ## Phases -/

/-- The row `d` of `i` after the deletes. -/
def deleteRow (b : Batch) (i : UUID) (d : Option FakeDocument) : Option FakeDocument :=
  if i ∈ b.deleteIds then none else d

/-- The row after the purges. -/
def purgeRow (b : Batch) (i : UUID) (d : Option FakeDocument) : Option FakeDocument :=
  if i ∈ b.purgeIds then d.map FakeDocument.purge else d

/-- The row after the add. -/
def addRow (b : Batch) (i : UUID) (d : Option FakeDocument) : Option FakeDocument :=
  match b.payloads[i]? with
  | some p => some (FakeDocument.add p d)
  | none => d

/-- The row after the cognify. -/
def cognifyRow (b : Batch) (profile : CognifyProfile) (d : Option FakeDocument) :
    Option FakeDocument :=
  if b.needsCognify then d.map (FakeDocument.cognify profile) else d

/-- The row after all phases. -/
def effect (b : Batch) (profile : CognifyProfile) (i : UUID) (d : Option FakeDocument) :
    Option FakeDocument :=
  b.cognifyRow profile (b.addRow i (b.purgeRow i (b.deleteRow i d)))

@[simp] theorem deleteRow_none (b : Batch) (i : UUID) : b.deleteRow i none = none := ite_self _

@[simp] theorem purgeRow_none (b : Batch) (i : UUID) : b.purgeRow i none = none := ite_self _

@[simp] theorem cognifyRow_none (b : Batch) (profile : CognifyProfile) :
    b.cognifyRow profile none = none := ite_self _

/-- What an interrupted batch may leave of the row `d` of `i`. -/
inductive Cut (b : Batch) (profile : CognifyProfile) (i : UUID) (d : Option FakeDocument) :
    Option FakeDocument → Prop
  | before : b.Cut profile i d d
  | torn : i ∈ b.deleteIds → b.Cut profile i d (d.map FakeDocument.tear)
  | deleted : b.Cut profile i d (b.deleteRow i d)
  | purged : b.Cut profile i d (b.purgeRow i (b.deleteRow i d))
  | added : b.Cut profile i d (b.addRow i (b.purgeRow i (b.deleteRow i d)))
  | cognified : b.Cut profile i d (b.effect profile i d)

/-- What a batch does to the dataset itself: an add materializes it. -/
def headerEffect (b : Batch) (handle : DatasetHandle) (o o' : Option FakeDataset) : Prop :=
  if b.payloads.isEmpty then o' = o else Materializes handle o o'

/-- What an interrupted batch may do to it. -/
def headerCut (b : Batch) (handle : DatasetHandle) (o o' : Option FakeDataset) : Prop :=
  o' = o ∨ b.headerEffect handle o o'

theorem mem_orderedPayloads {b : Batch} {p : DocumentPayload} :
    p ∈ b.orderedPayloads ↔ ∃ i : UUID, b.payloads[i]? = some p := by
  rw [orderedPayloads, List.mem_map]
  constructor
  · rintro ⟨⟨i, q⟩, hq, rfl⟩
    exact ⟨i, Std.ExtTreeMap.mem_toList_iff_getElem?_eq_some.1 hq⟩
  · rintro ⟨i, hp⟩
    exact ⟨(i, p), Std.ExtTreeMap.mem_toList_iff_getElem?_eq_some.2 hp, rfl⟩

theorem Sound.orderedPayloads_nodup {b : Batch} (h : b.Sound) :
    (b.orderedPayloads.map DocumentPayload.dataId).Nodup := by
  have heq : b.orderedPayloads.map DocumentPayload.dataId = b.payloads.keys := by
    rw [← Std.ExtTreeMap.map_fst_toList_eq_keys, orderedPayloads, List.map_map]
    refine List.map_congr_left fun e he => ?_
    exact h.own e.1 e.2 (Std.ExtTreeMap.mem_toList_iff_getElem?_eq_some.1 he)
  rw [heq]
  exact Std.ExtTreeMap.nodup_keys

/-- The row of a document in the payloads, or not. -/
theorem Sound.addRow_eq {b : Batch} (h : b.Sound) {i : UUID} {d d' : Option FakeDocument}
    (hd : (∃ p ∈ b.orderedPayloads, p.dataId = i ∧ d' = some (FakeDocument.add p d)) ∨
      (∀ p ∈ b.orderedPayloads, p.dataId ≠ i) ∧ d' = d) : d' = b.addRow i d := by
  rw [addRow]
  cases hp : b.payloads[i]? with
  -- The payload that was added for `i` is the one of `i`, since keys are their own ids.
  | some p =>
    rcases hd with ⟨q, hq, hqi, rfl⟩ | ⟨hne, -⟩
    · obtain ⟨j, hj⟩ := mem_orderedPayloads.1 hq
      obtain rfl := (h.own j q hj).symm.trans hqi
      rw [hp] at hj
      rw [Option.some.inj hj]
    · exact absurd (h.own i p hp) (hne p (mem_orderedPayloads.2 ⟨i, hp⟩))
  | none =>
    rcases hd with ⟨q, hq, hqi, -⟩ | ⟨-, hd⟩
    · obtain ⟨j, hj⟩ := mem_orderedPayloads.1 hq
      obtain rfl := (h.own j q hj).symm.trans hqi
      rw [hp] at hj
      cases hj
    · exact hd

end Batch

/-! ## The rule of a batch -/

section Rules

variable {h : DocumentHandler} {b : Batch} {s : FakeCogneeRuntime}
  {E : PyError → FakeCogneeRuntime → Prop}

theorem wp_deletePhase {Q : Unit → FakeCogneeRuntime → Prop}
    (hok : ∀ s', Writes (keyOf h.handle) Eq (fun i d d' => d' = b.deleteRow i d) s s' → Q () s')
    (herr : ∀ e s', Writes (keyOf h.handle) Eq (fun i d d' => b.Cut h.profile i d d') s s' →
      E e s') : wp Answers (h.deletePhase b) Q E s := by
  rw [DocumentHandler.deletePhase]
  by_cases hne : b.deleteIds.Nonempty
  · rw [if_pos hne]
    refine wp_deleteDocuments (fun s' hs' => hok s' (hs'.mono (fun _ _ => id) ?_))
      fun e s' hs' => herr e s' (hs'.mono (fun _ _ => id) ?_)
    · rintro i d d' rfl
      simp only [mem_ordered, Batch.deleteRow]
    · rintro i d d' (rfl | ⟨hi, rfl | rfl⟩)
      · exact .before
      · have hdel : b.deleteRow i d = none := if_pos (mem_ordered.1 hi)
        exact hdel ▸ .deleted
      · exact .torn (mem_ordered.1 hi)
  -- A phase without ids makes no call.
  · rw [if_neg hne]
    rw [Finset.not_nonempty_iff_eq_empty] at hne
    refine hok s (.refl (fun _ => rfl) fun i d => ?_)
    rw [Batch.deleteRow, hne, if_neg (Finset.notMem_empty i)]

theorem wp_purgePhase {Q : Unit → FakeCogneeRuntime → Prop}
    (hok : ∀ s', Writes (keyOf h.handle) Eq (fun i d d' => d' = b.purgeRow i d) s s' → Q () s')
    (herr : ∀ e s', Writes (keyOf h.handle) Eq (fun i d d' => d' = d ∨ d' = b.purgeRow i d) s s' →
      E e s') : wp Answers (h.purgePhase b) Q E s := by
  rw [DocumentHandler.purgePhase]
  by_cases hne : b.purgeIds.Nonempty
  · rw [if_pos hne]
    refine wp_purgeDocumentMemory (fun s' hs' => hok s' (hs'.mono (fun _ _ => id) ?_))
      fun e s' hs' => herr e s' (hs'.mono (fun _ _ => id) ?_)
    · rintro i d d' rfl
      simp only [mem_ordered, Batch.purgeRow]
    · rintro i d d' (rfl | ⟨hi, rfl⟩)
      · exact .inl rfl
      · exact .inr (if_pos (mem_ordered.1 hi)).symm
  · rw [if_neg hne]
    rw [Finset.not_nonempty_iff_eq_empty] at hne
    refine hok s (.refl (fun _ => rfl) fun i d => ?_)
    rw [Batch.purgeRow, hne, if_neg (Finset.notMem_empty i)]

theorem wp_addPhase (hb : b.Sound) {Q : DatasetHandle → FakeCogneeRuntime → Prop}
    (hok : ∀ s' datasetId, Writes (keyOf h.handle) (b.headerEffect h.handle)
      (fun i d d' => d' = b.addRow i d) s s' → Q { h.handle with datasetId } s')
    (herr : ∀ e s', Writes (keyOf h.handle) (b.headerCut h.handle)
      (fun i d d' => d' = d ∨ d' = b.addRow i d) s s' → E e s') :
    wp Answers (h.addPhase b) Q E s := by
  rw [DocumentHandler.addPhase]
  by_cases hempty : b.payloads.isEmpty
  · rw [if_pos hempty]
    refine hok s h.handle.datasetId (.refl (fun _ => ?_) fun i d => ?_)
    · rw [Batch.headerEffect, if_pos hempty]
    · have hnone : b.payloads[i]? = none := by
        rw [Std.ExtTreeMap.isEmpty_iff.1 hempty, Std.ExtTreeMap.getElem?_empty]
      rw [Batch.addRow, hnone]
  · rw [if_neg hempty]
    have hne : b.orderedPayloads ≠ [] := by
      rwa [Batch.orderedPayloads, ne_eq, List.map_eq_nil_iff, Std.ExtTreeMap.toList_eq_nil_iff,
        ← Std.ExtTreeMap.isEmpty_iff]
    refine FakeCogneeRuntime.wp_addDocuments hne hb.orderedPayloads_nodup
      (fun s' datasetId hs' => hok s' datasetId (hs'.mono (fun o o' ho => ?_) ?_))
      fun e s' hs' => herr e s' (hs'.mono (fun o o' ho => ?_) ?_)
    · rwa [Batch.headerEffect, if_neg hempty]
    · exact fun i d d' hd => hb.addRow_eq hd
    · refine ho.imp_right fun ho => ?_
      rwa [Batch.headerEffect, if_neg hempty]
    · rintro i d d' (rfl | hd)
      · exact .inl rfl
      · exact .inr (hb.addRow_eq (.inl hd))

theorem wp_cognifyPhase {handle : DatasetHandle} (hkey : keyOf handle = keyOf h.handle)
    {Q : Unit → FakeCogneeRuntime → Prop}
    (hok : ∀ s', Writes (keyOf h.handle) Eq
      (fun _ d d' => d' = b.cognifyRow h.profile d) s s' → Q () s')
    (herr : ∀ e s', Writes (keyOf h.handle) Eq
      (fun _ d d' => d' = d ∨ d' = b.cognifyRow h.profile d) s s' → E e s') :
    wp Answers (h.cognifyPhase b handle) Q E s := by
  rw [DocumentHandler.cognifyPhase]
  by_cases hneeds : b.needsCognify
  · rw [if_pos hneeds]
    refine FakeCogneeRuntime.wp_cognifyDataset
      (fun s' hs' => hok s' (hkey ▸ hs'.mono (fun _ _ => id) ?_))
      fun e s' hs' => herr e s' (hkey ▸ hs'.mono (fun _ _ => id) ?_)
    · rintro i d d' rfl
      exact (if_pos hneeds).symm
    · rintro i d d' (rfl | rfl)
      · exact .inl rfl
      · exact .inr (if_pos hneeds).symm
  · rw [if_neg hneeds]
    exact hok s (.refl (fun _ => rfl) fun i d => (if_neg hneeds).symm)

/-- A batch that returns has its effect on every row of its dataset; one that
    raises has cut every row. -/
theorem wp_applyBatch (hb : b.Sound) {Q : Unit → FakeCogneeRuntime → Prop}
    (hok : ∀ s', Writes (keyOf h.handle) (b.headerEffect h.handle)
      (fun i d d' => d' = b.effect h.profile i d) s s' → Q () s')
    (herr : ∀ e s', Writes (keyOf h.handle) (b.headerCut h.handle)
      (fun i d d' => b.Cut h.profile i d d') s s' → E e s') :
    wp Answers (h.applyBatch b) Q E s := by
  -- The phases in their order; the cut of a row says which of them has reached it.
  rw [DocumentHandler.applyBatch, wp_bind]
  refine wp_deletePhase (fun s₁ h₁ => ?_) fun e s₁ h₁ =>
    herr e s₁ (h₁.mono (fun _ _ ho => .inl ho.symm) fun _ _ _ => id)
  rw [wp_bind]
  refine wp_purgePhase (fun s₂ h₂ => ?_) fun e s₂ h₂ => herr e s₂ ((h₁.trans h₂).mono ?_ ?_)
  · rw [wp_bind]
    refine wp_addPhase hb (fun s₃ datasetId h₃ => ?_) fun e s₃ h₃ =>
      herr e s₃ (((h₁.trans h₂).trans h₃).mono ?_ ?_)
    · have hkey : keyOf { h.handle with datasetId } = keyOf h.handle := rfl
      refine wp_cognifyPhase hkey (fun s₄ h₄ => hok s₄ ?_) fun e s₄ h₄ => herr e s₄ ?_
      · refine (((h₁.trans h₂).trans h₃).trans h₄).mono ?_ ?_
        · rintro o o' ⟨_, ⟨_, ⟨_, rfl, rfl⟩, ho⟩, rfl⟩
          exact ho
        · rintro i d d' ⟨_, ⟨_, ⟨_, rfl, rfl⟩, rfl⟩, rfl⟩
          rfl
      · refine (((h₁.trans h₂).trans h₃).trans h₄).mono ?_ ?_
        · rintro o o' ⟨_, ⟨_, ⟨_, rfl, rfl⟩, ho⟩, rfl⟩
          exact .inr ho
        · rintro i d d' ⟨_, ⟨_, ⟨_, rfl, rfl⟩, rfl⟩, rfl | rfl⟩
          exacts [.added, .cognified]
    · rintro o o' ⟨_, ⟨_, rfl, rfl⟩, ho⟩
      exact ho
    · rintro i d d' ⟨_, ⟨_, rfl, rfl⟩, rfl | rfl⟩
      exacts [.purged, .added]
  · rintro o o' ⟨_, rfl, rfl⟩
    exact .inl rfl
  · rintro i d d' ⟨_, rfl, rfl | rfl⟩
    exacts [.deleted, .purged]

/-- A batch under the lock of its dataset, if its actions can be collected. -/
theorem wp_apply {actions : List DocumentAction} (hb : Batch.collect actions = .ok b)
    (hsound : b.Sound) {Q : Unit → FakeCogneeRuntime → Prop}
    (hok : ∀ s', h.handle.identityScope = s.identityScope →
      Writes (keyOf h.handle) (b.headerEffect h.handle)
        (fun i d d' => d' = b.effect h.profile i d) s s' → Q () s')
    (herr : ∀ e s', Writes (keyOf h.handle) (b.headerCut h.handle)
      (fun i d d' => b.Cut h.profile i d d') s s' → E e s') :
    wp Answers (h.apply actions) Q E s := by
  rw [DocumentHandler.apply, hb]
  show wp Answers (withLock h.handle (h.applyBatch b)) Q E s
  rw [withLock, wp_bind]
  refine wp_lockEnter (fun s₁ h₁ hs => ?_) fun e s₁ h₁ => herr e s₁ (h₁.mono ?_ ?_)
  -- The lock is left whether the batch succeeds or not, and leaving it writes nothing.
  · rw [wp_finally]
    refine wp_applyBatch hsound (fun s₂ h₂ => ?_) fun e s₂ h₂ => ?_
    · refine wp_lockExit fun s₃ h₃ => hok s₃ hs.symm (((h₁.trans h₂).trans h₃).mono ?_ ?_)
      · rintro o o' ⟨_, ⟨_, rfl, ho⟩, rfl⟩
        exact ho
      · rintro i d d' ⟨_, ⟨_, rfl, rfl⟩, rfl⟩
        rfl
    · refine wp_lockExit fun s₃ h₃ => herr e s₃ (((h₁.trans h₂).trans h₃).mono ?_ ?_)
      · rintro o o' ⟨_, ⟨_, rfl, ho⟩, rfl⟩
        exact ho
      · rintro i d d' ⟨_, ⟨_, rfl, hcut⟩, rfl⟩
        exact hcut
  · rintro o o' rfl
    exact .inl rfl
  · rintro i d d' rfl
    exact .before

end Rules

/-! ## The calls of a batch -/

/-- The calls that a batch may make. -/
inductive Batch.Makes (b : Batch) (h : DocumentHandler) : RuntimeCall → Prop
  | lockEnter : b.Makes h (.lockEnter h.handle)
  | lockExit : b.Makes h (.lockExit h.handle)
  | deleteDocuments : b.deleteIds.Nonempty →
    b.Makes h (.deleteDocuments h.handle (ordered b.deleteIds))
  | purgeDocumentMemory : b.purgeIds.Nonempty →
    b.Makes h (.purgeDocumentMemory h.handle (ordered b.purgeIds))
  | addDocuments : b.Makes h (.addDocuments h.handle b.orderedPayloads)
  | cognifyDataset (handle : DatasetHandle) : b.needsCognify = true →
    b.Makes h (.cognifyDataset handle h.profile)

theorem DocumentHandler.allCalls_apply {h : DocumentHandler} {actions : List DocumentAction}
    {b : Batch} (hb : Batch.collect actions = .ok b) : (h.apply actions).AllCalls (b.Makes h) := by
  rw [apply, hb]
  show (withLock h.handle (h.applyBatch b)).AllCalls (b.Makes h)
  refine (allCalls_call .lockEnter).bind fun _ => AllCalls.finally' ?_ (allCalls_call .lockExit)
  refine AllCalls.bind (.ite (fun hne => allCalls_call (.deleteDocuments hne)) fun _ => trivial)
    fun _ => ?_
  refine AllCalls.bind (.ite (fun hne => allCalls_call (.purgeDocumentMemory hne))
    fun _ => trivial) fun _ => ?_
  refine AllCalls.bind (.ite (fun _ => trivial) fun _ => allCalls_call .addDocuments)
    fun handle => ?_
  exact .ite (fun hneeds => allCalls_call (.cognifyDataset handle hneeds)) fun _ => trivial

/-! ## Absorption -/

namespace FakeDocument

theorem add_add (p : DocumentPayload) (d : Option FakeDocument) :
    add p (some (add p d)) = add p d := by
  cases d <;> simp [add]

/-- What is cognified after an add is not changed by the same add. -/
theorem add_cognify_add (profile : CognifyProfile) (p : DocumentPayload) (d : Option FakeDocument) :
    add p (some ((add p d).cognify profile)) = (add p d).cognify profile := by
  have hsame : ∀ d : FakeDocument, d.payload.content = p.content →
      { p with importanceWeight := d.payload.importanceWeight } = d.payload →
        add p (some (d.cognify profile)) = d.cognify profile := by
    intro d hcontent hpayload
    unfold cognify
    split_ifs with hcomplete
    · simp only [add, hpayload, hcomplete, hcontent, decide_true, Bool.and_self]
      exact congrArg (FakeDocument.mk d.payload · d.derivedFragments d.derivedProfile)
        hcomplete.symm
    · simp [add, hpayload, hcontent]
  cases d <;> exact hsame _ rfl rfl

/-- The weight of a row, which an add does not update. -/
def weightOr (p : DocumentPayload) (d : Option FakeDocument) : Option PyFloat :=
  d.elim p.importanceWeight fun d => d.payload.importanceWeight

/-- A row that is purged, added and cognified keeps nothing but its weight. -/
theorem cognify_add_purge (profile : CognifyProfile) (p : DocumentPayload)
    (d : Option FakeDocument) : (add p (d.map purge)).cognify profile =
      { payload := { p with importanceWeight := weightOr p d }
        cognifyComplete := true
        derivedFragments := {fingerprintContent p.content}
        derivedProfile := some profile } := by
  cases d <;> simp [add, purge, cognify, weightOr]

end FakeDocument

/-- The effect of a batch absorbs what an interrupted attempt at it left behind. -/
theorem Batch.effect_of_cut {b : Batch} (hb : b.Sound) {profile : CognifyProfile} {i : UUID}
    {d d' : Option FakeDocument} (h : b.Cut profile i d d') :
    b.effect profile i d' = b.effect profile i d := by
  by_cases hdelete : i ∈ b.deleteIds
  · -- The row is deleted first, whatever it is.
    have hrow : ∀ x, b.deleteRow i x = none := fun _ => if_pos hdelete
    rw [effect, effect, hrow, hrow]
  have hkeep : ∀ x, b.deleteRow i x = x := fun _ => if_neg hdelete
  have hcognify : ∀ x, b.cognifyRow profile (b.cognifyRow profile x) = b.cognifyRow profile x := by
    intro x
    unfold cognifyRow
    split_ifs
    · rw [Option.map_map, show FakeDocument.cognify profile ∘ FakeDocument.cognify profile =
        FakeDocument.cognify profile from funext (FakeDocument.cognify_cognify profile profile)]
    · rfl
  cases hp : b.payloads[i]? with
  | none =>
    -- Only the cognify touches the row, and once is enough.
    have hpurge : ∀ x, b.purgeRow i x = x := fun _ => if_neg fun hi => by
      have := Std.ExtTreeMap.mem_iff_isSome_getElem?.1 (hb.written i hi)
      rw [hp] at this
      cases this
    have hadd : ∀ x, b.addRow i x = x := fun x => by rw [addRow, hp]
    cases h with
    | torn hi => exact absurd hi hdelete
    | _ => simp only [effect, hkeep, hpurge, hadd, hcognify]
  | some p =>
    have hadd : ∀ x, b.addRow i x = some (FakeDocument.add p x) := fun x => by rw [addRow, hp]
    by_cases hpurge : i ∈ b.purgeIds
    · -- The row is rebuilt, and keeps nothing but its weight.
      have hrow : ∀ x, b.purgeRow i x = x.map FakeDocument.purge := fun _ => if_pos hpurge
      have hderive : ∀ x, b.cognifyRow profile x = x.map (FakeDocument.cognify profile) :=
        fun _ => if_pos (hb.derives i hpurge)
      have hweight : FakeDocument.weightOr p d' = FakeDocument.weightOr p d := by
        cases h with
        | torn hi => exact absurd hi hdelete
        | before => rfl
        | deleted => rw [hkeep]
        | purged =>
          rw [hkeep, hrow]
          cases d <;> rfl
        | added =>
          rw [hkeep, hrow, hadd]
          cases d <;> rfl
        | cognified =>
          rw [effect, hkeep, hrow, hadd, hderive, Option.map_some,
            FakeDocument.cognify_add_purge]
          rfl
      simp only [effect, hkeep, hrow, hadd, hderive, Option.map_some,
        FakeDocument.cognify_add_purge, hweight]
    · -- The row is written again, which changes nothing.
      have hrow : ∀ x, b.purgeRow i x = x := fun _ => if_neg hpurge
      have hagain : ∀ x, FakeDocument.add p (b.cognifyRow profile (some (FakeDocument.add p x))) =
          (b.cognifyRow profile (some (FakeDocument.add p x))).get (by
            unfold cognifyRow; split_ifs <;> rfl) := by
        intro x
        unfold cognifyRow
        split_ifs
        · exact FakeDocument.add_cognify_add profile p x
        · exact FakeDocument.add_add p x
      cases h with
      | torn hi => exact absurd hi hdelete
      | before => rfl
      | deleted => rw [hkeep]
      | purged => rw [hkeep, hrow]
      | added => simp only [effect, hkeep, hrow, hadd, FakeDocument.add_add]
      | cognified =>
        simp only [effect, hkeep, hrow, hadd, hagain, Option.some_get, hcognify]

end Cogindex
