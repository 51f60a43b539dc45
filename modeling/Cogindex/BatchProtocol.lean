import Cogindex.Batch

/-!
# The protocol of a batch

The calls that applying a batch makes, whatever the runtime answers: the lock,
the phases that have something to do (`Batch.phases`), in their order and up to
the first that fails, and the release of the lock.

* `Batch.Session`: the events of a batch under its lock;
* `Batch.collect_perm`: actions on different documents may come in any order;
* `batch_protocol`: every run is a session, over the ids that the actions ask for.
-/

namespace Cogindex

open Coroutine

variable [Platform]

/-- A call of a runtime, and its response. -/
abbrev RuntimeEvent : Type := Event RuntimeCall RuntimeCall.Response PyError

namespace Batch

/-- The calls of the phases that have something to do, with the handle of the
    dataset after the add. -/
def phases (b : Batch) (h : DocumentHandler) (handle : DatasetHandle) : List RuntimeCall :=
  (if b.deleteIds.Nonempty then [.deleteDocuments h.handle (ordered b.deleteIds)] else []) ++
  (if b.purgeIds.Nonempty then [.purgeDocumentMemory h.handle (ordered b.purgeIds)] else []) ++
  (if ¬b.payloads.isEmpty then [.addDocuments h.handle b.orderedPayloads] else []) ++
  if b.needsCognify then [.cognifyDataset handle h.profile] else []

/-- Calls that succeeded. -/
def Succeeded (calls : List RuntimeCall) (events : List RuntimeEvent) : Prop :=
  events.map Event.call = calls ∧ ∀ x ∈ events, x.response.isOk

/-- The handle of the dataset after the add: the one that it returned, if there was one. -/
def Handled (b : Batch) (h : DocumentHandler) (handle : DatasetHandle)
    (events : List RuntimeEvent) : Prop :=
  if ¬b.payloads.isEmpty then ⟨.addDocuments h.handle b.orderedPayloads, .ok handle⟩ ∈ events
  else handle = h.handle

/-- The events of the phases: all of them succeed, or the last one fails. -/
inductive PhasesRun (b : Batch) (h : DocumentHandler) : Except PyError Unit →
    List RuntimeEvent → Prop
  | completed {handle : DatasetHandle} {events : List RuntimeEvent}
    (hevents : Succeeded (b.phases h handle) events)
    (hhandle : b.needsCognify → b.Handled h handle events) : b.PhasesRun h (.ok ()) events
  | failed {handle : DatasetHandle} {calls : List RuntimeCall} {events : List RuntimeEvent}
    {c : RuntimeCall} {e : PyError} (hcalls : calls ++ [c] <+: b.phases h handle)
    (hevents : Succeeded calls events)
    (hhandle : c = .cognifyDataset handle h.profile → b.Handled h handle events) :
    b.PhasesRun h (.error e) (events ++ [⟨c, .error e⟩])

/-- The events of a batch: the lock is refused, or it is held during the phases,
    and released after them. -/
inductive Session (b : Batch) (h : DocumentHandler) : Except PyError Unit →
    List RuntimeEvent → Prop
  | refused (e : PyError) : b.Session h (.error e) [⟨.lockEnter h.handle, .error e⟩]
  | held {outcome : Except PyError Unit} {events : List RuntimeEvent}
    (hphases : b.PhasesRun h outcome events) (released : Except PyError Unit) :
    b.Session h (released >>= fun _ => outcome)
      (⟨.lockEnter h.handle, .ok ()⟩ :: events ++ [⟨.lockExit h.handle, released⟩])

section Wp

variable {h : DocumentHandler} {b : Batch} {log events : List RuntimeEvent}
  {calls : List RuntimeCall} {E : PyError → List RuntimeEvent → Prop}

theorem Succeeded.snoc (hs : Succeeded calls events) (c : RuntimeCall) (v : c.Response) :
    Succeeded (calls ++ [c]) (events ++ [⟨c, .ok v⟩]) := by
  refine ⟨by rw [List.map_append, hs.1]; rfl, fun x hx => ?_⟩
  rcases List.mem_append.1 hx with hx | hx
  · exact hs.2 x hx
  · rw [List.mem_singleton.1 hx]
    rfl

theorem Handled.mono {handle : DatasetHandle} {events' : List RuntimeEvent}
    (hhandle : b.Handled h handle events) (hsub : events ⊆ events') :
    b.Handled h handle events' := by
  unfold Handled at *
  split_ifs at * with hempty
  · exact hhandle
  · exact hsub hhandle

/-- A phase makes its call if it has something to do. -/
theorem wp_phase {P : Prop} [Decidable P] {c : RuntimeCall} {d : c.Response}
    {Q : c.Response → List RuntimeEvent → Prop} (hs : Succeeded calls events)
    (hok : ∀ v events', Succeeded (calls ++ if P then [c] else []) events' → events ⊆ events' →
      (if P then ⟨c, .ok v⟩ ∈ events' else v = d) → Q v (log ++ events'))
    (herr : P → ∀ e, E e (log ++ (events ++ [⟨c, .error e⟩]))) :
    wp Records (if P then Coroutine.call c else ret d) Q E (log ++ events) := by
  refine wp_records_ite (fun hP => ?_) (fun hP v => ?_) fun hP e => ?_
  · refine hok d events ?_ (List.Subset.refl _) ((if_neg hP).symm ▸ rfl)
    rwa [if_neg hP, List.append_nil]
  · rw [List.append_assoc]
    refine hok v _ ?_ (List.subset_append_left _ _) ?_
    · rw [if_pos hP]
      exact hs.snoc c v
    · rw [if_pos hP]
      exact List.mem_append_right _ (List.mem_singleton_self _)
  · rw [List.append_assoc]
    exact herr hP e

theorem wp_records_applyBatch {Q : Unit → List RuntimeEvent → Prop}
    (hok : ∀ events, b.PhasesRun h (.ok ()) events → Q () (log ++ events))
    (herr : ∀ e events, b.PhasesRun h (.error e) events → E e (log ++ events)) :
    wp Records (h.applyBatch b) Q E log := by
  have hnil : Succeeded [] [] := ⟨rfl, fun x hx => absurd hx List.not_mem_nil⟩
  rw [← List.append_nil log, DocumentHandler.applyBatch, wp_bind, DocumentHandler.deletePhase]
  refine wp_phase hnil (fun _ events₁ h₁ _ _ => ?_) fun hP e =>
    herr e _ (@PhasesRun.failed _ b h h.handle _ _ _ e ?_ hnil (by simp))
  · rw [wp_bind, DocumentHandler.purgePhase]
    refine wp_phase h₁ (fun _ events₂ h₂ _ _ => ?_) fun hP e =>
      herr e _ (@PhasesRun.failed _ b h h.handle _ _ _ e ?_ h₁ (by simp))
    · rw [wp_bind, DocumentHandler.addPhase, ← ite_not]
      refine wp_phase h₂ (fun handle events₃ h₃ _ hhandle => ?_) fun hP e =>
        herr e _ (@PhasesRun.failed _ b h h.handle _ _ _ e ?_ h₂ (by simp))
      · rw [DocumentHandler.cognifyPhase]
        refine wp_phase h₃ (fun _ events₄ h₄ hsub _ => hok _ (.completed h₄ fun _ => ?_))
          fun hP e => herr e _ (.failed ?_ h₃ fun _ => hhandle)
        · exact Handled.mono hhandle hsub
        · simp only [phases, if_pos hP, List.nil_append, List.prefix_rfl]
      · simp only [phases, if_pos hP, List.nil_append, List.append_assoc,
          List.prefix_append_right_inj, List.prefix_append]
    · simp only [phases, if_pos hP, List.nil_append, List.append_assoc,
        List.prefix_append_right_inj, List.prefix_append]
  · simp only [phases, if_pos hP, List.nil_append, List.append_assoc, List.prefix_append]

/-- Every run of a batch is a session. -/
theorem session_of_runs {actions : List DocumentAction} (hb : collect actions = .ok b)
    {outcome : Except PyError Unit}
    (hrun : Runs Records (h.apply actions) [] (ofExcept outcome) log) :
    b.Session h outcome log := by
  have hwp : wp Records (h.apply actions) (fun _ log => b.Session h (.ok ()) log)
      (fun e log => b.Session h (.error e) log) [] := by
    rw [DocumentHandler.apply, hb]
    show wp Records (withLock h.handle (h.applyBatch b)) _ _ []
    rw [withLock, wp_bind]
    refine wp_records_call (fun _ => ?_) fun e => .refused e
    rw [wp_finally]
    refine wp_records_applyBatch (fun events hevents => ?_) fun e events hevents => ?_
    · exact wp_records_call (fun _ => .held hevents (.ok ())) fun e => .held hevents (.error e)
    · exact wp_records_call (fun _ => .held hevents (.ok ())) fun e => .held hevents (.error e)
  have hend := wp_records hwp hrun
  cases outcome <;> exact hend

end Wp

/-! ## Order of the actions -/

/-- Actions on different documents are collected the same in any order. -/
theorem Collected.unique {actions actions' : List DocumentAction} {b b' : Batch}
    (h : Collected actions b) (h' : Collected actions' b')
    (hmem : ∀ a, a ∈ actions ↔ a ∈ actions') (hnodup : (actions.map DocumentAction.dataId).Nodup) :
    b = b' := by
  have hdelete : b.deleteIds = b'.deleteIds :=
    Finset.ext fun i => by simp only [h.deleteIds, h'.deleteIds, hmem]
  have hpurge : b.purgeIds = b'.purgeIds :=
    Finset.ext fun i => by simp only [h.purgeIds, h'.purgeIds, hmem]
  have hrecreate : b.recreateIds = b'.recreateIds :=
    Finset.ext fun i => by simp only [h.recreateIds, h'.recreateIds, hmem]
  have hcognify : b.needsCognify = b'.needsCognify :=
    Bool.eq_iff_iff.2 (by simp only [h.needsCognify, h'.needsCognify, hmem])
  have hwritten (i : UUID) : i ∈ b.payloads ↔ i ∈ b'.payloads := by
    simp only [h.written, h'.written, hmem]
  have hpayloads : b.payloads = b'.payloads := by
    refine Std.ExtTreeMap.ext_getElem? fun i => ?_
    cases hp : b.payloads[i]? with
    | none =>
      have hi : i ∉ b'.payloads := fun hi => by
        rw [← hwritten, Std.ExtTreeMap.mem_iff_isSome_getElem?, hp] at hi
        cases hi
      exact (Std.ExtTreeMap.getElem?_eq_none hi).symm
    | some p =>
      have hi : i ∈ b'.payloads :=
        (hwritten i).1 (Std.ExtTreeMap.mem_iff_isSome_getElem?.2 (by rw [hp]; rfl))
      obtain ⟨p', hp'⟩ := Option.isSome_iff_exists.1 (Std.ExtTreeMap.mem_iff_isSome_getElem?.1 hi)
      -- The one action on the document has both payloads.
      obtain ⟨a, ha, -, hai, hap⟩ := h.payloads i p hp
      obtain ⟨a', ha', -, hai', hap'⟩ := h'.payloads i p' hp'
      obtain rfl : a = a' :=
        List.inj_on_of_nodup_map hnodup ha ((hmem a').2 ha') (hai.trans hai'.symm)
      rw [hp', ← hap, ← hap']
  cases b
  cases b'
  congr

theorem collect_perm {actions actions' : List DocumentAction} (hperm : actions.Perm actions')
    (hnodup : (actions.map DocumentAction.dataId).Nodup)
    (hpayload : ∀ a ∈ actions, a.op ≠ .delete → a.payload.isSome) :
    collect actions = collect actions' := by
  obtain ⟨b, hb⟩ := exists_collect hpayload
  obtain ⟨b', hb'⟩ := exists_collect fun a ha => hpayload a (hperm.mem_iff.2 ha)
  obtain ⟨c, hc, rfl⟩ := collect_eq_ok hb
  obtain ⟨c', hc', rfl⟩ := collect_eq_ok hb'
  rw [hb, hb', hc.unique hc' (fun a => hperm.mem_iff) hnodup]

/-- Only actions with their payloads are collected. -/
theorem isSome_of_foldlM {actions : List DocumentAction} {b b' : Batch}
    (h : actions.foldlM Batch.add b = .ok b') :
    ∀ a ∈ actions, a.op ≠ .delete → a.payload.isSome := by
  induction actions generalizing b with
  | nil => exact fun a ha => absurd ha List.not_mem_nil
  | cons a actions ih =>
    rw [List.foldlM_cons, bind_eq_ok] at h
    obtain ⟨c, hc, h⟩ := h
    intro x hx hop
    rcases List.mem_cons.1 hx with rfl | hx
    · cases hpay : x.payload with
      | some p => rfl
      | none =>
        rw [Batch.add, if_neg hop, hpay] at hc
        cases hc
    · exact ih h x hx hop

/-- An action without its payload spoils the batch. -/
theorem exists_collect_error {actions : List DocumentAction}
    (h : ∃ a ∈ actions, a.op ≠ .delete ∧ a.payload = none) : ∃ e, collect actions = .error e := by
  cases hb : collect actions with
  | error e => exact ⟨e, rfl⟩
  | ok b =>
    rw [collect, bind_eq_ok] at hb
    obtain ⟨c, hc, -⟩ := hb
    obtain ⟨a, ha, hop, hpay⟩ := h
    have hsome := isSome_of_foldlM hc a ha hop
    rw [hpay] at hsome
    cases hsome

/-- What the ids of a batch are, once the conflicts are resolved. -/
theorem Collected.finish {actions : List DocumentAction} {b : Batch} (h : Collected actions b) :
    (∀ i, i ∈ b.finish.payloads ↔ ∃ a ∈ actions, a.op ≠ .delete ∧ a.dataId = i) ∧
    Disjoint b.finish.purgeIds b.finish.deleteIds ∧
    (∀ i ∈ b.finish.payloads,
      (i ∈ b.finish.deleteIds ↔ ∃ a ∈ actions, a.op = .recreate ∧ a.dataId = i)) ∧
    (∀ i ∉ b.finish.payloads, (i ∈ b.finish.deleteIds ↔
      ∃ a ∈ actions, a.op = .delete ∧ a.dataId = i ∨ i ∈ a.staleDataIds)) ∧
    (∀ i, i ∈ b.finish.purgeIds ↔ (∃ a ∈ actions, a.op = .replace ∧ a.dataId = i) ∧
      ¬∃ a ∈ actions, a.op = .recreate ∧ a.dataId = i) := by
  have hdelete (i : UUID) : i ∈ b.finish.deleteIds ↔
      i ∈ b.deleteIds ∧ i ∉ b.payloads ∨ i ∈ b.recreateIds := by
    rw [Batch.finish, Finset.mem_union, Finset.mem_filter]
  have hpurge (i : UUID) : i ∈ b.finish.purgeIds ↔ i ∈ b.purgeIds ∧ i ∉ b.recreateIds :=
    Finset.mem_sdiff
  refine ⟨h.written, Finset.disjoint_left.2 fun i hi hi' => ?_, fun i hi => ?_, fun i hi => ?_,
    fun i => ?_⟩
  · -- What is purged is written, and not recreated.
    rw [hpurge] at hi
    rcases (hdelete i).1 hi' with ⟨-, hnot⟩ | hrecreate
    · obtain ⟨a, ha, hop, hai⟩ := (h.purgeIds i).1 hi.1
      exact hnot ((h.written i).2 ⟨a, ha, by rw [hop]; decide, hai⟩)
    · exact hi.2 hrecreate
  · rw [hdelete, ← h.recreateIds]
    exact or_iff_right fun hnot => hnot.2 hi
  · have hnot : i ∉ b.payloads := hi
    rw [hdelete, and_iff_left hnot, or_iff_left, h.deleteIds]
    · simp only [or_comm]
    · intro hrecreate
      obtain ⟨a, ha, hop, hai⟩ := (h.recreateIds i).1 hrecreate
      exact hi ((h.written i).2 ⟨a, ha, by rw [hop]; decide, hai⟩)
  · rw [hpurge, h.purgeIds, h.recreateIds]

end Batch

/-- The calls that applying a batch makes, and the ids that they are about. -/
theorem batch_protocol (h : DocumentHandler) (actions : List DocumentAction) :
    ((∃ a ∈ actions, a.op ≠ .delete ∧ a.payload = none) → ∃ e, h.apply actions = .raise e) ∧
    ((∀ a ∈ actions, a.op ≠ .delete → a.payload.isSome) → ∃ b : Batch,
      (∀ outcome log, Runs Records (h.apply actions) [] (ofExcept outcome) log →
        b.Session h outcome log) ∧
      (∀ (i : UUID) p, b.payloads[i]? = some p →
        ∃ a ∈ actions, a.op ≠ .delete ∧ a.dataId = i ∧ a.payload = some p) ∧
      (b.needsCognify = true ↔
        ∃ a ∈ actions, a.op = .upsert ∨ a.op = .replace ∨ a.op = .recreate) ∧
      (∀ i, i ∈ b.payloads ↔ ∃ a ∈ actions, a.op ≠ .delete ∧ a.dataId = i) ∧
      Disjoint b.purgeIds b.deleteIds ∧
      (∀ i ∈ b.payloads,
        (i ∈ b.deleteIds ↔ ∃ a ∈ actions, a.op = .recreate ∧ a.dataId = i)) ∧
      (∀ i ∉ b.payloads, (i ∈ b.deleteIds ↔
        ∃ a ∈ actions, a.op = .delete ∧ a.dataId = i ∨ i ∈ a.staleDataIds)) ∧
      (∀ i, i ∈ b.purgeIds ↔ (∃ a ∈ actions, a.op = .replace ∧ a.dataId = i) ∧
        ¬∃ a ∈ actions, a.op = .recreate ∧ a.dataId = i)) ∧
    ∀ actions', actions.Perm actions' → (actions.map DocumentAction.dataId).Nodup →
      h.apply actions = h.apply actions' ∨
        ∃ e e', h.apply actions = .raise e ∧ h.apply actions' = .raise e' := by
  have hraise {actions : List DocumentAction}
      (hnone : ∃ a ∈ actions, a.op ≠ .delete ∧ a.payload = none) :
      ∃ e, h.apply actions = .raise e := by
    obtain ⟨e, he⟩ := Batch.exists_collect_error hnone
    exact ⟨e, by rw [DocumentHandler.apply, he]; rfl⟩
  refine ⟨hraise, fun hpayload => ?_, fun actions' hperm hnodup => ?_⟩
  · obtain ⟨b, hb⟩ := Batch.exists_collect hpayload
    obtain ⟨c, hc, rfl⟩ := Batch.collect_eq_ok hb
    exact ⟨c.finish, fun outcome log => Batch.session_of_runs hb, hc.payloads, hc.needsCognify,
      hc.finish⟩
  -- In another order, the batch is the same, unless a payload is missing in both.
  · by_cases hpayload : ∀ a ∈ actions, a.op ≠ .delete → a.payload.isSome
    · exact .inl (congrArg (fun b => ofExcept b >>= fun b => withLock h.handle (h.applyBatch b))
        (Batch.collect_perm hperm hnodup hpayload))
    · push Not at hpayload
      obtain ⟨a, ha, hop, hpay⟩ := hpayload
      have hnone : a.payload = none := by simpa using hpay
      obtain ⟨e, he⟩ := hraise ⟨a, ha, hop, hnone⟩
      obtain ⟨e', he'⟩ := hraise ⟨a, hperm.mem_iff.1 ha, hop, hnone⟩
      exact .inr ⟨e, e', he, he'⟩

end Cogindex
