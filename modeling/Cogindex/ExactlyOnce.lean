import Cogindex.Batch

/-!
# Exactly-once effect

A batch is delivered at least once: it is attempted, interrupted anywhere, and
attempted again, until an attempt returns. The dataset then is what a single
attempt without interruption would have made of it (`apply_exactly_once`), as
the effect of a batch on a row absorbs every cut of it, and the effect on the
dataset itself absorbs every cut of that.
-/

namespace Cogindex

open Coroutine FakeCogneeRuntime

section

variable [Platform]

/-! ## Without faults -/

/-- The call goes to the physical owner `scope`. -/
def RuntimeCall.For (scope : String) : RuntimeCall → Prop
  | .resolveDataset _ _ => True
  | .addDocuments handle _ => handle.identityScope = scope
  | .purgeDocumentMemory handle _ => handle.identityScope = scope
  | .deleteDocuments handle _ => handle.identityScope = scope
  | .cognifyDataset handle _ => handle.identityScope = scope
  | .teardownDataset handle => handle.identityScope = scope
  | .listDocuments handle => handle.identityScope = scope
  | .lockEnter handle => handle.identityScope = scope
  | .lockExit _ => True

/-- Without a fault, a call to the owner of the runtime is answered. -/
theorem perform_none {c : RuntimeCall} {s : FakeCogneeRuntime} (hc : c.For s.identityScope) :
    ∃ v, (perform none c s).1 = .ok v ∧ (perform none c s).2.identityScope = s.identityScope := by
  -- Without a fault, a call only raises on a handle of another owner.
  have hvalid : ∀ handle : DatasetHandle, handle.identityScope = s.identityScope →
      s.validateHandle handle = .ok () := fun _ h => if_pos h
  cases c with
  | addDocuments handle payloads =>
    simp only [perform, addDocuments, hvalid handle hc]
    split_ifs <;> exact ⟨_, rfl, rfl⟩
  | resolveDataset name tenant => exact ⟨_, rfl, rfl⟩
  | lockExit handle => exact ⟨(), rfl, rfl⟩
  | purgeDocumentMemory handle ids =>
    exact ⟨(), by simp only [perform, purgeDocumentMemory, hvalid handle hc],
      by simp only [perform, purgeDocumentMemory, hvalid handle hc]; rfl⟩
  | deleteDocuments handle ids =>
    exact ⟨(), by simp only [perform, deleteDocuments, hvalid handle hc],
      by simp only [perform, deleteDocuments, hvalid handle hc]; rfl⟩
  | cognifyDataset handle profile =>
    exact ⟨(), by simp only [perform, cognifyDataset, hvalid handle hc],
      by simp only [perform, cognifyDataset, hvalid handle hc]; rfl⟩
  | teardownDataset handle =>
    exact ⟨(), by simp only [perform, teardownDataset, hvalid handle hc],
      by simp only [perform, teardownDataset, hvalid handle hc]; rfl⟩
  | listDocuments handle =>
    exact ⟨_, by simp only [perform, listDocuments, hvalid handle hc]; rfl,
      by simp only [perform, listDocuments, hvalid handle hc]⟩
  | lockEnter handle =>
    exact ⟨(), by simp only [perform, lockEnter, hvalid handle hc],
      by simp only [perform, lockEnter, hvalid handle hc]; rfl⟩

theorem wp_unfaulted {c : RuntimeCall} {s : FakeCogneeRuntime} (hc : c.For s.identityScope)
    {Q : c.Response → FakeCogneeRuntime → Prop} {E : PyError → FakeCogneeRuntime → Prop}
    (hok : ∀ v s', (perform none c s).1 = .ok v → s'.identityScope = s.identityScope → Q v s') :
    wp (Unfaulted perform) (await c) Q E s := by
  obtain ⟨v, hv, hs⟩ := perform_none hc
  refine wp_call.2 ⟨fun w t hw => ?_, fun e t he => ?_⟩
  · rw [Unfaulted] at hw
    rw [hw] at hs hok
    exact hok w t rfl hs
  · rw [Unfaulted] at he
    rw [he] at hv
    cases hv

section Phases

variable {h : DocumentHandler} {b : Batch} {s : FakeCogneeRuntime}
  {E : PyError → FakeCogneeRuntime → Prop} (hs : h.handle.identityScope = s.identityScope)

include hs

theorem wp_deletePhase_unfaulted {Q : Unit → FakeCogneeRuntime → Prop}
    (hok : ∀ s', h.handle.identityScope = s'.identityScope → Q () s') :
    wp (Unfaulted perform) (h.deletePhase b) Q E s :=
  wp_ite (fun _ => wp_unfaulted (c := .deleteDocuments h.handle (ordered b.deleteIds)) hs
    fun _ s' _ hs' => hok s' (hs.trans hs'.symm)) fun _ => hok s hs

theorem wp_purgePhase_unfaulted {Q : Unit → FakeCogneeRuntime → Prop}
    (hok : ∀ s', h.handle.identityScope = s'.identityScope → Q () s') :
    wp (Unfaulted perform) (h.purgePhase b) Q E s :=
  wp_ite (fun _ => wp_unfaulted (c := .purgeDocumentMemory h.handle (ordered b.purgeIds)) hs
    fun _ s' _ hs' => hok s' (hs.trans hs'.symm)) fun _ => hok s hs

theorem wp_addPhase_unfaulted {Q : DatasetHandle → FakeCogneeRuntime → Prop}
    (hok : ∀ handle s', handle.identityScope = s'.identityScope → Q handle s') :
    wp (Unfaulted perform) (h.addPhase b) Q E s := by
  refine wp_ite (fun _ => hok _ s hs) fun _ =>
    wp_unfaulted (c := .addDocuments h.handle b.orderedPayloads) hs fun handle s' hv hs' => ?_
  refine hok handle s' (Eq.trans ?_ (hs.trans hs'.symm))
  simp only [perform, addDocuments, validateHandle, if_pos hs] at hv
  split_ifs at hv <;> cases hv <;> rfl

end Phases

variable {h : DocumentHandler} {actions : List DocumentAction} {s : FakeCogneeRuntime}

theorem Batch.Complete.exists_collect (hc : Batch.Complete actions) :
    ∃ b, Batch.collect actions = .ok b :=
  Batch.exists_collect fun a ha hop => by
    obtain ⟨p, hp, -⟩ := hc a ha hop
    exact Option.isSome_iff_exists.2 ⟨p, hp⟩

/-- A batch without faults returns, if its handle is for the runtime. -/
theorem run_apply_ok (hc : Batch.Complete actions)
    (hs : h.handle.identityScope = s.identityScope) :
    (run perform (h.apply actions) [] s).1 = .ok () := by
  obtain ⟨b, hb⟩ := hc.exists_collect
  have hexit : ∀ t, wp (Unfaulted perform) (await (.lockExit h.handle)) (fun _ _ => True)
      (fun _ _ => False) t := fun t =>
    wp_unfaulted (c := .lockExit h.handle) trivial fun _ _ _ _ => trivial
  -- An error would have the postcondition `False`.
  have hwp : wp (Unfaulted perform) (h.apply actions) (fun _ _ => True) (fun _ _ => False) s := by
    rw [DocumentHandler.apply, hb]
    show wp (Unfaulted perform) (withLock h.handle (h.applyBatch b)) _ _ s
    rw [withLock, wp_bind]
    refine wp_unfaulted (c := .lockEnter h.handle) hs fun _ s₁ _ h₁ => ?_
    rw [wp_finally, DocumentHandler.applyBatch, wp_bind]
    refine wp_deletePhase_unfaulted (hs.trans h₁.symm) fun s₂ h₂ => ?_
    rw [wp_bind]
    refine wp_purgePhase_unfaulted h₂ fun s₃ h₃ => ?_
    rw [wp_bind]
    refine wp_addPhase_unfaulted h₃ fun handle s₄ h₄ => ?_
    exact wp_ite (fun _ => wp_unfaulted (c := .cognifyDataset handle h.profile) h₄
      fun _ s₅ _ _ => hexit s₅) fun _ => hexit s₄
  have hrun := wp_run_nil perform hwp
  cases hres : (run perform (h.apply actions) [] s).1 with
  | ok u => rfl
  | error e => exact (hrun.2 e hres).elim

/-! ## Retried attempts -/

/-- What attempts at a batch under scripts of faults make of the runtime. -/
def DocumentHandler.attempts (h : DocumentHandler) (actions : List DocumentAction)
    (scripts : List (List (Option Fault))) (s : FakeCogneeRuntime) : FakeCogneeRuntime :=
  scripts.foldl (fun s faults => (run perform (h.apply actions) faults s).2) s

section Attempts

variable {b : Batch} (hb : Batch.collect actions = .ok b) (hsound : b.Sound)

include hb hsound

/-- An attempt that returns has the effect of the batch. -/
theorem writes_of_run_ok {faults : List (Option Fault)}
    (hok : (run perform (h.apply actions) faults s).1 = .ok ()) :
    h.handle.identityScope = s.identityScope ∧
      Writes (keyOf h.handle) (b.headerEffect h.handle)
        (fun i d d' => d' = b.effect h.profile i d) s (run perform (h.apply actions) faults s).2 :=
  (wp_run perform (wp_apply hb hsound (Q := fun _ s' => h.handle.identityScope = s.identityScope ∧
    Writes (keyOf h.handle) (b.headerEffect h.handle)
      (fun i d d' => d' = b.effect h.profile i d) s s') (E := fun _ _ => True)
    (fun _ hs hw => ⟨hs, hw⟩) fun _ _ _ => trivial)).1 () hok

/-- An attempt cuts the batch somewhere, at its end if it returns. -/
theorem cut_of_run (faults : List (Option Fault)) :
    Writes (keyOf h.handle) (b.headerCut h.handle) (fun i d d' => b.Cut h.profile i d d') s
      (run perform (h.apply actions) faults s).2 := by
  have hattempt := wp_apply (h := h) (s := s) hb hsound (Q := fun _ s' => Writes (keyOf h.handle)
    (b.headerCut h.handle) (fun i d d' => b.Cut h.profile i d d') s s')
    (fun _ _ hw => hw.mono (fun _ _ => .inr) fun _ _ _ hd => hd ▸ .cognified) fun _ _ hw => hw
  cases hres : (run perform (h.apply actions) faults s).1 with
  | ok u => exact (wp_run perform hattempt).1 u hres
  | error e => exact (wp_run perform hattempt).2 e hres

end Attempts

/-- What a batch makes of the dataset itself absorbs what a cut made of it. -/
theorem Batch.headerEffect_of_cut {b : Batch} {handle : DatasetHandle}
    {o o' o'' : Option FakeDataset} (h : b.headerCut handle o o')
    (h' : b.headerEffect handle o' o'') : b.headerEffect handle o o'' := by
  rcases h with rfl | h
  · exact h'
  · unfold headerEffect at *
    split_ifs at * with hempty
    · exact h'.trans h
    · rw [Materializes, h'] at *
      rw [h]
      rfl

/-- The effect of a batch after attempts at it is its effect on the original rows. -/
theorem writes_of_attempts {b : Batch} (hb : Batch.collect actions = .ok b) (hsound : b.Sound)
    {t : FakeCogneeRuntime} (scripts : List (List (Option Fault)))
    (hlast : Writes (keyOf h.handle) (b.headerEffect h.handle)
      (fun i d d' => d' = b.effect h.profile i d) (h.attempts actions scripts s) t) :
    Writes (keyOf h.handle) (b.headerEffect h.handle)
      (fun i d d' => d' = b.effect h.profile i d) s t := by
  induction scripts generalizing s with
  | nil => exact hlast
  | cons faults scripts ih =>
    refine ((cut_of_run hb hsound faults).trans (ih hlast)).mono ?_ ?_
    · rintro o o'' ⟨o', ho, ho'⟩
      exact Batch.headerEffect_of_cut ho ho'
    · rintro i d d'' ⟨d', hd, rfl⟩
      exact Batch.effect_of_cut hsound hd

theorem attempts_identityScope {b : Batch} (hb : Batch.collect actions = .ok b) (hsound : b.Sound)
    (scripts : List (List (Option Fault))) :
    (h.attempts actions scripts s).identityScope = s.identityScope := by
  induction scripts generalizing s with
  | nil => rfl
  | cons faults scripts ih => exact ih.trans (cut_of_run hb hsound faults).scope

/-- The effect of a batch determines the store. -/
theorem datasets_eq_of_writes {b : Batch} {t t' : FakeCogneeRuntime}
    (ht : Writes (keyOf h.handle) (b.headerEffect h.handle)
      (fun i d d' => d' = b.effect h.profile i d) s t)
    (ht' : Writes (keyOf h.handle) (b.headerEffect h.handle)
      (fun i d d' => d' = b.effect h.profile i d) s t') : t'.datasets = t.datasets := by
  refine Std.ExtTreeMap.ext_getElem? fun k => ?_
  by_cases hk : k = keyOf h.handle
  · subst hk
    refine dataset_ext ?_ fun i => (ht'.row i).trans (ht.row i).symm
    have hheader := ht.header
    have hheader' := ht'.header
    unfold Batch.headerEffect at hheader hheader'
    split_ifs at hheader hheader' <;> exact hheader'.trans hheader.symm
  · exact (ht'.elsewhere k hk).trans (ht.elsewhere k hk).symm

/-- **At-least-once delivery has exactly-once effect.** However often a batch is
    attempted and wherever the attempts are cut off, an attempt that returns
    leaves the datasets that a single uninterrupted attempt makes of the
    original ones; and without faults the next attempt does return. -/
theorem apply_exactly_once (h : DocumentHandler) (actions : List DocumentAction)
    (hc : Batch.Complete actions) (s : FakeCogneeRuntime)
    (scripts : List (List (Option Fault))) :
    (∀ final, (run perform (h.apply actions) final (h.attempts actions scripts s)).1 = .ok () →
      (run perform (h.apply actions) [] s).1 = .ok () ∧
        (run perform (h.apply actions) final (h.attempts actions scripts s)).2.datasets =
          (run perform (h.apply actions) [] s).2.datasets) ∧
    (h.handle.identityScope = s.identityScope →
      (run perform (h.apply actions) [] (h.attempts actions scripts s)).1 = .ok ()) := by
  obtain ⟨b, hb⟩ := hc.exists_collect
  have hsound := Batch.sound_of_collect hc hb
  have hscope := attempts_identityScope (h := h) (s := s) hb hsound scripts
  refine ⟨fun final hfinal => ?_, fun hs => run_apply_ok hc (hs.trans hscope.symm)⟩
  obtain ⟨hs, hlast⟩ := writes_of_run_ok hb hsound hfinal
  have honce := run_apply_ok hc (hs.trans hscope)
  exact ⟨honce, datasets_eq_of_writes (writes_of_run_ok hb hsound honce).2
    (writes_of_attempts hb hsound scripts hlast)⟩

end

/-- A replacement is attempted once with a failing purge and once with an add
    that fails after it took effect; the next attempt returns. -/
theorem apply_exactly_once_replacement :
    letI : Platform := .sample
    (run perform (DocumentHandler.sample.apply [.sample]) []
      (DocumentHandler.sample.attempts [.sample]
        [[none, some ⟨⟨.external, "injected fault"⟩, some []⟩],
          [none, none, some ⟨⟨.external, "injected fault"⟩, some [.done]⟩]] .sample)).1 = .ok () :=
  letI : Platform := .sample
  have hc : Batch.Complete [DocumentAction.sample] := by
    intro a ha _
    obtain rfl := List.mem_singleton.1 ha
    exact ⟨_, rfl, rfl⟩
  (apply_exactly_once .sample [.sample] hc .sample _).2 rfl

end Cogindex
