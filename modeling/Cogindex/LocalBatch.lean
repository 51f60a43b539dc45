import Cogindex.Batch
import Cogindex.SdkProtocol

/-!
# Batches on the in-process runtime

The connector asks its runtime, and the runtime asks Cognee. Here both levels
are one coroutine (`LocalCogneeRuntime.serve` interprets the calls of the
connector), and what is known of the operations of an instance is composed along
a batch (`local_batch_protocol`):

* Cognee is changed only under the lock of the dataset, and the lock is released
  on every path, after the database context was left;
* the removals of a batch come first, then the purges, the adds, and the cognify,
  each of them once, up to the first that fails;
* where the batch returns, all of them were made, but for the removals and the
  purges in a dataset that a listing at this point did not have.
-/

namespace Cogindex

open Coroutine LocalCogneeRuntime

section

variable [Platform]

/-! ## The two levels -/

/-- What a connector with an in-process runtime does outside itself. -/
inductive HostCall
  | sdk (c : LocalCall)
  /-- Entering the lock of a scope. -/
  | acquire (scope : String)
  | release (scope : String)

/-- What a call returns. -/
@[reducible] def HostCall.Response : HostCall → Type
  | sdk c => c.Response
  | _ => Unit

/-- A coroutine of a connector with an in-process runtime. -/
abbrev HostProgram : Type → Type := Coroutine HostCall HostCall.Response PyError

/-- An operation, in the process of its connector. -/
def hosted {α : Type} (p : LocalProgram α) : HostProgram α := p.interpret fun c => call (.sdk c)

/-- How an instance serves the calls of a connector. -/
def LocalCogneeRuntime.serve (rt : LocalCogneeRuntime) :
    (c : RuntimeCall) → HostProgram c.Response
  | .resolveDataset name tenant => hosted (rt.resolveDataset name tenant)
  | .addDocuments handle payloads => hosted (rt.addDocuments handle payloads)
  | .purgeDocumentMemory handle dataIds => hosted (rt.purgeDocumentMemory handle dataIds)
  | .deleteDocuments handle dataIds => hosted (rt.deleteDocuments handle dataIds)
  | .cognifyDataset handle profile => hosted (rt.cognifyDataset handle profile)
  | .teardownDataset handle => hosted (rt.teardownDataset handle)
  | .listDocuments handle => hosted (rt.listDocuments handle)
  | .lockEnter handle => do
    let scope ← hosted (rt.datasetLock handle)
    call (HostCall.acquire scope)
  | .lockExit handle => call (HostCall.release (lockScope handle))

/-! ## The monitor -/

/-- What is known from the calls so far. -/
structure HostProgress where
  /-- The scope of the lock that is held. -/
  lock : Option String := none
  sdk : SdkProgress := {}

namespace HostProgress

variable (rt : LocalCogneeRuntime)

/-- One more call, and its answer. -/
def add (s : HostProgress) : Event HostCall HostCall.Response PyError → HostProgress
  | ⟨.sdk c, r⟩ => { s with sdk := s.sdk.add rt ⟨c, r⟩ }
  | ⟨.acquire scope, .ok _⟩ => { s with lock := some scope }
  | ⟨.acquire _, .error e⟩ => { s with sdk := { s.sdk with failed := some e } }
  | ⟨.release _, .ok _⟩ => { s with lock := none }
  | ⟨.release _, .error e⟩ => { lock := none, sdk := { s.sdk with failed := some e } }

end HostProgress

/-- The changes of a block are made after others, unless the dataset did not
    exist: its id is not known, and a listing at this point had none with its name. -/
def Batch.Made (h : DocumentHandler) (listings : List DatasetListing)
    (before block made : List SdkWrite) : Prop :=
  made = block ∨ made = [] ∧ h.handle.datasetId = none ∧
    ∃ listing ∈ listings, listing.writes = before ∧ listing.Lacks h.handle

/-- The changes of a batch of actions, in their order, as far as the listings of
    the datasets tell. -/
def Batch.Plans (h : DocumentHandler) (actions : List DocumentAction)
    (listings : List DatasetListing) (plan : List SdkWrite) : Prop :=
  ∃ b deletes purges, Batch.collect actions = .ok b ∧
    Made h listings [] ((ordered b.deleteIds).map (.forget · false)) deletes ∧
    Made h listings deletes ((ordered b.purgeIds).map (.forget · true)) purges ∧
    plan = deletes ++ purges ++ (Operation.addDocuments h.handle b.orderedPayloads).writes ++
      if b.needsCognify then [.cognify (cognifyKwargs h.profile)] else []

section

variable {h : DocumentHandler} {actions : List DocumentAction}
  {listings listings' : List DatasetListing} {before block made plan : List SdkWrite}

theorem Batch.Made.mono (hmade : Made h listings before block made) (hsub : listings ⊆ listings') :
    Made h listings' before block made :=
  hmade.imp_right fun ⟨hnil, hnone, listing, hlisting, hlacks⟩ =>
    ⟨hnil, hnone, listing, hsub hlisting, hlacks⟩

/-- A plan stays one as the datasets are listed again. -/
theorem Batch.Plans.mono (hplan : Plans h actions listings plan) (hsub : listings ⊆ listings') :
    Plans h actions listings' plan := by
  obtain ⟨b, deletes, purges, hb, hdeletes, hpurges, heq⟩ := hplan
  exact ⟨b, deletes, purges, hb, hdeletes.mono hsub, hpurges.mono hsub, heq⟩

end

namespace HostProgress

variable (h : DocumentHandler) (actions : List DocumentAction)

/-- Where a call may be made during a batch. -/
def Allows : HostCall → HostProgress → Prop
  | .sdk c, s => SdkProgress.Permits c s.sdk ∧ ∀ w ∈ c.write?, s.lock = some (lockScope h.handle) ∧
      ∃ plan, Batch.Plans h actions s.sdk.listings plan ∧ s.sdk.writes ++ [w] <+: plan
  | .acquire scope, s => scope = lockScope h.handle ∧ s.lock = none ∧ s.sdk.failed = none ∧
      s.sdk.writes = []
  | .release scope, s => s.lock = some scope ∧ s.sdk.context = none

/-- A batch may return here. -/
structure Returned (s : HostProgress) : Prop where
  lock : s.lock = none
  context : s.sdk.context = none
  failed : s.sdk.failed = none
  pipelined : s.sdk.pipelined = false
  writes : Batch.Plans h actions s.sdk.listings s.sdk.writes

/-- An error may be raised here. -/
structure Raised (e : PyError) (s : HostProgress) : Prop where
  lock : s.lock = none
  sdk : SdkProgress.Raised e s.sdk

end HostProgress

/-! ## Operations in their process -/

namespace SdkProgress

/-- The progress of an operation that began where there had been other calls. -/
def after (s before : SdkProgress) : SdkProgress :=
  { s with
    entered := before.entered || s.entered
    listings := before.listings ++
      s.listings.map fun listing => { listing with writes := before.writes ++ listing.writes }
    writes := before.writes ++ s.writes }

theorem add_after {rt : LocalCogneeRuntime} {before s : SdkProgress}
    (event : Event LocalCall LocalCall.Response PyError) :
    (s.after before).add rt event = (s.add rt event).after before := by
  obtain ⟨c, r⟩ := event
  cases c <;> cases r <;> simp [add, note, after]

/-- An operation begins without changes, listings and contexts of its own. -/
def restarted (s : SdkProgress) : SdkProgress :=
  { s with entered := false, listings := [], writes := [] }

theorem after_restarted (s : SdkProgress) : s.restarted.after s = s := by
  simp [after, restarted]

/-- What an operation knows of its dataset is known after it. -/
theorem Lacks.after {before s : SdkProgress} {handle : DatasetHandle} (h : Lacks handle s)
    (hwrites : s.writes = []) : handle.datasetId = none ∧
      ∃ listing ∈ (s.after before).listings, listing.writes = before.writes ∧
        listing.Lacks handle := by
  obtain ⟨hnone, listing, hlast, hlisting, hlacks⟩ := h
  refine ⟨hnone, { listing with writes := before.writes ++ listing.writes },
    List.mem_append_right _ (List.mem_map_of_mem (List.mem_of_getLast? hlast)), ?_,
    hlacks.scope, hlacks.owned⟩
  show before.writes ++ listing.writes = before.writes
  rw [hlisting, hwrites, List.append_nil]

end SdkProgress

namespace HostProgress

variable {rt} {h} {actions} {ws plan : List SdkWrite} {t : HostProgress}

/-- An operation runs after other calls, under the lock if it makes any changes. -/
theorem monitored_hosted {α : Type} {p : LocalProgram α} {Q : α → SdkProgress → Prop}
    (hp : ∀ s, SdkProgress.Opening [] s → SdkProgress.Followed rt plan p Q s)
    (hfailed : t.sdk.failed = none) (hcontext : t.sdk.context = none)
    (hpipelined : t.sdk.pipelined = false)
    (hplan : plan ≠ [] → t.lock = some (lockScope h.handle) ∧
      ∃ whole, Batch.Plans h actions t.sdk.listings whole ∧ t.sdk.writes ++ plan <+: whole) :
    Monitored (add rt) (Allows h actions) (hosted p)
      (fun a u => ∃ s, u = ⟨t.lock, s.after t.sdk⟩ ∧ Q a s)
      (fun e u => u.lock = t.lock ∧ SdkProgress.Raised e u.sdk) t := by
  refine (monitored_interpret (S := fun s u => u = ⟨t.lock, s.after t.sdk⟩)
    (hp t.sdk.restarted ⟨hfailed, hcontext, rfl, hpipelined, rfl⟩)
    (fun c s u hc hu => ?_) ?_).mono (fun _ _ h => h) ?_
  · subst hu
    refine monitored_call ⟨hc.permits, fun w hw => ?_⟩ (fun v => ?_) fun e => ?_
    · have hprefix := hc.writes w hw
      have hne : plan ≠ [] := fun hnil => by simp [hnil] at hprefix
      obtain ⟨hlock, whole, hwhole, hle⟩ := hplan hne
      refine ⟨hlock, whole, hwhole.mono (List.subset_append_left _ _), ?_⟩
      show (t.sdk.writes ++ s.writes) ++ [w] <+: whole
      rw [List.append_assoc]
      exact ((List.prefix_append_right_inj _).2 hprefix).trans hle
    · exact congrArg (HostProgress.mk t.lock) (SdkProgress.add_after _)
    · exact congrArg (HostProgress.mk t.lock) (SdkProgress.add_after _)
  · exact congrArg (HostProgress.mk t.lock) (SdkProgress.after_restarted _).symm
  · rintro e _ ⟨s, rfl, hs⟩
    exact ⟨rfl, hs.failed, hs.context⟩

/-! ## The phases -/

/-- The changes `ws` were made under the lock of the dataset. -/
structure Working (h : DocumentHandler) (ws : List SdkWrite) (t : HostProgress) : Prop where
  lock : t.lock = some (lockScope h.handle)
  failed : t.sdk.failed = none
  context : t.sdk.context = none
  pipelined : t.sdk.pipelined = false
  writes : t.sdk.writes = ws

/-- A phase failed under the lock of the dataset. -/
structure Failing (h : DocumentHandler) (e : PyError) (t : HostProgress) : Prop where
  lock : t.lock = some (lockScope h.handle)
  sdk : SdkProgress.Raised e t.sdk

/-- A phase that is served by an operation makes its changes, or finds no dataset. -/
theorem monitored_phase {P : Prop} [Decidable P] {c : RuntimeCall} {d : c.Response}
    {p : LocalProgram c.Response} {lacks : SdkProgress → Prop} {Q : c.Response → Prop}
    (hserve : rt.serve c = hosted p)
    (hp : P → ∀ s, SdkProgress.Opening [] s → SdkProgress.Followed rt plan p
      (fun a s => SdkProgress.Returned plan lacks s ∧ Q a) s)
    (hskip : ¬P → plan = [] ∧ Q d) (ht : Working h ws t)
    (hplan : ∃ whole, Batch.Plans h actions t.sdk.listings whole ∧ ws ++ plan <+: whole) :
    Monitored (add rt) (Allows h actions)
      ((if P then Coroutine.call c else ret d).interpret rt.serve)
      (fun a u => Q a ∧ t.sdk.listings ⊆ u.sdk.listings ∧ ∃ made, Working h (ws ++ made) u ∧
        (made = plan ∨ made = [] ∧ ∃ s, lacks s ∧ s.writes = [] ∧ u.sdk = s.after t.sdk))
      (Failing h) t := by
  obtain rfl := ht.writes
  rw [interpret_ite, interpret_call, hserve]
  refine monitored_ite (fun hP => ?_) fun hnot => ?_
  · refine (monitored_hosted (hp hP) ht.failed ht.context ht.pipelined fun _ =>
      ⟨ht.lock, hplan⟩).mono ?_ fun e u hu => ⟨hu.1.trans ht.lock, hu.2⟩
    rintro a _ ⟨s, rfl, hs, ha⟩
    exact ⟨ha, List.subset_append_left _ _, s.writes,
      ⟨ht.lock, hs.failed, hs.context, hs.pipelined, rfl⟩,
      hs.writes.imp_right fun hlacks => ⟨hlacks.2, s, hlacks.1, hlacks.2, rfl⟩⟩
  · obtain ⟨rfl, hd⟩ := hskip hnot
    refine ⟨hd, List.Subset.refl _, [], ?_, .inl rfl⟩
    rwa [List.append_nil]

/-- Nothing is planned for no ids. -/
theorem map_ordered_of_empty {ids : Finset UUID} {f : UUID → SdkWrite} (h : ¬ids.Nonempty) :
    (ordered ids).map f = [] := by
  simp [ordered, Finset.not_nonempty_iff_eq_empty.1 h]

theorem orderedPayloads_eq_nil {b : Batch} :
    b.orderedPayloads = [] ↔ b.payloads.isEmpty = true := by
  rw [Batch.orderedPayloads, List.map_eq_nil_iff, Std.ExtTreeMap.toList_eq_nil_iff,
    Std.ExtTreeMap.isEmpty_iff]

/-- A batch that cognifies adds payloads. -/
theorem orderedPayloads_ne_nil {b : Batch} (hb : Batch.collect actions = .ok b)
    (hcognify : b.needsCognify = true) : b.orderedPayloads ≠ [] := by
  obtain ⟨c, hc, rfl⟩ := Batch.collect_eq_ok hb
  obtain ⟨a, ha, hop⟩ := hc.needsCognify.1 hcognify
  have hmem : a.dataId ∈ c.finish.payloads :=
    (hc.written _).2 ⟨a, ha, by rcases hop with h | h | h <;> rw [h] <;> decide, rfl⟩
  intro hnil
  rw [orderedPayloads_eq_nil] at hnil
  rw [Std.ExtTreeMap.isEmpty_iff.1 hnil] at hmem
  exact Std.ExtTreeMap.not_mem_empty hmem

/-- What a removal or a purge that was served has made. -/
theorem made_of_phase {block made : List SdkWrite} {u : HostProgress} (ht : Working h ws t)
    (hmade : made = block ∨ made = [] ∧ ∃ s, SdkProgress.Lacks h.handle s ∧ s.writes = [] ∧
      u.sdk = s.after t.sdk) : Batch.Made h u.sdk.listings ws block made := by
  refine hmade.imp_right ?_
  rintro ⟨hnil, s, hlacks, hwrites, hsdk⟩
  rw [hsdk, ← ht.writes]
  exact ⟨hnil, hlacks.after hwrites⟩

theorem monitored_applyBatch {b : Batch} (hb : Batch.collect actions = .ok b)
    (ht : Working h [] t) : Monitored (add rt) (Allows h actions)
      ((h.applyBatch b).interpret rt.serve)
      (fun _ u => ∃ plan, Batch.Plans h actions u.sdk.listings plan ∧ Working h plan u)
      (Failing h) t := by
  rw [DocumentHandler.applyBatch, interpret_bind]
  -- The removals.
  refine monitored_bind.2 ((monitored_phase (Q := fun _ => True) rfl
    (fun _ s hs => (SdkProgress.followed_forgetDocuments hs).mono (fun _ _ hs => ⟨hs, trivial⟩)
      fun _ _ => id) (fun hempty => ⟨map_ordered_of_empty hempty, trivial⟩) ht
    ⟨_, ⟨b, _, _, hb, .inl rfl, .inl rfl, rfl⟩, ?_⟩).mono ?_ fun _ _ => id)
  · exact ((List.prefix_append _ _).trans (List.prefix_append _ _)).trans (List.prefix_append _ _)
  rintro - u ⟨-, -, deletes, hu, hmade⟩
  have hdeletes := made_of_phase ht hmade
  clear hmade ht
  rw [interpret_bind]
  -- The purges.
  refine monitored_bind.2 ((monitored_phase (Q := fun _ => True) rfl
    (fun _ s hs => (SdkProgress.followed_forgetDocuments hs).mono (fun _ _ hs => ⟨hs, trivial⟩)
      fun _ _ => id) (fun hempty => ⟨map_ordered_of_empty hempty, trivial⟩) hu
    ⟨_, ⟨b, _, _, hb, hdeletes, .inl rfl, rfl⟩, ?_⟩).mono ?_ fun _ _ => id)
  · exact (List.prefix_append _ _).trans (List.prefix_append _ _)
  rintro - v ⟨-, hlistings, purges, hv, hmade⟩
  have hpurges := made_of_phase hu hmade
  replace hdeletes := hdeletes.mono hlistings
  clear hmade hlistings hu
  rw [interpret_bind, DocumentHandler.addPhase, ← ite_not]
  -- The adds, after which the dataset is known.
  have hadd (s : SdkProgress) (hs : SdkProgress.Opening [] s) :
      SdkProgress.Followed rt (Operation.addDocuments h.handle b.orderedPayloads).writes
        (rt.addDocuments h.handle b.orderedPayloads) (fun handle s => SdkProgress.Returned
          (Operation.addDocuments h.handle b.orderedPayloads).writes (fun _ => False) s ∧
            (b.orderedPayloads ≠ [] → handle.datasetId ≠ none)) s :=
    SdkProgress.followed_addDocuments hs
  refine monitored_bind.2 ((monitored_phase (c := .addDocuments h.handle b.orderedPayloads) rfl
    (fun _ => hadd) (fun hempty => ?_) hv ⟨_, ⟨b, _, _, hb, hdeletes, hpurges, rfl⟩, ?_⟩).mono ?_
      fun _ _ => id)
  · have hnil := orderedPayloads_eq_nil.2 (not_not.1 hempty)
    rw [Operation.writes, hnil]
    exact ⟨by simp [payloadGroups], fun hne => absurd rfl hne⟩
  · exact List.prefix_append _ _
  rintro handle w ⟨hhandle, hlistings, adds, hw, hmade⟩
  obtain rfl : adds = _ := hmade.resolve_right (by rintro ⟨-, -, hlacks, -⟩; exact hlacks)
  replace hdeletes := hdeletes.mono hlistings
  replace hpurges := hpurges.mono hlistings
  clear hmade hlistings
  -- The cognify.
  have hcognify (hP : b.needsCognify = true) (s : SdkProgress) (hs : SdkProgress.Opening [] s) :
      SdkProgress.Followed rt (if b.needsCognify then [.cognify (cognifyKwargs h.profile)] else [])
        (rt.cognifyDataset handle h.profile) (fun _ s => SdkProgress.Returned
          (if b.needsCognify then [.cognify (cognifyKwargs h.profile)] else []) (fun _ => False) s ∧
            True) s := by
    rw [if_pos hP]
    exact (SdkProgress.followed_cognifyDataset hs).mono (fun _ _ hs =>
      ⟨hs.imp fun hlacks => hhandle (orderedPayloads_ne_nil hb hP) hlacks.1, trivial⟩) fun _ _ => id
  refine (monitored_phase (c := .cognifyDataset handle h.profile) rfl hcognify
    (fun hnot => ⟨if_neg hnot, trivial⟩) hw ⟨_, ⟨b, _, _, hb, hdeletes, hpurges, rfl⟩,
      List.prefix_rfl⟩).mono ?_ fun _ _ => id
  rintro - x ⟨-, hlistings, cognify, hx, hmade⟩
  obtain rfl : cognify = _ := hmade.resolve_right (by rintro ⟨-, -, hlacks, -⟩; exact hlacks)
  exact ⟨_, ⟨b, _, _, hb, hdeletes.mono hlistings, hpurges.mono hlistings, rfl⟩, hx⟩

end HostProgress

end

end Cogindex
