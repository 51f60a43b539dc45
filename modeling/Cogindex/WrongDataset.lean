import Cogindex.AddDocuments

/-!
# Adds to another dataset

A runtime knows the id of a dataset from its handle, or learns it from a listing
after the first add. Adds that report another id are rejected if the handle has
an id; if it has none, the ids that the adds report are compared with nothing.

* `runs_addDocuments_unknown`: adds that report any id at all are taken for the
  adds to a dataset that is listed afterwards;
* `add_fails_closed_iff`: the handles for which adds to another dataset are
  rejected are those with an id, and those that are rejected at once.
-/

namespace Cogindex

open Coroutine LocalCogneeRuntime

section

variable [Platform]

/-- A result and its items are of the dataset with an id. -/
def RunInfo.ReportsId (result : RunInfo) (datasetId : String) : Prop :=
  result.datasetId = some datasetId ∧ ∀ entries, result.dataIngestionInfo = some entries →
    ∀ entry ∈ entries, ∃ item, entry.runInfo? = some item ∧ item.SameText datasetId

/-- The handle has an id, which is the one that all adds report. -/
def Agrees (handle : DatasetHandle) (t : LocalState) : Prop :=
  ∃ d, handle.datasetId = some d ∧ ∀ request result, (request, .ok result) ∈ t.adds →
    result.ReportsId (Platform.uuidStr d)

/-! ## Operations that return -/

section Returns

variable {rt : LocalCogneeRuntime} {handle : DatasetHandle} {s : LocalState}
  {payloads : List DocumentPayload}

/-- An accepted result reports one dataset, which is the expected one if there is one. -/
theorem reportsId_of_accepted {result : RunInfo} {dataset : String} {count : ℕ} {d : UUID}
    (h : result.Accepted RunInfo.SameText dataset (some count) (some d)) :
    result.ReportsId (Platform.uuidStr d) := by
  obtain ⟨datasetId, entries, -, hsucceeds, hexpected, hentries, -, hitems⟩ := h
  obtain rfl := hexpected d rfl
  refine ⟨hsucceeds.2.1, fun entries' hentries' entry hentry => ?_⟩
  obtain rfl := Option.some.inj (hentries.symm.trans hentries')
  obtain ⟨fields, run, rfl, hrun, -, hsame, -⟩ := hitems entry hentry
  exact ⟨run, hrun, hsame⟩

/-- Adds to a known dataset agree with it. -/
theorem agrees_of_isSome {pin : Option String} {setupDone : Bool} {h : DatasetHandle}
    {t : LocalState} (hid : handle.datasetId.isSome)
    (hrun : Runs LocalStep (rt.addDocuments handle payloads) ⟨pin, setupDone, []⟩ (.ret h) t) :
    Agrees h t := by
  obtain ⟨hhandle, adds, hadds, ht⟩ := wp_runs hrun wp_adds_addDocuments
  obtain rfl := hhandle hid
  obtain ⟨d, hd⟩ := Option.isSome_iff_exists.1 hid
  refine ⟨d, hd, fun request result hmem => ?_⟩
  rw [ht, LocalState.adds, List.filterMap_nil, List.nil_append] at hmem
  obtain ⟨group, -, -, result', heq, haccepted⟩ := exists_of_mem_forall₂ hadds hmem
  obtain rfl := Except.ok.inj heq
  rw [hd] at haccepted
  exact reportsId_of_accepted haccepted

/-- A coroutine that does anything. -/
theorem wp_trivial {α : Type} (p : LocalProgram α) {s : LocalState} :
    wp LocalStep p (fun _ _ => True) (fun _ _ => True) s := by
  induction p generalizing s with
  | ret a => trivial
  | raise e => trivial
  | await c k ih => exact fun r s' _ => ih r

/-- The user that is acted for is one that the runtime can act as. -/
theorem wp_resolveActingUser_actsAs :
    wp LocalStep rt.resolveActingUser (fun u _ => ∃ c, rt.ActsAs u c) (fun _ _ => True) s := by
  have hcheck {u : SdkUser} {t : LocalState}
      (hconfigured : ∀ c, userCoordinates u = .ok c → rt.ActsAs u c) :
      wp LocalStep (do
        let _ ← ofExcept (userCoordinates u)
        return u) (fun u _ => ∃ c, rt.ActsAs u c) (fun _ _ => True) t := by
    rw [wp_bind, wp_ofExcept]
    exact ⟨fun c hc => ⟨c, hconfigured c hc⟩, fun _ _ => trivial⟩
  rw [resolveActingUser]
  cases hrt : rt.user with
  | none =>
    refine wp_bind.2 (wp_call.2 ⟨fun u t _ => hcheck fun c hc => ⟨hc, fun configured h => ?_⟩,
      fun _ _ _ => trivial⟩)
    rw [hrt] at h
    cases h
  | some configured =>
    rw [wp_bind, wp_ofExcept]
    refine ⟨fun c hc => ?_, fun _ _ => trivial⟩
    -- The user that was read again has the coordinates of the configured one.
    refine wp_bind.2 (wp_call.2 ⟨fun u t _ => ?_, fun _ _ _ => trivial⟩)
    rw [wp_bind, wp_ofExcept]
    refine ⟨fun c' hc' => wp_ite (fun _ => trivial) fun hsame => hcheck fun c'' hc'' => ?_,
      fun _ _ => trivial⟩
    refine ⟨hc'', fun configured' h => ?_⟩
    rw [hrt] at h
    obtain rfl := Option.some.inj h
    rw [hc, ← not_not.1 hsame, ← hc', hc'']

/-- What returns does so for an admitted handle. -/
theorem wp_admits (hne : payloads ≠ []) :
    wp LocalStep (rt.addDocuments handle payloads) (fun _ _ => rt.Admits handle)
      (fun _ _ => True) s := by
  -- What is admitted depends on the handle and the user only, so it survives any call.
  have hkeep {α : Type} {p : LocalProgram α} {P : Prop} {s : LocalState} (hP : P) :
      wp LocalStep p (fun _ _ => P) (fun _ _ => True) s :=
    wp_mono (wp_trivial p) (fun _ _ _ => hP) fun _ _ => id
  have hvalidate : wp LocalStep (rt.validateHandle handle)
      (fun _ _ => validateDatasetName handle.name = .ok () ∧ validateTenant handle.tenant = .ok ())
      (fun _ _ => True) s := by
    rw [validateHandle, wp_bind, wp_ofExcept]
    refine ⟨fun _ hname => ?_, fun _ _ => trivial⟩
    rw [wp_bind, wp_ofExcept]
    exact ⟨fun _ htenant => hkeep ⟨hname, htenant⟩, fun _ _ => trivial⟩
  rw [addDocuments, wp_bind]
  refine wp_mono hvalidate ?_ fun _ _ => id
  rintro - t₁ ⟨hname, htenant⟩
  refine wp_ite (fun hempty => absurd (List.isEmpty_iff.1 hempty) hne) fun _ => ?_
  rw [wp_bind]
  refine wp_mono (wp_trivial rt.ensureReady) (fun _ t₂ _ => ?_) fun _ _ => id
  rw [wp_bind, bindUser, wp_bind]
  refine wp_mono wp_resolveActingUser_actsAs ?_ fun _ _ => id
  rintro user t₃ ⟨c, hacts⟩
  rw [wp_bind, wp_ofExcept]
  refine ⟨fun sc hsc => ?_, fun _ _ => trivial⟩
  rw [wp_bind]
  refine wp_mono (wp_trivial (bindRuntimeScope sc)) (fun _ t₄ _ => ?_) fun _ _ => id
  refine wp_ite (fun _ => trivial) fun hscope => hkeep ⟨hname, htenant, user, c, hacts, ?_⟩
  rw [physicalIdentityScope_ok hacts.1 hsc, not_not.1 hscope]

end Returns

/-- Adds to another dataset are rejected for the handles with an id, and for those
    that are rejected at once; for all others they may be accepted. -/
theorem add_fails_closed_iff (rt : LocalCogneeRuntime) (handle : DatasetHandle)
    (payloads : List DocumentPayload) (hne : payloads ≠ []) :
    (∀ pin setupDone h t, Runs LocalStep (rt.addDocuments handle payloads) ⟨pin, setupDone, []⟩
      (ret h) t → Agrees h t) ↔ handle.datasetId.isSome ∨ ¬rt.Admits handle := by
  constructor
  · intro hall
    by_contra hnot
    push Not at hnot
    obtain ⟨hnone, hadmits⟩ := hnot
    obtain ⟨user, c, hacts, -⟩ := hadmits.user
    -- The adds report another text than that of the id that is listed.
    let d : UUID := c.1
    have hne' : Platform.uuidStr d ++ "?" ≠ Platform.uuidStr d := fun h => by
      simpa using congrArg String.length h
    obtain ⟨t, hrun, hadds⟩ :=
      runs_addDocuments_unknown hadmits (by simpa using hnone) hne (Platform.uuidStr d ++ "?") d
    obtain ⟨d', hd', hreports⟩ := hall _ _ _ _ hrun
    obtain rfl := Option.some.inj hd'
    obtain ⟨group, hgroup⟩ := List.exists_mem_of_ne_nil _ (payloadGroups_ne_nil hne)
    rw [hadds] at hreports
    exact hne' (Option.some.inj (hreports _ _ (mem_successes _ _ hgroup)).1)
  · rintro (hid | hadmits) pin setupDone h t hrun
    · exact agrees_of_isSome hid hrun
    · exact absurd (wp_runs hrun (wp_admits hne)) hadmits

end

/-- The first add of Alice is reported for another dataset than the one that is
    listed as hers, and the operation returns. -/
theorem add_accepts_wrong_dataset :
    letI : Platform := .sample
    let handle := { DatasetHandle.sample with datasetId := some "hers" }
    ∃ t, Runs LocalStep
        (LocalCogneeRuntime.sample.addDocuments DatasetHandle.sample [DocumentPayload.sample "a"])
        ⟨some DatasetHandle.sample.identityScope, false, []⟩ (ret handle) t ∧
      (∃ request result, (request, .ok result) ∈ t.adds ∧
        result.datasetId = some (Platform.uuidStr "other")) ∧ ¬Agrees handle t := by
  let _ : Platform := .sample
  intro handle
  have hadmits : LocalCogneeRuntime.sample.Admits DatasetHandle.sample :=
    ⟨by decide, by decide, .sample "alice", ("alice", none), ⟨rfl, nofun⟩, rfl⟩
  obtain ⟨t, hrun, hadds⟩ := runs_addDocuments_unknown hadmits rfl
    (List.cons_ne_nil (DocumentPayload.sample "a") []) (Platform.uuidStr "other") "hers"
  obtain ⟨group, hgroup⟩ := List.exists_mem_of_ne_nil _
    (payloadGroups_ne_nil (List.cons_ne_nil (DocumentPayload.sample "a") []))
  have hmem := mem_successes DatasetHandle.sample (Platform.uuidStr "other") hgroup
  rw [← hadds] at hmem
  refine ⟨t, hrun, ⟨_, _, hmem, rfl⟩, ?_⟩
  rintro ⟨d, hd, hreports⟩
  cases hd
  have heq : Platform.uuidStr "other" = Platform.uuidStr "hers" :=
    Option.some.inj (hreports _ _ hmem).1
  exact absurd heq (by decide)

/-- Adds to a dataset that is known are of this dataset. -/
theorem add_fails_closed_iff_known :
    letI : Platform := .sample
    let handle := { DatasetHandle.sample with datasetId := some "hers" }
    let payloads := [DocumentPayload.sample "a"]
    payloads ≠ [] ∧ ∀ pin setupDone h t, Runs LocalStep
      (LocalCogneeRuntime.sample.addDocuments handle payloads) ⟨pin, setupDone, []⟩ (ret h) t →
        Agrees h t := by
  let _ : Platform := .sample
  intro handle payloads
  have hne : payloads ≠ [] := List.cons_ne_nil _ _
  exact ⟨hne, (add_fails_closed_iff .sample handle payloads hne).2 (.inl rfl)⟩

end Cogindex
