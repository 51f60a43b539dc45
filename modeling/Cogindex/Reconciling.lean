import Cogindex.Target

/-!
# What reconciling decides

Everything that is used of `DocumentHandler.reconcileId`: when there is nothing
to do (`reconcileId_eq_none_iff`), what an output contains (`reconcileId_action`),
and what each write operation says about the possible records (`Classified`).
-/

namespace Cogindex

variable [Platform]

/-- What a write operation says about the possible records. -/
inductive Classified (desired : DocumentRecord) (prev : List DocumentRecord) (missing : Bool) :
    DocumentOp → Prop
  | recreate : (∃ r ∈ prev, ¬r.SameWeight desired) → Classified desired prev missing .recreate
  | replace : (∀ r ∈ prev, r.SameWeight desired) →
    (missing = true ∨ ∃ r ∈ prev, ¬r.SameDerivatives desired) →
      Classified desired prev missing .replace
  | upsert : prev = [] → missing = true → Classified desired prev missing .upsert
  | updateMetadata : missing = false → prev ≠ [] →
    (∀ r ∈ prev, r.SameWeight desired ∧ r.SameDerivatives desired) →
      Classified desired prev missing .updateMetadata

theorem classifyWrite_classified (hdiff : DiffContract) {desired : DocumentRecord}
    {prev : List DocumentRecord} {missing : Bool} {action : DiffAction}
    (h : Platform.diff (some desired) prev missing = some action) :
    Classified desired prev missing (classifyWrite action desired prev missing) := by
  unfold classifyWrite
  split_ifs with hweight hinsert huncertain hsafe
  · exact .recreate hweight.2
  · refine .replace (fun r hr => ?_) (.inl huncertain.1)
    by_contra hr'
    exact hweight ⟨huncertain.2, r, hr, hr'⟩
  · -- A create: over a state that cannot be missing, there would be nothing to
    -- do, or a replacement.
    have hmissing : missing = true := by
      by_contra hmissing
      rw [Bool.not_eq_true] at hmissing
      subst hmissing
      by_cases hall : ∀ r ∈ prev, r = desired
      · rw [(hdiff.none_iff desired prev false).2 ⟨rfl, hall⟩] at h
        cases h
      · push Not at hall
        rw [hdiff.replace desired prev hall] at h
        cases h
        exact absurd hinsert (by decide)
    refine .upsert ?_ hmissing
    by_contra hprev
    exact huncertain ⟨hmissing, hprev⟩
  · have hprev : prev ≠ [] := by
      rintro rfl
      rw [(hdiff.none_iff desired [] missing).2 ⟨hsafe.1, nofun⟩] at h
      cases h
    refine .updateMetadata hsafe.1 hprev fun r hr => ⟨?_, hsafe.2 r hr⟩
    by_contra hr'
    exact hweight ⟨hprev, r, hr, hr'⟩
  · refine .replace (fun r hr => ?_) ?_
    · by_contra hr'
      exact hweight ⟨List.ne_nil_of_mem hr, r, hr, hr'⟩
    · by_cases hmissing : missing = true
      · exact .inl hmissing
      · refine .inr ?_
        by_contra hall
        push Not at hall
        exact hsafe ⟨Bool.eq_false_iff.2 hmissing, hall⟩

namespace DocumentHandler

variable {h : DocumentHandler} {externalKey : String} {i : UUID} {prev : List DocumentRecord}
  {missing : Bool}

theorem mem_staleDataIds {j : UUID} :
    j ∈ staleDataIds i prev ↔ j ≠ i ∧ ∃ r ∈ prev, r.dataId = j := by
  rw [staleDataIds, ordered, Finset.mem_sort, Finset.mem_erase, List.mem_toFinset, List.mem_map]

/-- A document that is not to exist: nothing is done only if it cannot. -/
theorem reconcileId_delete_eq_none_iff :
    h.reconcileId externalKey i none prev missing = none ↔ prev = [] ∧ missing = false := by
  unfold reconcileId
  split_ifs with hnone
  · exact iff_of_true rfl hnone
  · exact iff_of_false nofun hnone

/-- A document that is to exist: nothing is done only if it cannot be missing,
    and every possible record is the desired one. -/
theorem reconcileId_eq_none_iff (hdiff : DiffContract) {spec : CogneeDocumentSpec} :
    h.reconcileId externalKey i (some spec) prev missing = none ↔
      missing = false ∧ ∀ r ∈ prev, r = documentRecordFor spec i h.processingFingerprint := by
  unfold reconcileId
  rw [Option.map_eq_none_iff, hdiff.none_iff]

/-- The action of an output is for the document, and removes its stale ids. -/
theorem reconcileId_action {desired : Option CogneeDocumentSpec} {o : ReconcileOutput}
    (ho : h.reconcileId externalKey i desired prev missing = some o) :
    o.action.dataId = i ∧ o.action.staleDataIds = staleDataIds i prev ∧
      (o.action.op = .delete ↔ desired = none) ∧
      o.action.payload = desired.map (payloadFor · i) ∧
      o.trackingRecord = desired.map (documentRecordFor · i h.processingFingerprint) := by
  cases desired with
  | none =>
    simp only [reconcileId] at ho
    split_ifs at ho
    cases ho
    exact ⟨rfl, rfl, iff_of_true rfl rfl, rfl, rfl⟩
  | some spec =>
    simp only [reconcileId, Option.map_eq_some_iff] at ho
    obtain ⟨action, -, rfl⟩ := ho
    refine ⟨rfl, rfl, iff_of_false ?_ nofun, rfl, rfl⟩
    show classifyWrite _ _ _ _ ≠ _
    unfold classifyWrite
    split_ifs <;> decide

/-- A write operation says what is known of the possible records. -/
theorem reconcileId_classified (hdiff : DiffContract) {spec : CogneeDocumentSpec}
    {o : ReconcileOutput} (ho : h.reconcileId externalKey i (some spec) prev missing = some o) :
    Classified (documentRecordFor spec i h.processingFingerprint) prev missing o.action.op := by
  simp only [reconcileId, Option.map_eq_some_iff] at ho
  obtain ⟨action, haction, rfl⟩ := ho
  exact classifyWrite_classified hdiff haction

end DocumentHandler

end Cogindex
