import Cogindex.Reconciling
import Mathlib.Order.Bounds.Basic
import Mathlib.Order.WithBot

/-!
# The worst of the possible pasts

The tracking store may have several records of a document, one of which is what
Cognee holds. Each of them alone demands some write, or none
(`DocumentRecord.demand`), and the writes are ordered by what they redo:
reconciling decides on the greatest of the demands
(`DocumentHandler.isGreatest_demand`), and deletes the stale ids of all records.

* `worst_case`: so the decision depends only on the set of the records, and is
  never weaker for more records, or a state that may be missing.
-/

namespace Cogindex

/-- The strength of a write operation: how much of the document it redoes. -/
def DocumentOp.rank : DocumentOp → ℕ
  | updateMetadata => 0
  | upsert => 1
  | replace => 2
  | recreate => 3
  | delete => 4

theorem DocumentOp.rank_injective : Function.Injective DocumentOp.rank := by
  intro op op' h
  cases op <;> cases op' <;> first | rfl | cases h

/-- Write operations are ordered by their strength. -/
instance : LinearOrder DocumentOp := LinearOrder.lift' DocumentOp.rank DocumentOp.rank_injective

/-- Doing nothing is weaker than any write. -/
example : (⊥ : WithBot DocumentOp) < DocumentOp.updateMetadata ∧
    DocumentOp.updateMetadata < .replace ∧ DocumentOp.replace < .recreate :=
  ⟨WithBot.bot_lt_coe _, by decide, by decide⟩

section

variable [Platform]

/-- The operation of an outcome of reconciling. -/
def ReconcileOutput.op (o : Option ReconcileOutput) : WithBot DocumentOp := o.map (·.action.op)

/-- The ids that it deletes as stale. -/
def ReconcileOutput.staleDataIds : Option ReconcileOutput → List UUID
  | none => []
  | some o => o.action.staleDataIds

namespace DocumentRecord

/-- What a possible record demands. -/
def demand (desired : DocumentRecord) (missing : Bool) (r : DocumentRecord) : WithBot DocumentOp :=
  if ¬r.SameWeight desired then DocumentOp.recreate
  else if missing = true ∨ ¬r.SameDerivatives desired then DocumentOp.replace
  else if r = desired then ⊥
  else DocumentOp.updateMetadata

variable {desired r : DocumentRecord} {missing : Bool}

theorem demand_le_recreate : demand desired missing r ≤ DocumentOp.recreate := by
  unfold demand
  split_ifs <;> first | exact bot_le | exact WithBot.coe_le_coe.2 (by decide)

theorem demand_le_replace (hr : r.SameWeight desired) :
    demand desired missing r ≤ DocumentOp.replace := by
  rw [demand, if_neg (not_not.2 hr)]
  split_ifs <;> first | exact bot_le | exact WithBot.coe_le_coe.2 (by decide)

/-- A state that may be missing is replaced at least. -/
theorem replace_le_demand : (DocumentOp.replace : WithBot DocumentOp) ≤ demand desired true r := by
  unfold demand
  rw [if_pos (Or.inl rfl)]
  split_ifs <;> exact WithBot.coe_le_coe.2 (by decide)

theorem demand_mono {missing' : Bool} (hle : missing ≤ missing') :
    demand desired missing r ≤ demand desired missing' r := by
  cases missing' with
  | false => rw [le_bot_iff.1 hle]; rfl
  | true =>
    by_cases hr : r.SameWeight desired
    · exact (demand_le_replace hr).trans replace_le_demand
    · simp only [demand, if_pos hr, le_refl]

end DocumentRecord

namespace DocumentHandler

open ReconcileOutput

variable {h : DocumentHandler} {externalKey : String} {i : UUID} {spec : CogneeDocumentSpec}
  {prev prev' : List DocumentRecord} {missing missing' : Bool}

/-- The decision is the greatest of the demands of the records. -/
theorem isGreatest_demand (hdiff : DiffContract) (hprev : prev ≠ []) :
    IsGreatest {x | ∃ r ∈ prev,
        (documentRecordFor spec i h.processingFingerprint).demand missing r = x}
      (op (h.reconcileId externalKey i (some spec) prev missing)) := by
  set desired := documentRecordFor spec i h.processingFingerprint with hdesired
  obtain ⟨r₀, hr₀⟩ := List.exists_mem_of_ne_nil prev hprev
  cases ho : h.reconcileId externalKey i (some spec) prev missing with
  | none =>
    -- Every record is the desired one, and demands nothing.
    obtain ⟨rfl, hall⟩ := (reconcileId_eq_none_iff hdiff).1 ho
    have hnothing {r : DocumentRecord} (hr : r ∈ prev) : desired.demand false r = ⊥ := by
      rw [hall r hr, ← hdesired]
      simp [DocumentRecord.demand, DocumentRecord.SameWeight, DocumentRecord.SameDerivatives]
    exact ⟨⟨r₀, hr₀, hnothing hr₀⟩, by rintro x ⟨r, hr, rfl⟩; exact (hnothing hr).le⟩
  | some o =>
    have hclass := reconcileId_classified hdiff ho
    rw [← hdesired] at hclass
    show IsGreatest _ (o.action.op : WithBot DocumentOp)
    cases hop : o.action.op with
    | recreate =>
      rw [hop] at hclass
      cases hclass with | recreate hex =>
      obtain ⟨r, hr, hweight⟩ := hex
      refine ⟨⟨r, hr, if_pos hweight⟩, ?_⟩
      rintro x ⟨r, -, rfl⟩
      exact DocumentRecord.demand_le_recreate
    | replace =>
      rw [hop] at hclass
      cases hclass with | replace hsame hcause =>
      refine ⟨?_, ?_⟩
      · have hdemand : ∃ r ∈ prev, missing = true ∨ ¬r.SameDerivatives desired := by
          rcases hcause with hmissing | ⟨r, hr, hder⟩
          exacts [⟨r₀, hr₀, .inl hmissing⟩, ⟨r, hr, .inr hder⟩]
        obtain ⟨r, hr, hdemand⟩ := hdemand
        exact ⟨r, hr, (if_neg (not_not.2 (hsame r hr))).trans (if_pos hdemand)⟩
      · rintro x ⟨r, hr, rfl⟩
        exact DocumentRecord.demand_le_replace (hsame r hr)
    | upsert =>
      rw [hop] at hclass
      cases hclass with | upsert hnil _ =>
      exact absurd hnil hprev
    | updateMetadata =>
      rw [hop] at hclass
      cases hclass with | updateMetadata hmissing _ hsame =>
      have hdemand {r : DocumentRecord} (hr : r ∈ prev) : desired.demand missing r =
          if r = desired then ⊥ else (DocumentOp.updateMetadata : WithBot DocumentOp) := by
        rw [DocumentRecord.demand, if_neg (not_not.2 (hsame r hr).1), if_neg]
        rintro (h | h)
        · cases hmissing.symm.trans h
        · exact h (hsame r hr).2
      -- Some record differs in a field that shapes no derivative.
      obtain ⟨r, hr, hne⟩ : ∃ r ∈ prev, r ≠ desired := by
        by_contra hall
        push Not at hall
        rw [(reconcileId_eq_none_iff hdiff).2 ⟨hmissing, hall⟩] at ho
        cases ho
      refine ⟨⟨r, hr, (hdemand hr).trans (if_neg hne)⟩, ?_⟩
      rintro x ⟨r, hr, rfl⟩
      rw [hdemand hr]
      split_ifs
      exacts [bot_le, le_rfl]
    | delete =>
      rw [hop] at hclass
      cases hclass

/-- A record taken alone is met with what it demands. -/
theorem op_singleton (hdiff : DiffContract) (r : DocumentRecord) :
    op (h.reconcileId externalKey i (some spec) [r] missing) =
      (documentRecordFor spec i h.processingFingerprint).demand missing r := by
  have hgreatest := @isGreatest_demand _ h externalKey i spec [r] missing hdiff
    (List.cons_ne_nil r [])
  obtain ⟨r', hr', heq⟩ := hgreatest.1
  rw [List.mem_singleton.1 hr'] at heq
  exact heq.symm

/-- Without records, a document is created if it may be missing. -/
theorem op_nil (hdiff : DiffContract) :
    op (h.reconcileId externalKey i (some spec) [] missing) =
      if missing then (DocumentOp.upsert : WithBot DocumentOp) else ⊥ := by
  cases missing with
  | false => rw [(reconcileId_eq_none_iff hdiff).2 ⟨rfl, fun _ h => absurd h List.not_mem_nil⟩]; rfl
  | true =>
    simp only [reconcileId, hdiff.insert, Option.map_some]
    rfl

/-- More records, or a state that may be missing, never make a decision weaker. -/
theorem op_mono (hdiff : DiffContract) (hsub : prev ⊆ prev') (hle : missing ≤ missing') :
    op (h.reconcileId externalKey i (some spec) prev missing) ≤
      op (h.reconcileId externalKey i (some spec) prev' missing') := by
  -- Without a previous record, only a row that may be missing asks for anything, which is
  -- less than any record asks for then.
  by_cases hprev : prev = []
  · subst hprev
    rw [op_nil hdiff]
    cases missing with
    | false => exact bot_le
    | true =>
      obtain rfl : missing' = true := top_le_iff.1 hle
      by_cases hprev' : prev' = []
      · rw [hprev', op_nil hdiff]
      · obtain ⟨r, hr⟩ := List.exists_mem_of_ne_nil prev' hprev'
        have hlt : (DocumentOp.upsert : WithBot DocumentOp) ≤ DocumentOp.replace :=
          WithBot.coe_le_coe.2 (by decide)
        exact (hlt.trans DocumentRecord.replace_le_demand).trans
          ((h.isGreatest_demand hdiff hprev').2 ⟨r, hr, rfl⟩)
  · obtain ⟨r, hr, heq⟩ := (@isGreatest_demand _ h externalKey i spec prev missing hdiff hprev).1
    rw [← heq]
    exact (DocumentRecord.demand_mono hle).trans
      ((h.isGreatest_demand hdiff (List.ne_nil_of_mem (hsub hr))).2 ⟨r, hsub hr, rfl⟩)

/-- A document is created only if it has no record. -/
theorem eq_nil_of_upsert (hdiff : DiffContract)
    (ho : op (h.reconcileId externalKey i (some spec) prev missing) = DocumentOp.upsert) :
    prev = [] := by
  by_contra hprev
  obtain ⟨r, -, heq⟩ := (h.isGreatest_demand hdiff hprev).1
  rw [ho, DocumentRecord.demand] at heq
  split_ifs at heq <;> cases heq

/-- The stale ids are those of all records. -/
theorem mem_staleDataIds_iff (hdiff : DiffContract) {desired : Option CogneeDocumentSpec}
    {j : UUID} :
    j ∈ ReconcileOutput.staleDataIds (h.reconcileId externalKey i desired prev missing) ↔
      ∃ r ∈ prev, r.dataId = j ∧ j ≠ i := by
  cases ho : h.reconcileId externalKey i desired prev missing with
  | some o =>
    rw [ReconcileOutput.staleDataIds, (reconcileId_action ho).2.1, mem_staleDataIds]
    constructor
    · rintro ⟨hne, r, hr, hri⟩
      exact ⟨r, hr, hri, hne⟩
    · rintro ⟨r, hr, hri, hne⟩
      exact ⟨hne, r, hr, hri⟩
  | none =>
    -- Every record has the id of the document.
    refine iff_of_false List.not_mem_nil ?_
    rintro ⟨r, hr, rfl, hne⟩
    cases desired with
    | none =>
      rw [(reconcileId_delete_eq_none_iff.1 ho).1] at hr
      exact absurd hr List.not_mem_nil
    | some spec =>
      rw [((reconcileId_eq_none_iff hdiff).1 ho).2 r hr] at hne
      exact hne rfl

/-- Apart from the operation, an output depends only on the stale ids. -/
theorem reconcileId_eq_map_op : h.reconcileId externalKey i (some spec) prev missing =
    Option.map (fun op => ⟨⟨op, externalKey, i, DocumentHandler.staleDataIds i prev,
      some (payloadFor spec i)⟩, some (documentRecordFor spec i h.processingFingerprint)⟩)
      (op (h.reconcileId externalKey i (some spec) prev missing)) := by
  simp only [reconcileId, op, Option.map_map]
  rfl

/-- Equal sets of records are met with the same output. -/
theorem reconcileId_congr (hdiff : DiffContract) {desired : Option CogneeDocumentSpec}
    (hset : ∀ r, r ∈ prev ↔ r ∈ prev') :
    h.reconcileId externalKey i desired prev missing =
      h.reconcileId externalKey i desired prev' missing := by
  have hstale : DocumentHandler.staleDataIds i prev = DocumentHandler.staleDataIds i prev' := by
    refine congrArg ordered (Finset.ext fun j => ?_)
    simp only [Finset.mem_erase, List.mem_toFinset, List.mem_map, hset]
  have hnil : prev = [] ↔ prev' = [] := by
    simp only [List.eq_nil_iff_forall_not_mem, hset]
  cases desired with
  | none => simp only [reconcileId, hnil, hstale]
  | some spec =>
    have hop := le_antisymm
      (@op_mono _ h externalKey i spec prev prev' missing missing hdiff (fun r => (hset r).1)
        le_rfl)
      (op_mono hdiff (fun r => (hset r).2) le_rfl)
    rw [reconcileId_eq_map_op, hop, hstale, ← reconcileId_eq_map_op]

end DocumentHandler

/-- Whether and how a document is written is the worst case over its possible
    records; its stale ids are those of all of them. -/
theorem worst_case (hdiff : DiffContract) (h : DocumentHandler) (key : PyKey) :
    (∃ e, ∀ desired prev missing, h.reconcile key desired prev missing = .error e) ∨
    ∃ outcome : Option CogneeDocumentSpec → List DocumentRecord → Bool → Option ReconcileOutput,
      (∀ desired prev missing,
        h.reconcile key desired prev missing = .ok (outcome desired prev missing)) ∧
      (∀ spec prev missing, prev ≠ [] →
        IsGreatest {x | ∃ r ∈ prev, ReconcileOutput.op (outcome (some spec) [r] missing) = x}
          (ReconcileOutput.op (outcome (some spec) prev missing)) ∧
        ∀ j, j ∈ ReconcileOutput.staleDataIds (outcome (some spec) prev missing) ↔
          ∃ r ∈ prev, j ∈ ReconcileOutput.staleDataIds (outcome (some spec) [r] missing)) ∧
      (∀ spec prev prev' missing, (∀ r, r ∈ prev ↔ r ∈ prev') →
        outcome (some spec) prev missing = outcome (some spec) prev' missing) ∧
      (∀ spec prev prev' missing missing', prev ⊆ prev' → missing ≤ missing' →
        ReconcileOutput.op (outcome (some spec) prev missing) ≤
          ReconcileOutput.op (outcome (some spec) prev' missing')) ∧
      (∀ spec prev missing,
        ReconcileOutput.op (outcome (some spec) prev missing) = DocumentOp.upsert → prev = []) ∧
      ∀ prev missing, outcome none prev missing = none ↔ prev = [] ∧ missing = false := by
  -- Only the key decides whether reconciling raises.
  cases key with
  | other typeName => exact .inl ⟨_, fun _ _ _ => rfl⟩
  | str key =>
    cases hkey : normalizeExternalKey key with
    | error e =>
      refine .inl ⟨e, fun desired prev missing => ?_⟩
      simp only [DocumentHandler.reconcile, DocumentHandler.reconcileWith, hkey]
      rfl
    | ok externalKey =>
      cases hid : h.dataIdWith documentDataId externalKey with
      | error e =>
        refine .inl ⟨e, fun desired prev missing => ?_⟩
        simp only [DocumentHandler.reconcile, DocumentHandler.reconcileWith, hkey]
        show (h.dataIdWith documentDataId externalKey >>= _) = _
        rw [hid]
        rfl
      | ok i =>
        refine .inr ⟨h.reconcileId externalKey i, fun desired prev missing => ?_,
          fun spec prev missing hprev => ⟨?_, fun j => ?_⟩,
          fun spec prev prev' missing => DocumentHandler.reconcileId_congr hdiff,
          fun spec prev prev' missing missing' => DocumentHandler.op_mono hdiff,
          fun spec prev missing => DocumentHandler.eq_nil_of_upsert hdiff,
          fun prev missing => DocumentHandler.reconcileId_delete_eq_none_iff⟩
        · simp only [DocumentHandler.reconcile, DocumentHandler.reconcileWith, hkey]
          show (h.dataIdWith documentDataId externalKey >>= _) = _
          rw [hid]
          rfl
        · simp only [DocumentHandler.op_singleton hdiff]
          exact DocumentHandler.isGreatest_demand hdiff hprev
        · simp only [DocumentHandler.mem_staleDataIds_iff hdiff, List.mem_singleton,
            exists_eq_left]

end

/-- One record has another weight and one an old id: the document is recreated for
    the sake of the one, and the old id deleted for the sake of the other. -/
theorem worst_case_sample :
    letI : Platform := .sample
    let spec := CogneeDocumentSpec.sample "alpha" "A"
    let i : UUID := canonicalJoin
      [IDENTITY_SCHEMA_VERSION.repr, "rt", "fake-default", "default", "ds", "a.md"]
    let weighted := { documentRecordFor spec i "pfp-A" with importanceWeightFingerprint := "0.5" }
    let moved := documentRecordFor spec "old" "pfp-A"
    ∃ outcome : List DocumentRecord → Option ReconcileOutput,
      (∀ prev, DocumentHandler.sample.reconcile (.str "a.md") (some spec) prev false =
        .ok (outcome prev)) ∧
      ReconcileOutput.op (outcome [moved]) < DocumentOp.recreate ∧
      ReconcileOutput.op (outcome [weighted, moved]) = DocumentOp.recreate ∧
      "old" ∉ ReconcileOutput.staleDataIds (outcome [weighted]) ∧
      "old" ∈ ReconcileOutput.staleDataIds (outcome [weighted, moved]) := by
  let _ : Platform := .sample
  intro spec i weighted moved
  have hkey : Coordinate "a.md" := by decide
  have hone (prev : List DocumentRecord) :
      DocumentHandler.sample.reconcile (.str "a.md") (some spec) prev false =
        .ok (DocumentHandler.sample.reconcileId "a.md" i (some spec) prev false) := by
    rw [DocumentHandler.reconcile, DocumentHandler.reconcileWith]
    simp only [normalizeExternalKey_ok_iff.2 ⟨hkey, rfl⟩]
    show (DocumentHandler.sample.dataIdWith documentDataId "a.md" >>= _) = _
    rw [DocumentHandler.sample_dataIdWith hkey]
    rfl
  rcases worst_case Platform.sample_diff .sample (.str "a.md") with
    ⟨e, he⟩ | ⟨outcome, hout, hworst, -⟩
  · cases (he (some spec) [] false).symm.trans (hone [])
  obtain ⟨hgreatest, hstale⟩ := hworst spec [weighted, moved] false (List.cons_ne_nil _ _)
  have houtcome (prev : List DocumentRecord) : outcome (some spec) prev false =
      DocumentHandler.sample.reconcileId "a.md" i (some spec) prev false :=
    Except.ok.inj ((hout _ _ _).symm.trans (hone prev))
  -- What each of the records demands.
  have hweighted : ReconcileOutput.op (outcome (some spec) [weighted] false) =
      DocumentOp.recreate := by
    rw [houtcome, DocumentHandler.op_singleton Platform.sample_diff]
    exact if_pos (by decide)
  have hmoved : ReconcileOutput.op (outcome (some spec) [moved] false) < DocumentOp.recreate := by
    rw [houtcome, DocumentHandler.op_singleton Platform.sample_diff]
    have hlt : (DocumentOp.replace : WithBot DocumentOp) < DocumentOp.recreate :=
      WithBot.coe_lt_coe.2 (by decide)
    refine lt_of_le_of_lt (DocumentRecord.demand_le_replace ?_) hlt
    rfl
  refine ⟨fun prev => outcome (some spec) prev false, fun prev => hout _ _ _, hmoved, ?_, ?_, ?_⟩
  · refine le_antisymm ?_ (hgreatest.2 ⟨weighted, List.mem_cons_self, hweighted⟩)
    obtain ⟨r, -, hr⟩ := hgreatest.1
    rw [← hr, houtcome, DocumentHandler.op_singleton Platform.sample_diff]
    exact DocumentRecord.demand_le_recreate
  · show "old" ∉ ReconcileOutput.staleDataIds (outcome (some spec) [weighted] false)
    rw [houtcome, DocumentHandler.mem_staleDataIds_iff Platform.sample_diff]
    rintro ⟨r, hr, hid, -⟩
    rw [List.mem_singleton.1 hr] at hid
    revert hid
    decide
  · refine (hstale "old").2 ⟨moved, List.mem_cons_of_mem _ List.mem_cons_self, ?_⟩
    rw [houtcome, DocumentHandler.mem_staleDataIds_iff Platform.sample_diff]
    exact ⟨moved, List.mem_cons_self, rfl, by decide⟩

end Cogindex
