import Cogindex.Target

/-!
# Drift verification

`verifyDataset` compares the documents that are expected in a dataset with
those that the runtime lists, under the lock of the dataset. It derives the
`data_id` of an expected document by itself, from its external key.

* `verification`: what the comparison comes to, given a listing;
* `runs_verifyDataset`: whatever runtime answers with a listing, this is the
  outcome;
* `verification_exact`: the errors for repeated keys and rows, and otherwise
  one issue for each difference and no other (`Difference`), in the order of
  the ids.
-/

namespace Cogindex

open Coroutine

section

variable [Platform]

/-! ## Expectations and reports -/

/-- What the caller believes is materialized for an external key. -/
structure ExpectedDocument where
  externalKey : String
  label : Option String := none

/-- The kinds of issues. -/
inductive IssueKind
  | missing
  | unexpected
  | incomplete
  | labelMismatch
  deriving DecidableEq

/-- A difference between what is expected and what is stored. -/
structure VerificationIssue where
  kind : IssueKind
  dataId : UUID
  /-- Nothing for documents that were never declared. -/
  externalKey : Option String
  detail : String
  deriving DecidableEq

/-- What verifying a dataset found. -/
structure VerificationReport where
  dataset : String
  tenant : String
  checked : ℕ
  issues : List VerificationIssue

/-- There are no issues. -/
def VerificationReport.ok (report : VerificationReport) : Bool := report.issues.isEmpty

/-! ## Comparison -/

/-- A dict of items by their ids; an id that is there already is an error. -/
def indexBy {α : Type} (idOf : α → Except PyError UUID) (duplicate : α → α → PyError) :
    List α → List (UUID × α) → Except PyError (List (UUID × α))
  | [], byId => .ok byId
  | item :: items, byId => do
    let dataId ← idOf item
    match byId.lookup dataId with
    | some previous => throw (duplicate previous item)
    | none => indexBy idOf duplicate items (byId ++ [(dataId, item)])

/-- The `data_id` of an expected document, as the target derives it. -/
def ExpectedDocument.dataId (runtimeKey identityScope tenant name : String)
    (item : ExpectedDocument) : Except PyError UUID := do
  let key ← normalizeExternalKey item.externalKey
  documentDataId runtimeKey identityScope tenant name key

/-- The expected documents by their ids. -/
def expectedById (runtimeKey identityScope tenant name : String)
    (expected : List ExpectedDocument) : Except PyError (List (UUID × ExpectedDocument)) :=
  indexBy (ExpectedDocument.dataId runtimeKey identityScope tenant name)
    (fun previous item => ⟨.valueError, "expected documents contain duplicate logical identity: " ++
      Platform.strRepr previous.externalKey ++ " and " ++ Platform.strRepr item.externalKey⟩)
    expected []

/-- The stored documents by their ids. -/
def storedById (name : String) (documents : List StoredDocument) :
    Except PyError (List (UUID × StoredDocument)) :=
  indexBy (fun document => .ok document.dataId)
    (fun _ document => ⟨.runtimeError, "runtime returned duplicate stored data_id " ++
      Platform.uuidStr document.dataId ++ " for dataset " ++ Platform.strRepr name⟩)
    documents []

/-- `repr` of a label. -/
def labelRepr (label : Option String) : String := label.elim "None" Platform.strRepr

namespace VerificationIssue

/-- An expected document is not stored. -/
def missing (dataId : UUID) (expectation : ExpectedDocument) : VerificationIssue :=
  ⟨.missing, dataId, some expectation.externalKey, "expected document not present in Cognee"⟩

/-- A stored document is not expected. -/
def unexpected (dataId : UUID) : VerificationIssue :=
  ⟨.unexpected, dataId, none, "document not among expectations: foreign data or " ++
    "stale state from an interrupted run"⟩

/-- An expected document is not cognified yet. -/
def incomplete (dataId : UUID) (expectation : ExpectedDocument) : VerificationIssue :=
  ⟨.incomplete, dataId, some expectation.externalKey,
    "cognify has not completed for this document"⟩

/-- An expected document has another label. -/
def labelMismatch (dataId : UUID) (expectation : ExpectedDocument) (stored : Option String) :
    VerificationIssue :=
  ⟨.labelMismatch, dataId, some expectation.externalKey, "label drifted: expected " ++
    labelRepr expectation.label ++ ", stored " ++ labelRepr stored⟩

end VerificationIssue

/-- The issues of an id. -/
def issuesOf (dataId : UUID) :
    Option ExpectedDocument → Option StoredDocument → Except PyError (List VerificationIssue)
  | some expectation, none => .ok [.missing dataId expectation]
  | none, some _ => .ok [.unexpected dataId]
  | none, none =>
    .error ⟨.runtimeError, "verification identity union produced an empty entry"⟩
  | some expectation, some actual => .ok <|
    (if actual.cognifyComplete then [] else [.incomplete dataId expectation]) ++
    (if actual.label = expectation.label then []
     else [.labelMismatch dataId expectation actual.label])

/-- The issues, in the order of the ids. -/
def verificationIssues (expected : List (UUID × ExpectedDocument))
    (stored : List (UUID × StoredDocument)) : Except PyError (List VerificationIssue) := do
  let ids := ordered ((expected.map Prod.fst).toFinset ∪ (stored.map Prod.fst).toFinset)
  let issues ← ids.mapM fun dataId =>
    issuesOf dataId (expected.lookup dataId) (stored.lookup dataId)
  return issues.flatten

/-- The rows of a dataset, resolved again under its lock. -/
def listUnderLock (name tenant : String) : Program (List (UUID × StoredDocument)) := do
  let currentHandle ← await (.resolveDataset name tenant)
  let documents ← await (.listDocuments currentHandle)
  ofExcept (storedById name documents)

/-- `verify_dataset`. -/
def verifyDataset (runtimeKey name : String) (expected : List ExpectedDocument)
    (tenant : String) : Program VerificationReport := do
  ofExcept (validateRuntimeKey runtimeKey)
  ofExcept (validateCoordinate tenant "tenant")
  ofExcept (validateCoordinate name "dataset_name")
  let handle ← await (.resolveDataset name tenant)
  let expected ← ofExcept (expectedById runtimeKey handle.identityScope tenant name expected)
  let stored ← withLock handle (listUnderLock name tenant)
  let issues ← ofExcept (verificationIssues expected stored)
  return { dataset := name, tenant, checked := expected.length, issues }

/-- What verifying comes to, given the identity scope and the listing. -/
def verification (runtimeKey name : String) (expected : List ExpectedDocument)
    (tenant identityScope : String) (listing : List StoredDocument) :
    Except PyError VerificationReport := do
  let expected ← expectedById runtimeKey identityScope tenant name expected
  let stored ← storedById name listing
  let issues ← verificationIssues expected stored
  return { dataset := name, tenant, checked := expected.length, issues }

/-! ## Dicts by ids -/

section IndexBy

variable {α : Type} {idOf : α → Except PyError UUID} {f : α → UUID}
  {duplicate : α → α → PyError} {items : List α}

theorem lookup_map {done : List α} {i : UUID} :
    (done.map fun a => (f a, a)).lookup i = done.find? fun a => decide (i = f a) := by
  induction done with
  | nil => rfl
  | cons a done ih =>
    rw [List.map_cons, List.lookup_cons, List.find?_cons, ih]
    rfl

/-- Nothing is found under an id that no item has. -/
theorem lookup_eq_none_iff {done : List α} {i : UUID} :
    (done.map fun a => (f a, a)).lookup i = none ↔ i ∉ done.map f := by
  rw [lookup_map, List.find?_eq_none, List.mem_map]
  constructor
  · rintro h ⟨a, ha, hai⟩
    exact h a ha (decide_eq_true hai.symm)
  · exact fun h a ha hai => h ⟨a, ha, (of_decide_eq_true hai).symm⟩

/-- What is found under an id is the item that has it. -/
theorem lookup_eq_some_iff {done : List α} (hnodup : (done.map f).Nodup) {i : UUID} {a : α} :
    (done.map fun a => (f a, a)).lookup i = some a ↔ a ∈ done ∧ f a = i := by
  rw [lookup_map]
  constructor
  · intro h
    have hi : decide (i = f a) = true := List.find?_some (p := fun a => decide (i = f a)) h
    exact ⟨List.mem_of_find?_eq_some h, (of_decide_eq_true hi).symm⟩
  · rintro ⟨ha, rfl⟩
    cases hfind : done.find? fun b => decide (f a = f b) with
    | none => exact absurd (decide_eq_true rfl) (List.find?_eq_none.1 hfind a ha)
    | some b =>
      have hb : decide (f a = f b) = true :=
        List.find?_some (p := fun b => decide (f a = f b)) hfind
      rw [List.inj_on_of_nodup_map hnodup ha (List.mem_of_find?_eq_some hfind)
        (of_decide_eq_true hb)]

theorem indexBy_cons {a : α} (ha : idOf a = .ok (f a)) (byId : List (UUID × α)) :
    indexBy idOf duplicate (a :: items) byId =
      match byId.lookup (f a) with
      | some previous => .error (duplicate previous a)
      | none => indexBy idOf duplicate items (byId ++ [(f a, a)]) := by
  rw [indexBy, ha]
  rfl

theorem indexed_snoc (done : List α) (a : α) :
    done.map (fun a => (f a, a)) ++ [(f a, a)] = (done ++ [a]).map fun a => (f a, a) := by
  rw [List.map_append, List.map_singleton]

/-- Items with different ids are kept in their order. -/
theorem indexBy_ok (done : List α) (hid : ∀ a ∈ items, idOf a = .ok (f a))
    (hnodup : ((done ++ items).map f).Nodup) :
    indexBy idOf duplicate items (done.map fun a => (f a, a)) =
      .ok ((done ++ items).map fun a => (f a, a)) := by
  induction items generalizing done with
  | nil => rw [indexBy, List.append_nil]
  | cons a items ih =>
    have hnotMem : f a ∉ done.map f := by
      rw [List.map_append, List.nodup_append] at hnodup
      exact fun ha => hnodup.2.2 _ ha _ List.mem_cons_self rfl
    rw [List.append_cons] at hnodup ⊢
    rw [indexBy_cons (hid a List.mem_cons_self), lookup_eq_none_iff.2 hnotMem, indexed_snoc]
    exact ih _ (fun b hb => hid b (List.mem_cons_of_mem a hb)) hnodup

/-- A repeated id is an error. -/
theorem indexBy_error (done : List α) (hid : ∀ a ∈ items, idOf a = .ok (f a))
    (hdone : (done.map f).Nodup) (hnodup : ¬((done ++ items).map f).Nodup) :
    ∃ a b, indexBy idOf duplicate items (done.map fun a => (f a, a)) =
      .error (duplicate a b) := by
  induction items generalizing done with
  | nil => exact absurd hdone (by rwa [List.append_nil] at hnodup)
  | cons a items ih =>
    rw [List.append_cons] at hnodup
    rw [indexBy_cons (hid a List.mem_cons_self)]
    -- The first item whose id is already there raises; until then the ids are distinct.
    cases hlookup : (done.map fun a => (f a, a)).lookup (f a) with
    | some previous => exact ⟨previous, a, rfl⟩
    | none =>
      rw [indexed_snoc]
      refine ih _ (fun b hb => hid b (List.mem_cons_of_mem a hb)) ?_ hnodup
      rw [List.map_append, List.map_singleton, List.nodup_append]
      refine ⟨hdone, List.nodup_singleton _, fun i hi j hj hij => ?_⟩
      rw [List.mem_singleton.1 hj] at hij
      exact lookup_eq_none_iff.1 hlookup (hij ▸ hi)

end IndexBy

/-- A repeated row is a `RuntimeError`. -/
theorem storedById_error {name : String} {listing : List StoredDocument}
    (h : ¬(listing.map StoredDocument.dataId).Nodup) :
    ∃ e, storedById name listing = .error e ∧ e.kind = .runtimeError := by
  obtain ⟨a, b, hab⟩ := indexBy_error [] (fun _ _ => rfl) .nil h
  exact ⟨_, hab, rfl⟩

/-- A repeated id of expected documents is a `ValueError`. -/
theorem expectedById_error {runtimeKey identityScope tenant name : String}
    {expected : List ExpectedDocument} {id : ExpectedDocument → UUID}
    (hid : ∀ e ∈ expected, e.dataId runtimeKey identityScope tenant name = .ok (id e))
    (h : ¬(expected.map id).Nodup) :
    ∃ e, expectedById runtimeKey identityScope tenant name expected = .error e ∧
      e.kind = .valueError := by
  obtain ⟨a, b, hab⟩ := indexBy_error [] hid .nil h
  exact ⟨_, hab, rfl⟩

/-! ## Issues -/

/-- The differences between expected documents, under their ids, and a listing. -/
inductive Difference (id : ExpectedDocument → UUID) (expected : List ExpectedDocument)
    (listing : List StoredDocument) : VerificationIssue → Prop
  | missing {e : ExpectedDocument} (he : e ∈ expected) (hstored : ∀ d ∈ listing, d.dataId ≠ id e) :
    Difference id expected listing (.missing (id e) e)
  | unexpected {d : StoredDocument} (hd : d ∈ listing)
    (hexpected : ∀ e ∈ expected, id e ≠ d.dataId) :
    Difference id expected listing (.unexpected d.dataId)
  | incomplete {e : ExpectedDocument} {d : StoredDocument} (he : e ∈ expected) (hd : d ∈ listing)
    (hid : d.dataId = id e) (hcomplete : d.cognifyComplete = false) :
    Difference id expected listing (.incomplete (id e) e)
  | labelMismatch {e : ExpectedDocument} {d : StoredDocument} (he : e ∈ expected)
    (hd : d ∈ listing) (hid : d.dataId = id e) (hlabel : d.label ≠ e.label) :
    Difference id expected listing (.labelMismatch (id e) e d.label)

/-- The expected documents and the listing have the same ids, and every row is
    complete and has the expected label. -/
structure Matches (id : ExpectedDocument → UUID) (expected : List ExpectedDocument)
    (listing : List StoredDocument) : Prop where
  ids : ∀ i, (∃ e ∈ expected, id e = i) ↔ ∃ d ∈ listing, d.dataId = i
  complete : ∀ e ∈ expected, ∀ d ∈ listing, d.dataId = id e →
    d.cognifyComplete = true ∧ d.label = e.label

/-- There are differences unless everything matches. -/
theorem matches_iff {id : ExpectedDocument → UUID} {expected : List ExpectedDocument}
    {listing : List StoredDocument} :
    Matches id expected listing ↔ ∀ issue, ¬Difference id expected listing issue := by
  constructor
  · rintro h issue (⟨he, hstored⟩ | ⟨hd, hexpected⟩ | ⟨he, hd, hid, hcomplete⟩ |
      ⟨he, hd, hid, hlabel⟩)
    -- Each issue contradicts the clause of its kind.
    · obtain ⟨d, hd, hid⟩ := (h.ids _).1 ⟨_, he, rfl⟩
      exact hstored d hd hid
    · obtain ⟨e, he, hid⟩ := (h.ids _).2 ⟨_, hd, rfl⟩
      exact hexpected e he hid
    · rw [(h.complete _ he _ hd hid).1] at hcomplete
      cases hcomplete
    · exact hlabel (h.complete _ he _ hd hid).2
  -- Where a clause fails, the issue of its kind is there.
  · intro h
    refine ⟨fun i => ⟨?_, ?_⟩, fun e he d hd hid => ⟨?_, ?_⟩⟩
    · rintro ⟨e, he, rfl⟩
      by_contra hne
      exact h _ (.missing he fun d hd hid => hne ⟨d, hd, hid⟩)
    · rintro ⟨d, hd, rfl⟩
      by_contra hne
      exact h _ (.unexpected hd fun e he hid => hne ⟨e, he, hid⟩)
    · by_contra hne
      exact h _ (.incomplete he hd hid (Bool.eq_false_iff.2 hne))
    · by_contra hne
      exact h _ (.labelMismatch he hd hid hne)

section Issues

variable {i : UUID} {e? : Option ExpectedDocument} {d? : Option StoredDocument}
  {issues : List VerificationIssue} {issue : VerificationIssue}

theorem mem_issuesOf (h : issuesOf i e? d? = .ok issues) : issue ∈ issues ↔
    (∃ e ∈ e?, d? = none ∧ issue = .missing i e) ∨
      (∃ d ∈ d?, e? = none ∧ issue = .unexpected i) ∨
      ∃ e ∈ e?, ∃ d ∈ d?, d.cognifyComplete = false ∧ issue = .incomplete i e ∨
        d.label ≠ e.label ∧ issue = .labelMismatch i e d.label := by
  rcases e? with - | e <;> rcases d? with - | d <;> cases h
  · simp
  · simp
  · by_cases hcomplete : d.cognifyComplete <;> by_cases hlabel : d.label = e.label <;>
      simp [hcomplete, hlabel]

theorem dataId_of_mem_issuesOf (h : issuesOf i e? d? = .ok issues) (hissue : issue ∈ issues) :
    issue.dataId = i := by
  rcases (mem_issuesOf h).1 hissue with ⟨e, -, -, rfl⟩ | ⟨d, -, -, rfl⟩ |
    ⟨e, -, d, -, ⟨-, rfl⟩ | ⟨-, rfl⟩⟩ <;> rfl

theorem nodup_issuesOf (h : issuesOf i e? d? = .ok issues) : issues.Nodup := by
  rcases e? with - | e <;> rcases d? with - | d <;> cases h
  · exact List.nodup_singleton _
  · exact List.nodup_singleton _
  · by_cases hcomplete : d.cognifyComplete <;> by_cases hlabel : d.label = e.label <;>
      simp [hcomplete, hlabel, VerificationIssue.incomplete, VerificationIssue.labelMismatch]

theorem exists_issuesOf (h : e? ≠ none ∨ d? ≠ none) : ∃ issues, issuesOf i e? d? = .ok issues := by
  rcases e? with - | e <;> rcases d? with - | d
  · rcases h with h | h <;> exact absurd rfl h
  all_goals exact ⟨_, rfl⟩

variable {id : ExpectedDocument → UUID} {expected : List ExpectedDocument}
  {listing : List StoredDocument}

/-- The issues of an id are the differences that name it. -/
theorem mem_issuesOf_lookup (hexpected : (expected.map id).Nodup)
    (hlisting : (listing.map StoredDocument.dataId).Nodup)
    (h : issuesOf i ((expected.map fun e => (id e, e)).lookup i)
      ((listing.map fun d => (d.dataId, d)).lookup i) = .ok issues) :
    issue ∈ issues ↔ Difference id expected listing issue ∧ issue.dataId = i := by
  constructor
  · intro hissue
    refine ⟨?_, dataId_of_mem_issuesOf h hissue⟩
    rcases (mem_issuesOf h).1 hissue with ⟨e, he, hnone, rfl⟩ | ⟨d, hd, hnone, rfl⟩ |
      ⟨e, he, d, hd, hissue⟩
    · obtain ⟨hmem, rfl⟩ := (lookup_eq_some_iff hexpected).1 he
      exact .missing hmem fun d hd hid =>
        lookup_eq_none_iff.1 hnone (List.mem_map.2 ⟨d, hd, hid⟩)
    · obtain ⟨hmem, rfl⟩ := (lookup_eq_some_iff hlisting).1 hd
      exact .unexpected hmem fun e he hid =>
        lookup_eq_none_iff.1 hnone (List.mem_map.2 ⟨e, he, hid⟩)
    · obtain ⟨hmem, rfl⟩ := (lookup_eq_some_iff hexpected).1 he
      obtain ⟨hmem', hid⟩ := (lookup_eq_some_iff hlisting).1 hd
      rcases hissue with ⟨hcomplete, rfl⟩ | ⟨hlabel, rfl⟩
      · exact .incomplete hmem hmem' hid hcomplete
      · exact .labelMismatch hmem hmem' hid hlabel
  · rintro ⟨hissue, rfl⟩
    rw [mem_issuesOf h]
    cases hissue with
    | @missing e he hstored =>
      refine .inl ⟨e, (lookup_eq_some_iff hexpected).2 ⟨he, rfl⟩, ?_, rfl⟩
      refine lookup_eq_none_iff.2 fun hi => ?_
      obtain ⟨d, hd, hid⟩ := List.mem_map.1 hi
      exact hstored d hd hid
    | @unexpected d hd hnot =>
      refine .inr (.inl ⟨d, (lookup_eq_some_iff hlisting).2 ⟨hd, rfl⟩, ?_, rfl⟩)
      refine lookup_eq_none_iff.2 fun hi => ?_
      obtain ⟨e, he, hid⟩ := List.mem_map.1 hi
      exact hnot e he hid
    | @incomplete e d he hd hid hcomplete =>
      exact .inr (.inr ⟨e, (lookup_eq_some_iff hexpected).2 ⟨he, rfl⟩, d,
        (lookup_eq_some_iff hlisting).2 ⟨hd, hid⟩, .inl ⟨hcomplete, rfl⟩⟩)
    | @labelMismatch e d he hd hid hlabel =>
      exact .inr (.inr ⟨e, (lookup_eq_some_iff hexpected).2 ⟨he, rfl⟩, d,
        (lookup_eq_some_iff hlisting).2 ⟨hd, hid⟩, .inr ⟨hlabel, rfl⟩⟩)

/-- A difference names an id that is expected or listed. -/
theorem Difference.dataId_mem (h : Difference id expected listing issue) :
    issue.dataId ∈ expected.map id ∨ issue.dataId ∈ listing.map StoredDocument.dataId := by
  cases h with
  | missing he => exact .inl (List.mem_map.2 ⟨_, he, rfl⟩)
  | unexpected hd => exact .inr (List.mem_map.2 ⟨_, hd, rfl⟩)
  | incomplete he => exact .inl (List.mem_map.2 ⟨_, he, rfl⟩)
  | labelMismatch he => exact .inl (List.mem_map.2 ⟨_, he, rfl⟩)

/-- Where ids are not repeated, the issues are the differences, in the order of their ids. -/
theorem verificationIssues_ok (hexpected : (expected.map id).Nodup)
    (hlisting : (listing.map StoredDocument.dataId).Nodup) :
    ∃ issues, verificationIssues (expected.map fun e => (id e, e))
        (listing.map fun d => (d.dataId, d)) = .ok issues ∧
      (∀ issue, issue ∈ issues ↔ Difference id expected listing issue) ∧
      (issues.Pairwise fun x y => x.dataId ≤ y.dataId) ∧ issues.Nodup := by
  let E := expected.map fun e => (id e, e)
  let S := listing.map fun d => (d.dataId, d)
  let ids := ordered ((E.map Prod.fst).toFinset ∪ (S.map Prod.fst).toFinset)
  have hmem (i : UUID) : i ∈ ids ↔ i ∈ expected.map id ∨ i ∈ listing.map StoredDocument.dataId := by
    simp only [ids, E, S, ordered, Finset.mem_sort, Finset.mem_union, List.mem_toFinset,
      List.map_map]
    rfl
  have hids : ∀ i ∈ ids, ∃ issues, issuesOf i (E.lookup i) (S.lookup i) = .ok issues := by
    intro i hi
    refine exists_issuesOf ?_
    rwa [ne_eq, lookup_eq_none_iff, not_not, ne_eq, lookup_eq_none_iff, not_not, ← hmem]
  -- The ids are sorted and distinct, and an issue carries the id it was found at.
  choose! issuesAt hissues using hids
  have hsorted : ids.Pairwise (· < ·) := (Finset.sortedLT_sort _).pairwise
  refine ⟨ids.flatMap issuesAt, ?_, fun issue => ?_, ?_, ?_⟩
  · have hmap : ids.mapM (fun i => issuesOf i (E.lookup i) (S.lookup i)) =
        .ok (ids.map issuesAt) := by
      rw [mapM_eq_ok_iff, List.forall₂_map_right_iff, List.forall₂_same]
      exact hissues
    exact bind_eq_ok.2 ⟨_, hmap, rfl⟩
  · rw [List.mem_flatMap]
    constructor
    · rintro ⟨i, hi, hissue⟩
      exact ((mem_issuesOf_lookup hexpected hlisting (hissues i hi)).1 hissue).1
    · intro hissue
      have hi := (hmem _).2 hissue.dataId_mem
      exact ⟨_, hi, (mem_issuesOf_lookup hexpected hlisting (hissues _ hi)).2 ⟨hissue, rfl⟩⟩
  · rw [List.pairwise_flatMap]
    refine ⟨fun i hi => ?_, hsorted.imp_of_mem fun hi hj hij x hx y hy => ?_⟩
    · refine List.pairwise_of_forall_mem_list fun x hx y hy => le_of_eq ?_
      rw [dataId_of_mem_issuesOf (hissues i hi) hx, dataId_of_mem_issuesOf (hissues i hi) hy]
    · rw [dataId_of_mem_issuesOf (hissues _ hi) hx, dataId_of_mem_issuesOf (hissues _ hj) hy]
      exact hij.le
  · rw [List.nodup_flatMap]
    refine ⟨fun i hi => nodup_issuesOf (hissues i hi), ?_⟩
    refine hsorted.imp_of_mem fun hi hj hij x hx hy => lt_irrefl _ (lt_of_lt_of_eq hij ?_)
    rw [← dataId_of_mem_issuesOf (hissues _ hi) hx, ← dataId_of_mem_issuesOf (hissues _ hj) hy]

end Issues

/-! ## Exactness -/

/-- The outcome of a verification: a `ValueError` for expected keys that are the
    same in NFC, else a `RuntimeError` for a repeated row, and otherwise one
    issue for each difference. -/
structure ExactOutcome (id : ExpectedDocument → UUID) (expected : List ExpectedDocument)
    (listing : List StoredDocument) (outcome : Except PyError VerificationReport) : Prop where
  repeatedKey : (∃ e, outcome = .error e ∧ e.kind = .valueError) ↔
    ¬(expected.map fun e => Platform.nfc e.externalKey).Nodup
  repeatedRow : (expected.map fun e => Platform.nfc e.externalKey).Nodup →
    ((∃ e, outcome = .error e ∧ e.kind = .runtimeError) ↔
      ¬(listing.map StoredDocument.dataId).Nodup)
  report : (expected.map fun e => Platform.nfc e.externalKey).Nodup →
    (listing.map StoredDocument.dataId).Nodup → ∃ report, outcome = .ok report ∧
      report.checked = expected.length ∧
      (∀ issue, issue ∈ report.issues ↔ Difference id expected listing issue) ∧
      (report.issues.Pairwise fun x y => x.dataId ≤ y.dataId) ∧ report.issues.Nodup ∧
      (report.ok ↔ Matches id expected listing)

section Exactness

variable {runtimeKey tenant name identityScope : String} {expected : List ExpectedDocument}
  {listing : List StoredDocument} (hnfc : NfcLaws)
  (hkey : Coordinate runtimeKey ∧ matchesRuntimeKeyPattern runtimeKey)
  (htenant : Coordinate tenant) (hname : Coordinate name)
  (hscope : Coordinate identityScope) (hexpected : ∀ e ∈ expected, Coordinate e.externalKey)

/-- The id of an expected document. -/
def verifiedId (runtimeKey identityScope tenant name : String) (e : ExpectedDocument) : UUID :=
  Platform.uuid5 COGINDEX_NAMESPACE (canonicalJoin [IDENTITY_SCHEMA_VERSION.repr, runtimeKey,
    identityScope, tenant, name, Platform.nfc e.externalKey])

include hkey htenant hname hscope hexpected

theorem documentDataId_verifiedId {e : ExpectedDocument} (he : e ∈ expected) :
    documentDataId runtimeKey identityScope tenant name e.externalKey =
      .ok (verifiedId runtimeKey identityScope tenant name e) :=
  documentDataId_ok_iff.2 ⟨⟨hkey, hscope, htenant, hname, hexpected e he⟩, rfl⟩

include hnfc

/-- The verifier derives the id that the target derives. -/
theorem dataId_verifiedId {e : ExpectedDocument} (he : e ∈ expected) :
    e.dataId runtimeKey identityScope tenant name =
      .ok (verifiedId runtimeKey identityScope tenant name e) := by
  refine bind_eq_ok.2 ⟨_, normalizeExternalKey_ok_iff.2 ⟨hexpected e he, rfl⟩, ?_⟩
  refine documentDataId_ok_iff.2 ⟨⟨hkey, hscope, htenant, hname,
    hnfc.ne_empty _ (hexpected e he).1, hnfc.no_nul _ (hexpected e he).2⟩, ?_⟩
  rw [hnfc.idempotent, verifiedId]

/-- The comparison of any expected documents with any listing is exact. -/
theorem verification_exact (huuid : Uuid5CollisionFree) (listing : List StoredDocument) :
    ExactOutcome (verifiedId runtimeKey identityScope tenant name) expected listing
      (verification runtimeKey name expected tenant identityScope listing) := by
  let id := verifiedId runtimeKey identityScope tenant name
  have hid (e : ExpectedDocument) (he : e ∈ expected) :
      e.dataId runtimeKey identityScope tenant name = .ok (id e) :=
    dataId_verifiedId hnfc hkey htenant hname hscope hexpected he
  have hnodup : (expected.map id).Nodup ↔
      (expected.map fun e => Platform.nfc e.externalKey).Nodup := by
    have hinj : Function.Injective fun k => Platform.uuid5 COGINDEX_NAMESPACE (canonicalJoin
        [IDENTITY_SCHEMA_VERSION.repr, runtimeKey, identityScope, tenant, name, k]) :=
      fun k l h => by simpa using canonicalJoin_injective (huuid _ h)
    rw [← List.nodup_map_iff hinj, List.map_map]
    rfl
  -- The ids of two expected documents are the same only if their keys are.
  by_cases hkeys : (expected.map fun e => Platform.nfc e.externalKey).Nodup
  · have hexp : expectedById runtimeKey identityScope tenant name expected =
        .ok (expected.map fun e => (id e, e)) :=
      indexBy_ok [] hid (hnodup.2 hkeys)
    by_cases hrows : (listing.map StoredDocument.dataId).Nodup
    · have hstored : storedById name listing = .ok (listing.map fun d => (d.dataId, d)) :=
        indexBy_ok [] (fun _ _ => rfl) hrows
      obtain ⟨issues, hissues, hmem, hsorted, hnodup'⟩ :=
        verificationIssues_ok (hnodup.2 hkeys) hrows
      have hok : verification runtimeKey name expected tenant identityScope listing =
          .ok ⟨name, tenant, (expected.map fun e => (id e, e)).length, issues⟩ :=
        bind_eq_ok.2 ⟨_, hexp, bind_eq_ok.2 ⟨_, hstored, bind_eq_ok.2 ⟨_, hissues, rfl⟩⟩⟩
      rw [hok]
      refine ⟨iff_of_false nofun (not_not.2 hkeys), fun _ => iff_of_false nofun (not_not.2 hrows),
        fun _ _ => ⟨_, rfl, List.length_map _, hmem, hsorted, hnodup', ?_⟩⟩
      rw [VerificationReport.ok, List.isEmpty_iff, List.eq_nil_iff_forall_not_mem, matches_iff]
      exact forall_congr' fun issue => not_congr (hmem issue)
    · obtain ⟨error, hstored, hkind⟩ := @storedById_error _ name _ hrows
      have herror : verification runtimeKey name expected tenant identityScope listing =
          .error error := by
        rw [verification, hexp]
        show storedById name listing >>= _ = _
        rw [hstored]
        rfl
      rw [herror]
      refine ⟨iff_of_false ?_ (not_not.2 hkeys), fun _ => iff_of_true ⟨_, rfl, hkind⟩ hrows,
        fun _ h => absurd h hrows⟩
      rintro ⟨_, he, hvalue⟩
      rw [← Except.error.inj he, hkind] at hvalue
      cases hvalue
  · obtain ⟨error, hexp, hkind⟩ := expectedById_error hid (hnodup.not.2 hkeys)
    have herror : verification runtimeKey name expected tenant identityScope listing =
        .error error := by
      rw [verification, hexp]
      rfl
    rw [herror]
    exact ⟨iff_of_true ⟨_, rfl, hkind⟩ hkeys, fun h => absurd h hkeys, fun h => absurd h hkeys⟩

end Exactness

/-! ## Runs -/

section Runs

variable {runtimeKey tenant name : String} {expected : List ExpectedDocument}
  {listing : List StoredDocument}

/-- A world that answers a verification: while it is in a state of `I`, it
    resolves the dataset to handles of `Good`, grants and releases their lock,
    and lists `listing`. -/
structure Answering {σ : Type*}
    (step : (c : RuntimeCall) → σ → Except PyError c.Response → σ → Prop) (I : σ → Prop)
    (Good : DatasetHandle → Prop) (name tenant : String) (listing : List StoredDocument) :
    Prop where
  resolve : ∀ s r s', I s → step (.resolveDataset name tenant) s r s' →
    I s' ∧ ∃ handle, r = .ok handle ∧ Good handle
  enter : ∀ handle s r s', Good handle → I s → step (.lockEnter handle) s r s' → I s' ∧ r = .ok ()
  exit : ∀ handle s r s', Good handle → I s → step (.lockExit handle) s r s' → I s' ∧ r = .ok ()
  list : ∀ handle s r s', Good handle → I s → step (.listDocuments handle) s r s' →
    I s' ∧ r = .ok listing

/-- A verification that a world answers comes to the comparison with the listing. -/
theorem Answering.wp_verifyDataset {σ : Type*}
    {step : (c : RuntimeCall) → σ → Except PyError c.Response → σ → Prop} {I : σ → Prop}
    {Good : DatasetHandle → Prop} (hstep : Answering step I Good name tenant listing)
    (hkey : Coordinate runtimeKey ∧ matchesRuntimeKeyPattern runtimeKey)
    (htenant : Coordinate tenant) (hname : Coordinate name) {s : σ} (hs : I s) :
    wp step (verifyDataset runtimeKey name expected tenant)
      (fun report _ => ∃ handle : DatasetHandle, Good handle ∧ .ok report =
        verification runtimeKey name expected tenant handle.identityScope listing)
      (fun e _ => ∃ handle : DatasetHandle, Good handle ∧ .error e =
        verification runtimeKey name expected tenant handle.identityScope listing) s := by
  -- Under the lock, the handle is resolved again, and its listing read.
  have hlist {t : σ} (ht : I t) : wp step (listUnderLock name tenant)
      (fun S u => I u ∧ storedById name listing = .ok S)
      (fun e u => I u ∧ storedById name listing = .error e) t := by
    rw [listUnderLock, wp_bind]
    refine wp_call_ok fun r u hu => ?_
    obtain ⟨hIu, handle, rfl, hgood⟩ := hstep.resolve t r u ht hu
    refine ⟨handle, rfl, wp_bind.2 (wp_call_ok fun r v hv => ?_)⟩
    obtain ⟨hIv, rfl⟩ := hstep.list handle u r v hgood hIu hv
    exact ⟨listing, rfl, wp_ofExcept.2 ⟨fun S hS => ⟨hIv, hS⟩, fun e he => ⟨hIv, he⟩⟩⟩
  rw [verifyDataset, validateRuntimeKey_ok_iff.2 hkey, validateCoordinate_ok_iff.2 htenant,
    validateCoordinate_ok_iff.2 hname]
  simp only [ofExcept_ok, ret_bind, wp_bind]
  refine wp_call_ok fun r t ht => ?_
  obtain ⟨hIt, handle, rfl, hgood⟩ := hstep.resolve s r t hs ht
  refine ⟨handle, rfl, wp_ofExcept.2 ⟨fun E hexp => ?_, fun e hexp => ?_⟩⟩
  · rw [withLock, wp_bind]
    refine wp_call_ok fun r u hu => ?_
    obtain ⟨hIu, rfl⟩ := hstep.enter handle t r u hgood hIt hu
    refine ⟨(), rfl, ?_⟩
    rw [wp_finally]
    refine wp_mono (hlist hIu) ?_ ?_
    · rintro S v ⟨hIv, hS⟩
      refine wp_call_ok fun r w hw => ?_
      obtain ⟨-, rfl⟩ := hstep.exit handle v r w hgood hIv hw
      refine ⟨(), rfl, wp_ofExcept.2 ⟨fun issues hissues => ?_, fun e he => ?_⟩⟩
      · exact ⟨handle, hgood, by rw [verification, hexp, ok_bind, hS, ok_bind, hissues]; rfl⟩
      · exact ⟨handle, hgood, by rw [verification, hexp, ok_bind, hS, ok_bind, he]; rfl⟩
    · rintro e v ⟨hIv, hS⟩
      refine wp_call_ok fun r w hw => ?_
      obtain ⟨-, rfl⟩ := hstep.exit handle v r w hgood hIv hw
      exact ⟨(), rfl, handle, hgood, by rw [verification, hexp, ok_bind, hS]; rfl⟩
  · exact ⟨handle, hgood, by rw [verification, hexp]; rfl⟩

/-- A runtime whose calls succeed, and that lists `listing`. -/
def Lists (listing : List StoredDocument) (c : RuntimeCall) (_ : Unit)
    (r : Except PyError c.Response) (_ : Unit) : Prop :=
  match c, r with
  | .listDocuments _, r => r = .ok listing
  | _, r => r.isOk

theorem answering_lists (name tenant : String) (listing : List StoredDocument) :
    Answering (Lists listing) (fun _ => True) (fun _ => True) name tenant listing where
  resolve s r s' _ h := by
    cases r with
    | ok handle => exact ⟨trivial, handle, rfl, trivial⟩
    | error e => cases h
  enter handle s r s' _ _ h := by
    cases r with
    | ok u => exact ⟨trivial, rfl⟩
    | error e => cases h
  exit handle s r s' _ _ h := by
    cases r with
    | ok u => exact ⟨trivial, rfl⟩
    | error e => cases h
  list handle s r s' _ _ h := ⟨trivial, h⟩

/-- Whatever a runtime answers that lists `listing`, verifying comes to the
    comparison with it, in the identity scope that the runtime resolved. -/
theorem runs_verifyDataset {outcome : Except PyError VerificationReport}
    (hkey : Coordinate runtimeKey ∧ matchesRuntimeKeyPattern runtimeKey)
    (htenant : Coordinate tenant) (hname : Coordinate name)
    (hrun : Runs (Lists listing) (verifyDataset runtimeKey name expected tenant) ()
      (ofExcept outcome) ()) :
    ∃ handle : DatasetHandle,
      outcome = verification runtimeKey name expected tenant handle.identityScope listing := by
  have hend := wp_runs hrun
    ((answering_lists name tenant listing).wp_verifyDataset hkey htenant hname trivial)
  cases outcome with
  | ok report =>
    obtain ⟨handle, -, h⟩ := hend
    exact ⟨handle, h⟩
  | error e =>
    obtain ⟨handle, -, h⟩ := hend
    exact ⟨handle, h⟩

end Runs

end

end Cogindex
