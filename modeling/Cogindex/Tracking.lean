import Cogindex.Reconciling

/-!
# Tracking

The engine keeps, for each key, the states that its target may be in
(`TrackEntry`): an intended state is added before it is applied
(`Tracking.precommit`) and becomes the only one when it was
(`Tracking.commit`). A round reconciles every key that is declared or tracked
(`Tracking.reconcileRound`).

* `mem_outputs`, `outputs_nodup`: a round has one output for each key with
  something to do;
* `mem_prevRecords_precommit`, `prevMayBeMissing_precommit`,
  `prevRecords_commit`, `prevMayBeMissing_commit`: what reconciling sees of a
  key after a precommit and after a commit.
-/

namespace Cogindex

section

variable [Platform]

instance : Std.LawfulEqOrd DocumentKey := ⟨compare_eq_iff_eq.1⟩

/-- What is tracked of a key: its possible records, `none` for a retained
    deletion marker, and whether its target may be missing. -/
structure TrackEntry where
  possibleStates : List (Option DocumentRecord)
  mayBeMissing : Bool

/-- The entry of a key without a confirmed baseline, before its first intended state. -/
def TrackEntry.fresh : TrackEntry := ⟨[], true⟩

/-- An intended state becomes possible. -/
def TrackEntry.intend (entry : TrackEntry) (intended : Option DocumentRecord) : TrackEntry :=
  if intended ∈ entry.possibleStates then entry
  else { entry with possibleStates := entry.possibleStates ++ [intended] }

/-- The tracking store of a dataset. -/
abbrev Tracking : Type := Std.ExtTreeMap DocumentKey TrackEntry

/-- The declared documents of a dataset. -/
abbrev Declared : Type := Std.ExtTreeMap DocumentKey CogneeDocumentSpec

/-- What a round asks for: the keys with something to do. -/
abbrev Outputs : Type := List (DocumentKey × ReconcileOutput)

namespace Tracking

/-- The possible records of a key. -/
def prevRecords (tracking : Tracking) (key : DocumentKey) : List DocumentRecord :=
  tracking[key]?.elim [] fun entry => entry.possibleStates.reduceOption

/-- Whether the target of a key may be missing: a fresh key has none. -/
def prevMayBeMissing (tracking : Tracking) (key : DocumentKey) : Bool :=
  tracking[key]?.elim true fun entry => entry.mayBeMissing || decide (none ∈ entry.possibleStates)

/-- Reconciling a key with its declaration. -/
def reconcileKey (derive : Derivation) (h : DocumentHandler) (declared : Declared)
    (tracking : Tracking) (key : DocumentKey) : Except PyError (Option ReconcileOutput) :=
  h.reconcileWith derive (.str key.text) declared[key]? (tracking.prevRecords key)
    (tracking.prevMayBeMissing key)

/-- The keys of a round. -/
def roundKeys (declared : Declared) (tracking : Tracking) : List DocumentKey :=
  (declared.keys.toFinset ∪ tracking.keys.toFinset).sort (· ≤ ·)

/-- Reconciling every declared or tracked key. -/
def reconcileRound (derive : Derivation) (h : DocumentHandler) (declared : Declared)
    (tracking : Tracking) : Except PyError Outputs := do
  let outputs ← (roundKeys declared tracking).mapM fun key =>
    return (← tracking.reconcileKey derive h declared key).map (key, ·)
  return outputs.reduceOption

/-- The intended states become possible, before they are applied. -/
def precommit (tracking : Tracking) (outputs : Outputs) : Tracking :=
  outputs.foldl (fun tracking output => tracking.alter output.1 fun entry =>
    some ((entry.getD .fresh).intend output.2.trackingRecord)) tracking

/-- The intended states are the only ones, after they were applied. -/
def commit (tracking : Tracking) (outputs : Outputs) : Tracking :=
  outputs.foldl (fun tracking output => tracking.alter output.1 fun _ =>
    output.2.trackingRecord.map fun record => ⟨[some record], false⟩) tracking

/-- A lossy invalidation of the children: every target may be missing. -/
def invalidateLossy (tracking : Tracking) : Tracking :=
  tracking.map fun _ entry => { entry with mayBeMissing := true }

end Tracking

/-! ## Rounds -/

namespace Tracking

variable {derive : Derivation} {h : DocumentHandler} {declared : Declared} {tracking : Tracking}
  {outputs : Outputs}

theorem mem_roundKeys {key : DocumentKey} :
    key ∈ roundKeys declared tracking ↔ key ∈ declared ∨ key ∈ tracking := by
  rw [roundKeys, Finset.mem_sort, Finset.mem_union, List.mem_toFinset, List.mem_toFinset,
    Std.ExtTreeMap.mem_keys, Std.ExtTreeMap.mem_keys]

/-- A round reconciles each of its keys. -/
theorem reconcileRound_forall₂ (hround : tracking.reconcileRound derive h declared = .ok outputs) :
    ∃ results, List.Forall₂ (fun key result => ∃ o, tracking.reconcileKey derive h declared key =
      .ok o ∧ o.map (key, ·) = result) (roundKeys declared tracking) results ∧
        results.reduceOption = outputs := by
  rw [reconcileRound, bind_eq_ok] at hround
  obtain ⟨results, hresults, houtputs⟩ := hround
  refine ⟨results, (mapM_eq_ok_iff.1 hresults).imp fun key result hresult => ?_,
    pure_eq_ok.1 houtputs⟩
  rw [bind_eq_ok] at hresult
  obtain ⟨o, ho, hresult⟩ := hresult
  exact ⟨o, ho, pure_eq_ok.1 hresult⟩

/-- A key of a round is reconciled without an error. -/
theorem reconcileKey_ok (hround : tracking.reconcileRound derive h declared = .ok outputs)
    {key : DocumentKey} (hkey : key ∈ roundKeys declared tracking) :
    ∃ o, tracking.reconcileKey derive h declared key = .ok o := by
  obtain ⟨results, hresults, -⟩ := reconcileRound_forall₂ hround
  obtain ⟨n, hn, rfl⟩ := List.getElem_of_mem hkey
  obtain ⟨o, ho, -⟩ := (List.forall₂_iff_get.1 hresults).2 n hn
    ((List.forall₂_iff_get.1 hresults).1 ▸ hn)
  exact ⟨o, ho⟩

/-- The outputs of a round are those of its keys with something to do. -/
theorem mem_outputs (hround : tracking.reconcileRound derive h declared = .ok outputs)
    {key : DocumentKey} {o : ReconcileOutput} : (key, o) ∈ outputs ↔
      key ∈ roundKeys declared tracking ∧
        tracking.reconcileKey derive h declared key = .ok (some o) := by
  obtain ⟨results, hresults, rfl⟩ := reconcileRound_forall₂ hround
  clear hround
  rw [List.reduceOption_mem_iff]
  -- The outputs are the results that are not `None`, in the order of the keys.
  generalize roundKeys declared tracking = keys at hresults ⊢
  induction hresults with
  | nil => simp
  | cons hresult _ ih =>
    obtain ⟨o', ho', rfl⟩ := hresult
    rw [List.mem_cons, List.mem_cons, ih, or_and_right]
    refine or_congr_left ?_
    constructor
    · intro heq
      obtain ⟨o'', rfl, hpair⟩ := Option.map_eq_some_iff.1 heq.symm
      cases hpair
      exact ⟨rfl, ho'⟩
    · rintro ⟨rfl, ho⟩
      rw [ho'] at ho
      cases ho
      rfl

/-- A round has at most one output for a key. -/
theorem outputs_nodup (hround : tracking.reconcileRound derive h declared = .ok outputs) :
    (outputs.map Prod.fst).Nodup := by
  obtain ⟨results, hresults, rfl⟩ := reconcileRound_forall₂ hround
  clear hround
  have hkeys : (roundKeys declared tracking).Nodup := Finset.sort_nodup _ _
  refine List.Sublist.nodup ?_ hkeys
  clear hkeys
  generalize roundKeys declared tracking = keys at hresults ⊢
  induction hresults with
  | nil => exact List.Sublist.slnil
  | cons hresult _ ih =>
    obtain ⟨_ | o, -, rfl⟩ := hresult
    · exact ih.cons _
    · exact ih.cons_cons _

/-- The outputs of a round determine that of each key. -/
theorem output_inj (hround : tracking.reconcileRound derive h declared = .ok outputs)
    {key : DocumentKey} {o o' : ReconcileOutput} (ho : (key, o) ∈ outputs)
    (ho' : (key, o') ∈ outputs) : o = o' := by
  have := ((mem_outputs hround).1 ho).2.symm.trans ((mem_outputs hround).1 ho').2
  cases this
  rfl

/-! ## Precommits and commits -/

/-- Altering the entries of different keys alters each of them once. -/
theorem getElem?_foldl_alter (tracking : Tracking)
    (f : ReconcileOutput → Option TrackEntry → Option TrackEntry)
    (hnodup : (outputs.map Prod.fst).Nodup) (key : DocumentKey) :
    (∀ o, (key, o) ∈ outputs → (outputs.foldl (fun tracking output =>
      tracking.alter output.1 (f output.2)) tracking)[key]? = f o tracking[key]?) ∧
    ((∀ o, (key, o) ∉ outputs) → (outputs.foldl (fun tracking output =>
      tracking.alter output.1 (f output.2)) tracking)[key]? = tracking[key]?) := by
  induction outputs generalizing tracking with
  | nil => exact ⟨fun _ ho => absurd ho List.not_mem_nil, fun _ => rfl⟩
  | cons output outputs ih =>
    obtain ⟨key', o'⟩ := output
    rw [List.map_cons, List.nodup_cons] at hnodup
    have hrow : (tracking.alter key' (f o'))[key]? =
        if key' = key then f o' tracking[key]? else tracking[key]? := by
      rw [Std.ExtTreeMap.getElem?_alter]
      by_cases hkey : key' = key
      · rw [if_pos (compare_eq_iff_eq.2 hkey), if_pos hkey, hkey]
      · rw [if_neg (mt compare_eq_iff_eq.1 hkey), if_neg hkey]
    -- The keys are distinct, so an entry is altered once.
    obtain ⟨hmem, hnot⟩ := ih (tracking.alter key' (f o')) hnodup.2
    simp only [List.foldl_cons]
    refine ⟨fun o ho => ?_, fun ho => ?_⟩
    · rcases List.mem_cons.1 ho with heq | ho
      · cases heq
        rw [hnot fun o ho => hnodup.1 (List.mem_map.2 ⟨_, ho, rfl⟩), hrow, if_pos rfl]
      · rw [hmem o ho, hrow, if_neg fun hkey => hnodup.1 (List.mem_map.2 ⟨_, ho, hkey.symm⟩)]
    · rw [hnot fun o hmem => ho o (List.mem_cons_of_mem _ hmem), hrow,
        if_neg fun hkey : key' = key => ho o' (hkey ▸ List.mem_cons_self)]

variable {key : DocumentKey} {o : ReconcileOutput}

theorem getElem?_precommit (hnodup : (outputs.map Prod.fst).Nodup) (ho : (key, o) ∈ outputs) :
    (tracking.precommit outputs)[key]? =
      some ((tracking[key]?.getD .fresh).intend o.trackingRecord) :=
  (getElem?_foldl_alter tracking (fun o entry => some ((entry.getD .fresh).intend o.trackingRecord))
    hnodup key).1 o ho

theorem getElem?_commit (hnodup : (outputs.map Prod.fst).Nodup) (ho : (key, o) ∈ outputs) :
    (tracking.commit outputs)[key]? = o.trackingRecord.map fun record => ⟨[some record], false⟩ :=
  (getElem?_foldl_alter tracking
    (fun o _ => o.trackingRecord.map fun record => ⟨[some record], false⟩) hnodup key).1 o ho

/-- A key without an output keeps its entry. -/
theorem getElem?_precommit_of_notMem (tracking : Tracking) (hnodup : (outputs.map Prod.fst).Nodup)
    (ho : ∀ o, (key, o) ∉ outputs) : (tracking.precommit outputs)[key]? = tracking[key]? :=
  (getElem?_foldl_alter tracking (fun o entry => some ((entry.getD .fresh).intend o.trackingRecord))
    hnodup key).2 ho

theorem getElem?_commit_of_notMem (hnodup : (outputs.map Prod.fst).Nodup)
    (ho : ∀ o, (key, o) ∉ outputs) : (tracking.commit outputs)[key]? = tracking[key]? :=
  (getElem?_foldl_alter tracking
    (fun o _ => o.trackingRecord.map fun record => ⟨[some record], false⟩) hnodup key).2 ho

theorem prevRecords_congr {tracking' : Tracking} (h : tracking'[key]? = tracking[key]?) :
    tracking'.prevRecords key = tracking.prevRecords key := by
  rw [prevRecords, h, prevRecords]

theorem prevMayBeMissing_congr {tracking' : Tracking} (h : tracking'[key]? = tracking[key]?) :
    tracking'.prevMayBeMissing key = tracking.prevMayBeMissing key := by
  rw [prevMayBeMissing, h, prevMayBeMissing]

theorem prevRecords_of_notMem (h : key ∉ tracking) : tracking.prevRecords key = [] := by
  rw [prevRecords, Std.ExtTreeMap.getElem?_eq_none h]
  rfl

theorem prevMayBeMissing_of_notMem (h : key ∉ tracking) : tracking.prevMayBeMissing key = true := by
  rw [prevMayBeMissing, Std.ExtTreeMap.getElem?_eq_none h]
  rfl

/-- The states of an entry with an intended one. -/
theorem mem_intend {entry : TrackEntry} {intended state : Option DocumentRecord} :
    state ∈ (entry.intend intended).possibleStates ↔
      state ∈ entry.possibleStates ∨ state = intended := by
  rw [TrackEntry.intend]
  split_ifs with h
  · exact (or_iff_left_of_imp fun hs => hs ▸ h).symm
  · rw [List.mem_append, List.mem_singleton]

theorem mayBeMissing_intend (entry : TrackEntry) (intended : Option DocumentRecord) :
    (entry.intend intended).mayBeMissing = entry.mayBeMissing := by
  rw [TrackEntry.intend]
  split_ifs <;> rfl

/-- A precommit adds the intended record of a key to its possible records. -/
theorem mem_prevRecords_precommit (hnodup : (outputs.map Prod.fst).Nodup)
    (ho : (key, o) ∈ outputs) {r : DocumentRecord} :
    r ∈ (tracking.precommit outputs).prevRecords key ↔
      r ∈ tracking.prevRecords key ∨ o.trackingRecord = some r := by
  rw [prevRecords, getElem?_precommit hnodup ho, Option.elim_some, List.reduceOption_mem_iff,
    mem_intend, prevRecords, @eq_comm _ (some r)]
  refine or_congr_left ?_
  cases tracking[key]? with
  | none => simp [TrackEntry.fresh]
  | some entry => exact List.reduceOption_mem_iff.symm

/-- A precommit of a deletion marker makes a key possibly missing. -/
theorem prevMayBeMissing_precommit (hnodup : (outputs.map Prod.fst).Nodup)
    (ho : (key, o) ∈ outputs) : (tracking.precommit outputs).prevMayBeMissing key =
      (tracking.prevMayBeMissing key || o.trackingRecord.isNone) := by
  rw [Bool.eq_iff_iff, prevMayBeMissing, getElem?_precommit hnodup ho, Option.elim_some,
    Bool.or_eq_true, decide_eq_true_iff, mem_intend, mayBeMissing_intend, Bool.or_eq_true,
    prevMayBeMissing, Option.isNone_iff_eq_none, @eq_comm _ none, ← or_assoc]
  refine or_congr_left ?_
  cases tracking[key]? with
  | none => simp [TrackEntry.fresh]
  | some entry => simp

/-- A commit leaves the intended record of a key, or nothing. -/
theorem prevRecords_commit (hnodup : (outputs.map Prod.fst).Nodup) (ho : (key, o) ∈ outputs) :
    (tracking.commit outputs).prevRecords key = o.trackingRecord.toList := by
  rw [prevRecords, getElem?_commit hnodup ho]
  cases o.trackingRecord <;> rfl

theorem prevMayBeMissing_commit (hnodup : (outputs.map Prod.fst).Nodup)
    (ho : (key, o) ∈ outputs) :
    (tracking.commit outputs).prevMayBeMissing key = o.trackingRecord.isNone := by
  rw [prevMayBeMissing, getElem?_commit hnodup ho]
  cases o.trackingRecord <;> rfl

/-- A lossy invalidation forgets nothing but that targets exist. -/
theorem prevRecords_invalidateLossy (key : DocumentKey) :
    tracking.invalidateLossy.prevRecords key = tracking.prevRecords key := by
  rw [prevRecords, invalidateLossy, Std.ExtTreeMap.getElem?_map, prevRecords]
  cases tracking[key]? <;> rfl

theorem prevMayBeMissing_invalidateLossy (key : DocumentKey) :
    tracking.invalidateLossy.prevMayBeMissing key = true := by
  rw [prevMayBeMissing, invalidateLossy, Std.ExtTreeMap.getElem?_map]
  cases tracking[key]? <;> rfl

/-- A round succeeds if each of its keys does. -/
theorem exists_reconcileRound (hkeys : ∀ key ∈ roundKeys declared tracking,
    ∃ o, tracking.reconcileKey derive h declared key = .ok o) :
    ∃ outputs, tracking.reconcileRound derive h declared = .ok outputs := by
  obtain ⟨results, hresults⟩ := exists_mapM_eq_ok (roundKeys declared tracking)
    (fun key => return (← tracking.reconcileKey derive h declared key).map (key, ·))
    fun key hkey => by
      obtain ⟨o, ho⟩ := hkeys key hkey
      exact ⟨o.map (key, ·), by rw [ho]; rfl⟩
  exact ⟨results.reduceOption, by rw [reconcileRound, bind_eq_ok]; exact ⟨_, hresults, rfl⟩⟩

/-- A round in which no key has anything to do. -/
theorem reconcileRound_eq_nil (hkeys : ∀ key ∈ roundKeys declared tracking,
    tracking.reconcileKey derive h declared key = .ok none) :
    tracking.reconcileRound derive h declared = .ok [] := by
  rw [reconcileRound, bind_eq_ok]
  refine ⟨(roundKeys declared tracking).map fun _ => none, mapM_eq_ok_iff.2 ?_, ?_⟩
  · rw [List.forall₂_map_right_iff, List.forall₂_same]
    intro key hkey
    rw [hkeys key hkey]
    rfl
  · rw [pure_eq_ok, List.reduceOption, List.filterMap_map]
    exact List.filterMap_eq_nil_iff.2 fun _ _ => rfl

/-- A key of a round is reconciled under its `data_id`. -/
theorem reconcileKey_eq_ok_iff {key : DocumentKey} {o : Option ReconcileOutput} :
    tracking.reconcileKey derive h declared key = .ok o ↔
      ∃ i, h.dataIdWith derive key.text = .ok i ∧
        h.reconcileId key.text i declared[key]? (tracking.prevRecords key)
          (tracking.prevMayBeMissing key) = o := by
  rw [reconcileKey, DocumentHandler.reconcileWith]
  simp only [key.normalized, bind_eq_ok, pure_eq_ok, Except.ok.injEq, exists_eq_left']

end Tracking

/-- Applying the actions of a round, if there are any. -/
def DocumentHandler.applyOutputs (h : DocumentHandler) (outputs : Outputs) : Program Unit :=
  if outputs = [] then pure () else h.apply (outputs.map (·.2.action))

end

end Cogindex
