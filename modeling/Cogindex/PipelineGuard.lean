import Cogindex.PipelineRuns

/-!
# The guard against false successes

Exactly which results `raiseOnErroredRuns` accepts: nothing that it reaches is an
errored run (`RunInfo.Reaches`), and the result is a success of the dataset that
was asked for, item by item (`RunInfo.Accepted`).

* `errored_eq_zero_iff`: the scan for errored runs finds all that it reaches;
* `raiseOnErroredRuns_eq_ok_iff`: the guard accepts exactly these results, and
  raises a `CogneePipelineError` on all others.
-/

namespace Cogindex

namespace RunInfo

/-! ## Errored runs -/

/-- What is found from a run through lists of ingested items, and through the
    `run_info` of their entries. -/
inductive Reaches : RunInfo → RunInfo → Prop
  | self (run : RunInfo) : run.Reaches run
  | runInfo {typeName : String} {datasetId datasetName : Option String} {entries : List RunInfo}
    {fields : List (String × RunInfo)} {value run : RunInfo} (hentry : dict fields ∈ entries)
    (hvalue : fields.lookup "run_info" = some value) (hrun : value.Reaches run) :
    (object typeName datasetId datasetName (some entries)).Reaches run
  | entry {typeName : String} {datasetId datasetName : Option String} {entries : List RunInfo}
    {entry run : RunInfo} (hentry : entry ∈ entries) (hdict : ∀ fields, entry ≠ dict fields)
    (hrun : entry.Reaches run) :
    (object typeName datasetId datasetName (some entries)).Reaches run

/-- No errored run is found from a run. -/
def Clean (run : RunInfo) : Prop := ∀ run', run.Reaches run' → run'.typeName ≠ "PipelineRunErrored"

/-- No errored run is found from an entry of ingested items. -/
def CleanEntry : RunInfo → Prop
  | dict fields => ∀ value, fields.lookup "run_info" = some value → value.Clean
  | entry => entry.Clean

theorem cleanEntry_iff {entry : RunInfo} (hdict : ∀ fields, entry ≠ dict fields) :
    entry.CleanEntry ↔ entry.Clean := by
  cases entry with
  | dict fields => exact absurd rfl (hdict fields)
  | _ => exact Iff.rfl

theorem clean_object_iff {typeName : String} {datasetId datasetName : Option String}
    {entries : List RunInfo} :
    (object typeName datasetId datasetName (some entries)).Clean ↔
      typeName ≠ "PipelineRunErrored" ∧ ∀ entry ∈ entries, entry.CleanEntry := by
  constructor
  · refine fun h => ⟨h _ (.self _), fun entry he => ?_⟩
    by_cases hdict : ∃ fields, entry = dict fields
    · obtain ⟨fields, rfl⟩ := hdict
      exact fun value hvalue run hrun => h run (.runInfo he hvalue hrun)
    · push Not at hdict
      exact (cleanEntry_iff hdict).2 fun run hrun => h run (.entry he hdict hrun)
  · rintro ⟨hself, hall⟩ run hrun
    cases hrun with
    | self => exact hself
    | runInfo hentry hvalue hrun => exact hall _ hentry _ hvalue run hrun
    | entry hentry hdict hrun => exact (cleanEntry_iff hdict).1 (hall _ hentry) run hrun

/-- A run without ingested items is errored itself, or not. -/
theorem clean_leaf_iff {run : RunInfo} (h : ∀ run', run.Reaches run' → run' = run) :
    run.Clean ↔ run.typeName ≠ "PipelineRunErrored" := by
  refine ⟨fun hc => hc run (.self run), fun hname run' hrun => ?_⟩
  rwa [h run' hrun]

mutual

/-- The scan of a run finds all errored runs. -/
theorem errored_eq_zero_iff : ∀ run : RunInfo, run.errored = 0 ↔ run.Clean
  | none => iff_of_true rfl ((clean_leaf_iff fun _ h => by cases h; rfl).2 (by decide))
  | dict fields => iff_of_true rfl ((clean_leaf_iff fun _ h => by cases h; rfl).2
      (show "dict" ≠ _ by decide))
  | object typeName _ _ (some entries) => by
    rw [errored, clean_object_iff, Nat.add_eq_zero_iff, erroredEntries_eq_zero_iff entries]
    exact and_congr_left' (by split_ifs with h <;> simp [h])
  | object typeName _ _ Option.none => by
    rw [errored, clean_leaf_iff fun _ h => by cases h; rfl]
    show _ ↔ typeName ≠ _
    split_ifs with h <;> simp [h]

theorem erroredEntries_eq_zero_iff : ∀ entries : List RunInfo,
    erroredEntries entries = 0 ↔ ∀ entry ∈ entries, entry.CleanEntry
  | [] => iff_of_true rfl fun _ h => absurd h List.not_mem_nil
  | dict fields :: rest => by
    rw [erroredEntries, Nat.add_eq_zero_iff, erroredEntries_eq_zero_iff rest,
      erroredRunInfo_eq_zero_iff fields, List.forall_mem_cons]
    rfl
  | none :: rest => by
    rw [erroredEntries, Nat.add_eq_zero_iff, erroredEntries_eq_zero_iff rest,
      errored_eq_zero_iff none, List.forall_mem_cons]
    · rfl
    · nofun
  | object typeName datasetId datasetName info :: rest => by
    rw [erroredEntries, Nat.add_eq_zero_iff, erroredEntries_eq_zero_iff rest,
      errored_eq_zero_iff (object typeName datasetId datasetName info), List.forall_mem_cons]
    · rfl
    · nofun

theorem erroredRunInfo_eq_zero_iff : ∀ fields : List (String × RunInfo),
    erroredRunInfo fields = 0 ↔ ∀ value, fields.lookup "run_info" = some value → value.Clean
  | [] => iff_of_true rfl nofun
  | (key, value) :: fields => by
    rw [erroredRunInfo, List.lookup_cons]
    by_cases hkey : key = "run_info"
    · rw [if_pos hkey, hkey, errored_eq_zero_iff value]
      simp
    · have hne : ("run_info" == key) = false := by simpa using Ne.symm hkey
      rw [if_neg hkey, hne, erroredRunInfo_eq_zero_iff fields]

end

/-! ## Accepted results -/

variable [Platform]

/-- No errored run is found in a result: a dict has one in each of its values. -/
def CleanResult : RunInfo → Prop
  | dict entries => ∀ entry ∈ entries, entry.2.Clean
  | result => result.Clean

/-- A run is a success of a dataset with a name. -/
def Succeeds (run : RunInfo) (datasetId dataset : String) : Prop :=
  (run.typeName = "PipelineRunAlreadyCompleted" ∨ run.typeName = "PipelineRunCompleted") ∧
    run.datasetId = some datasetId ∧ run.datasetName = some dataset

/-- The item of an ingestion is a success of a dataset, where `same` compares
    the dataset of its run. -/
def ItemSucceeds (same : RunInfo → String → Prop) (datasetId dataset : String) (entry : RunInfo) :
    Prop :=
  ∃ fields run, entry = dict fields ∧ fields.lookup "run_info" = some run ∧
    (run.typeName = "PipelineRunAlreadyCompleted" ∨ run.typeName = "PipelineRunCompleted") ∧
    same run datasetId ∧ run.datasetName = some dataset

/-- A result is the success of an add with a number of items, or of a cognify
    (without one), on the expected dataset. -/
def Accepted (same : RunInfo → String → Prop) (result : RunInfo) (dataset : String) :
    Option ℕ → Option UUID → Prop
  | some count, expectedDatasetId => ∃ datasetId entries, (∀ fields, result ≠ dict fields) ∧
      result.Succeeds datasetId dataset ∧
      (∀ expected ∈ expectedDatasetId, datasetId = Platform.uuidStr expected) ∧
      result.dataIngestionInfo = some entries ∧ entries.length = count ∧
      ∀ entry ∈ entries, entry.ItemSucceeds same datasetId dataset
  | Option.none, expectedDatasetId => ∃ expected terminal, expectedDatasetId = some expected ∧
      result = dict [(Platform.uuidStr expected, terminal)] ∧
      terminal.Succeeds (Platform.uuidStr expected) dataset ∧
      ∀ entries, terminal.dataIngestionInfo = some entries →
        ∀ entry ∈ entries, entry.ItemSucceeds same (Platform.uuidStr expected) dataset

/-- The same dataset, by the text of its id; that of a missing id is `None`. -/
def SameText (run : RunInfo) (datasetId : String) : Prop := run.datasetId.getD "None" = datasetId

/-- The same dataset, by an id that is there. -/
def SameId (run : RunInfo) (datasetId : String) : Prop := run.datasetId = some datasetId

end RunInfo

theorem throw_bind_eq_ok {α β : Type} {P : Prop} [Decidable P] {e : PyError}
    {f : α → Except PyError β} {x : Except PyError β} {b : β} :
    (if P then throw e >>= f else x) = .ok b ↔ ¬P ∧ x = .ok b := by
  by_cases h : P
  · rw [if_pos h]
    exact iff_of_false nofun fun h' => h'.1 h
  · rw [if_neg h]
    exact (and_iff_right h).symm

/-- The errored runs of a result. -/
def erroredRuns : RunInfo → ℕ
  | .dict entries => (entries.map fun e => e.2.errored).sum
  | result => result.errored

theorem erroredRuns_eq_zero_iff (result : RunInfo) :
    erroredRuns result = 0 ↔ result.CleanResult := by
  cases result with
  | dict entries =>
    rw [erroredRuns, List.sum_eq_zero_iff, List.forall_mem_map]
    exact forall₂_congr fun entry _ => entry.2.errored_eq_zero_iff
  | none => exact RunInfo.errored_eq_zero_iff _
  | object typeName datasetId datasetName info => exact RunInfo.errored_eq_zero_iff _

@[simp] theorem isSuccess_iff {run : RunInfo} : run.isSuccess = true ↔
    run.typeName = "PipelineRunAlreadyCompleted" ∨ run.typeName = "PipelineRunCompleted" :=
  decide_eq_true_iff

theorem runInfo?_eq_some_iff {entry run : RunInfo} : entry.runInfo? = some run ↔
    ∃ fields, entry = .dict fields ∧ fields.lookup "run_info" = some run := by
  cases entry <;> simp [RunInfo.runInfo?]

/-- An item is accepted if it passes the checks of a nested run. -/
theorem itemSucceeds_iff {datasetId dataset : String} {entry : RunInfo} :
    entry.ItemSucceeds RunInfo.SameText datasetId dataset ↔ ∃ run, entry.runInfo? = some run ∧
      (run.isSuccess && decide (run.datasetId.getD "None" = datasetId) &&
        decide (run.datasetName = some dataset)) = true := by
  constructor
  · rintro ⟨fields, run, rfl, hrun, hname, hid, hdataset⟩
    have htext : run.datasetId.getD "None" = datasetId := hid
    exact ⟨run, hrun, by simp [hname, htext, hdataset]⟩
  · rintro ⟨run, hrun, hsuccess⟩
    obtain ⟨fields, rfl, hfields⟩ := runInfo?_eq_some_iff.1 hrun
    simp only [Bool.and_eq_true, isSuccess_iff, decide_eq_true_eq] at hsuccess
    exact ⟨fields, run, rfl, hfields, hsuccess.1.1, hsuccess.1.2, hsuccess.2⟩

theorem itemsSucceed_iff {datasetId dataset : String} {entries : List RunInfo} :
    (∃ runs, entries.mapM RunInfo.runInfo? = some runs ∧
      nestedSucceed datasetId dataset runs = true) ↔
      ∀ entry ∈ entries, entry.ItemSucceeds RunInfo.SameText datasetId dataset := by
  induction entries with
  | nil => simp [nestedSucceed]
  | cons entry entries ih =>
    rw [List.forall_mem_cons, ← ih, itemSucceeds_iff]
    simp only [List.mapM_cons, Option.bind_eq_bind, Option.bind_eq_some_iff, Option.pure_def,
      Option.some.injEq]
    constructor
    · rintro ⟨_, ⟨run, hrun, runs, hruns, rfl⟩, hall⟩
      rw [nestedSucceed, List.all_cons, Bool.and_eq_true] at hall
      exact ⟨⟨run, hrun, hall.1⟩, runs, hruns, hall.2⟩
    · rintro ⟨⟨run, hrun, hsuccess⟩, runs, hruns, hall⟩
      refine ⟨run :: runs, ⟨run, hrun, runs, hruns, rfl⟩, ?_⟩
      rw [nestedSucceed, List.all_cons, Bool.and_eq_true]
      exact ⟨hsuccess, hall⟩

theorem throw_bind_eq_error {α β : Type} {P : Prop} [Decidable P] {e e' : PyError}
    {f : α → Except PyError β} {x : Except PyError β}
    (h : (if P then throw e >>= f else x) = .error e') : e = e' ∨ x = .error e' := by
  split_ifs at h
  · exact .inl (Except.error.inj h)
  · exact .inr h

/-! ## The checks one by one -/

/-- The checks of the items. -/
def checkItems (unrecognized : PyError) (dataset terminalDatasetId : String)
    (expectedItemCount : Option ℕ) (dataIngestionInfo : Option (List RunInfo)) :
    Except PyError Unit := do
  match expectedItemCount, dataIngestionInfo with
  | some _, none => throw unrecognized
  | none, none => return
  | expectedItemCount, some entries =>
    if expectedItemCount.any fun n => decide (entries.length ≠ n) then throw unrecognized
    let some runs := entries.mapM RunInfo.runInfo? | throw unrecognized
    if !nestedSucceed terminalDatasetId dataset runs then throw unrecognized

/-- What is asked of the items. -/
def ItemsAccepted (datasetId dataset : String) (dataIngestionInfo : Option (List RunInfo)) :
    Option ℕ → Prop
  | some count => ∃ entries, dataIngestionInfo = some entries ∧ entries.length = count ∧
      ∀ entry ∈ entries, entry.ItemSucceeds RunInfo.SameText datasetId dataset
  | none => ∀ entries, dataIngestionInfo = some entries →
      ∀ entry ∈ entries, entry.ItemSucceeds RunInfo.SameText datasetId dataset

theorem checkItems_eq_ok_iff {e : PyError} {dataset datasetId : String}
    {expectedItemCount : Option ℕ} {info : Option (List RunInfo)} :
    checkItems e dataset datasetId expectedItemCount info = .ok () ↔
      ItemsAccepted datasetId dataset info expectedItemCount := by
  -- The items of a list are checked the same, with and without a count.
  have hitems (entries : List RunInfo) :
      (match entries.mapM RunInfo.runInfo? with
        | some runs => if !nestedSucceed datasetId dataset runs then throw e else pure ()
        | _ => throw e : Except PyError Unit) = .ok () ↔
        ∀ entry ∈ entries, entry.ItemSucceeds RunInfo.SameText datasetId dataset := by
    rw [← itemsSucceed_iff]
    cases entries.mapM RunInfo.runInfo? with
    | none => exact iff_of_false nofun nofun
    | some runs =>
      simp only [Option.some.injEq, exists_eq_left']
      cases nestedSucceed datasetId dataset runs with
      | false => exact iff_of_false nofun nofun
      | true => exact iff_of_true rfl rfl
  cases info with
  | none =>
    cases expectedItemCount with
    | none => exact iff_of_true rfl nofun
    | some count => exact iff_of_false nofun nofun
  | some entries =>
    rw [checkItems, throw_bind_eq_ok]
    · refine (and_congr_right' (hitems entries)).trans ?_
      cases expectedItemCount with
      | none =>
        refine ⟨?_, fun h => ⟨nofun, h entries rfl⟩⟩
        rintro ⟨-, hall⟩ entries' ⟨⟩
        exact hall
      | some count =>
        simp only [Option.any_some, decide_eq_true_eq, not_not]
        constructor
        · rintro ⟨hcount, hall⟩
          exact ⟨entries, rfl, hcount, hall⟩
        · rintro ⟨entries', heq, hcount, hall⟩
          cases heq
          exact ⟨hcount, hall⟩

theorem checkItems_eq_error {e e' : PyError} {dataset datasetId : String}
    {expectedItemCount : Option ℕ} {info : Option (List RunInfo)}
    (h : checkItems e dataset datasetId expectedItemCount info = .error e') : e = e' := by
  unfold checkItems at h
  split at h
  · exact Except.error.inj h
  · cases h
  · rcases throw_bind_eq_error h with rfl | h
    · rfl
    · split at h
      · split_ifs at h
        · exact Except.error.inj h
        · cases h
      · exact Except.error.inj h

section

variable [Platform]

/-- The checks of the terminal run. -/
def checkTerminal (unrecognized : PyError) (dataset : String) (expectedItemCount : Option ℕ)
    (expectedDatasetId : Option UUID) (terminal : RunInfo) : Except PyError Unit := do
  if !terminal.isSuccess then throw unrecognized
  let some terminalDatasetId := terminal.datasetId | throw unrecognized
  if expectedDatasetId.any fun i => decide (Platform.uuidStr i ≠ terminalDatasetId) then
    throw unrecognized
  if terminal.datasetName ≠ some dataset then throw unrecognized
  checkItems unrecognized dataset terminalDatasetId expectedItemCount terminal.dataIngestionInfo

theorem raiseOnErroredRuns_eq (result : RunInfo) (op dataset : String)
    (expectedItemCount : Option ℕ) (expectedDatasetId : Option UUID) :
    raiseOnErroredRuns result op dataset expectedItemCount expectedDatasetId = (do
      if erroredRuns result ≠ 0 then
        throw ⟨.cogneePipelineError, "cognee " ++ op ++ " on dataset " ++
          Platform.strRepr dataset ++ " reported " ++ (erroredRuns result).repr ++
          " errored pipeline run(s); inspect Cognee's own logs for details"⟩
      let terminal ← terminalRun result op dataset expectedItemCount expectedDatasetId
      checkTerminal (unrecognizedPipelineResult op dataset) dataset expectedItemCount
        expectedDatasetId terminal) := rfl

theorem checkTerminal_eq_ok_iff {e : PyError} {dataset : String} {expectedItemCount : Option ℕ}
    {expectedDatasetId : Option UUID} {terminal : RunInfo} :
    checkTerminal e dataset expectedItemCount expectedDatasetId terminal = .ok () ↔
      ∃ datasetId, terminal.Succeeds datasetId dataset ∧
        (∀ expected ∈ expectedDatasetId, datasetId = Platform.uuidStr expected) ∧
        ItemsAccepted datasetId dataset terminal.dataIngestionInfo expectedItemCount := by
  rw [checkTerminal, throw_bind_eq_ok]
  cases hid : terminal.datasetId with
  | none =>
    refine iff_of_false (fun h => nomatch h.2) ?_
    rintro ⟨datasetId, ⟨-, hid', -⟩, -⟩
    cases hid.symm.trans hid'
  | some datasetId =>
    have hexpected : ¬expectedDatasetId.any (fun i => decide (Platform.uuidStr i ≠ datasetId)) ↔
        ∀ expected ∈ expectedDatasetId, datasetId = Platform.uuidStr expected := by
      cases expectedDatasetId with
      | none => exact iff_of_true nofun nofun
      | some expected =>
        simp only [Option.any_some, decide_eq_true_eq, not_not, Option.mem_some_iff, forall_eq']
        exact eq_comm
    simp only [throw_bind_eq_ok, checkItems_eq_ok_iff, hexpected, Bool.not_eq_true',
      Bool.not_eq_false, isSuccess_iff, ne_eq, not_not]
    constructor
    · rintro ⟨hname, hall, hdataset, hitems⟩
      exact ⟨datasetId, ⟨hname, hid, hdataset⟩, hall, hitems⟩
    · rintro ⟨datasetId', ⟨hname, hid', hdataset⟩, hall, hitems⟩
      cases hid.symm.trans hid'
      exact ⟨hname, hall, hdataset, hitems⟩

/-- The terminal run: the result itself of an add, the one value of that of a cognify. -/
theorem terminalRun_eq_ok_iff {result terminal : RunInfo} {op dataset : String}
    {expectedItemCount : Option ℕ} {expectedDatasetId : Option UUID} :
    terminalRun result op dataset expectedItemCount expectedDatasetId = .ok terminal ↔
      match expectedItemCount with
      | some _ => (∀ fields, result ≠ .dict fields) ∧ result = terminal
      | none => ∃ expected, expectedDatasetId = some expected ∧
          result = .dict [(Platform.uuidStr expected, terminal)] := by
  unfold terminalRun
  split
  · rename_i key value
    cases expectedItemCount with
    | some count => exact iff_of_false (by cases expectedDatasetId <;> nofun) fun h => h.1 _ rfl
    | none =>
      cases expectedDatasetId with
      | none => exact iff_of_false nofun (by rintro ⟨_, h, -⟩; cases h)
      | some expected =>
        simp only [Option.some.injEq, exists_eq_left', RunInfo.dict.injEq, List.cons.injEq,
          Prod.mk.injEq, and_true]
        split_ifs with hkey
        · simp [hkey]
        · exact iff_of_false nofun fun h => hkey h.1
  -- A mapping of several runs, or of none, is no result of one dataset.
  · rename_i fields hsingle
    refine iff_of_false nofun ?_
    cases expectedItemCount with
    | some count => exact fun h => h.1 fields rfl
    | none =>
      rintro ⟨expected, -, h⟩
      exact hsingle _ _ (RunInfo.dict.inj h)
  · rename_i hsingle hdict
    cases expectedItemCount with
    | some count => exact ⟨fun h => ⟨hdict, Except.ok.inj h⟩, fun h => congrArg Except.ok h.2⟩
    | none =>
      refine iff_of_false nofun ?_
      rintro ⟨expected, -, h⟩
      exact hdict _ h

/-- The guard accepts exactly the explicit successes without errored runs. -/
theorem raiseOnErroredRuns_eq_ok_iff {result : RunInfo} {op dataset : String}
    {expectedItemCount : Option ℕ} {expectedDatasetId : Option UUID} :
    raiseOnErroredRuns result op dataset expectedItemCount expectedDatasetId = .ok () ↔
      result.CleanResult ∧
        result.Accepted RunInfo.SameText dataset expectedItemCount expectedDatasetId := by
  rw [raiseOnErroredRuns_eq, throw_bind_eq_ok, not_not, erroredRuns_eq_zero_iff, bind_eq_ok]
  refine and_congr_right' ?_
  simp only [checkTerminal_eq_ok_iff, terminalRun_eq_ok_iff]
  cases expectedItemCount with
  | some count =>
    constructor
    · rintro ⟨terminal, ⟨hdict, rfl⟩, datasetId, hsucceeds, hall, entries, hentries, hcount, hitems⟩
      exact ⟨datasetId, entries, hdict, hsucceeds, hall, hentries, hcount, hitems⟩
    · rintro ⟨datasetId, entries, hdict, hsucceeds, hall, hentries, hcount, hitems⟩
      exact ⟨result, ⟨hdict, rfl⟩, datasetId, hsucceeds, hall, entries, hentries, hcount, hitems⟩
  | none =>
    constructor
    -- Without items, the one run is filed under the dataset that was expected.
    · rintro ⟨terminal, ⟨expected, rfl, rfl⟩, datasetId, hsucceeds, hall, hitems⟩
      obtain rfl := hall expected rfl
      exact ⟨expected, terminal, rfl, rfl, hsucceeds, hitems⟩
    · rintro ⟨expected, terminal, rfl, rfl, hsucceeds, hitems⟩
      refine ⟨terminal, ⟨expected, rfl, rfl⟩, _, hsucceeds, ?_, hitems⟩
      rintro _ ⟨⟩
      rfl

/-! ## Rejected results -/

theorem checkTerminal_eq_error {e e' : PyError} {dataset : String} {expectedItemCount : Option ℕ}
    {expectedDatasetId : Option UUID} {terminal : RunInfo}
    (h : checkTerminal e dataset expectedItemCount expectedDatasetId terminal = .error e') :
    e = e' := by
  rcases throw_bind_eq_error h with rfl | h
  · rfl
  cases hid : terminal.datasetId with
  | none =>
    rw [hid] at h
    exact Except.error.inj h
  | some datasetId =>
    rw [hid] at h
    rcases throw_bind_eq_error h with rfl | h
    · rfl
    rcases throw_bind_eq_error h with rfl | h
    exacts [rfl, checkItems_eq_error h]

theorem terminalRun_error_kind {result : RunInfo} {op dataset : String}
    {expectedItemCount : Option ℕ} {expectedDatasetId : Option UUID} {e : PyError}
    (h : terminalRun result op dataset expectedItemCount expectedDatasetId = .error e) :
    e.kind = .cogneePipelineError := by
  unfold terminalRun at h
  split at h
  · split at h
    · split_ifs at h
      rw [← Except.error.inj h]
    · rw [← Except.error.inj h]
      rfl
  · rw [← Except.error.inj h]
    rfl
  · split_ifs at h
    rw [← Except.error.inj h]
    rfl

/-- All other results are rejected with a `CogneePipelineError`. -/
theorem raiseOnErroredRuns_error_kind {result : RunInfo} {op dataset : String}
    {expectedItemCount : Option ℕ} {expectedDatasetId : Option UUID} {e : PyError}
    (h : raiseOnErroredRuns result op dataset expectedItemCount expectedDatasetId = .error e) :
    e.kind = .cogneePipelineError := by
  rw [raiseOnErroredRuns_eq] at h
  rcases throw_bind_eq_error h with rfl | h
  · rfl
  cases hterminal : terminalRun result op dataset expectedItemCount expectedDatasetId with
  | error e' =>
    rw [hterminal] at h
    obtain rfl := Except.error.inj h
    exact terminalRun_error_kind hterminal
  | ok terminal =>
    rw [hterminal] at h
    rw [← checkTerminal_eq_error h]
    rfl

/-- The guard accepts exactly proven successes, comparing the datasets of the
    items by the texts of their ids. -/
theorem accepts_exactly_successes (result : RunInfo) (op dataset : String)
    (expectedItemCount : Option ℕ) (expectedDatasetId : Option UUID) :
    (raiseOnErroredRuns result op dataset expectedItemCount expectedDatasetId = .ok () ↔
      result.CleanResult ∧
        result.Accepted RunInfo.SameText dataset expectedItemCount expectedDatasetId) ∧
    ∀ e, raiseOnErroredRuns result op dataset expectedItemCount expectedDatasetId = .error e →
      e.kind = .cogneePipelineError :=
  ⟨raiseOnErroredRuns_eq_ok_iff, fun _ => raiseOnErroredRuns_error_kind⟩

end

/-- An item without a `dataset_id` is accepted in the dataset with the id `None`. -/
theorem accepts_item_without_id :
    letI : Platform := .sample
    let item := RunInfo.object "PipelineRunCompleted" none (some "ds") none
    let result := RunInfo.object "PipelineRunCompleted" (some "None") (some "ds")
      (some [.dict [("run_info", item)]])
    raiseOnErroredRuns result "add" "ds" (some 1) none = .ok () ∧
      ¬result.Accepted RunInfo.SameId "ds" (some 1) none := by
  let _ : Platform := .sample
  refine ⟨rfl, ?_⟩
  rintro ⟨datasetId, entries, -, ⟨-, hid, -⟩, -, hentries, -, hitems⟩
  cases hid
  cases hentries
  obtain ⟨fields, run, hfields, hrun, -, hsame, -⟩ := hitems _ (List.mem_singleton_self _)
  cases hfields
  cases hrun
  cases hsame

end Cogindex
