import Cogindex.Identity

/-!
# Results of pipelines

Cognee reports errors of a pipeline in what it returns. `raiseOnErroredRuns`
accepts a result (`RunInfo`) only if it is an explicit success of the dataset
that was asked for, with nothing errored in it.
-/

namespace Cogindex

variable [Platform]

/-- A result of Cognee, as far as the guard looks into it: `None`, a dict with
    its keys as texts, or an object with its type name, the texts of its
    `dataset_id` and `dataset_name`, and its `data_ingestion_info` if that is a list. -/
inductive RunInfo
  | none
  | dict (entries : List (String × RunInfo))
  | object (typeName : String) (datasetId datasetName : Option String)
      (dataIngestionInfo : Option (List RunInfo))

namespace RunInfo

/-- `type(run_info).__name__`. -/
def typeName : RunInfo → String
  | none => "NoneType"
  | dict _ => "dict"
  | object typeName _ _ _ => typeName

def datasetId : RunInfo → Option String
  | object _ datasetId _ _ => datasetId
  | _ => Option.none

def datasetName : RunInfo → Option String
  | object _ _ datasetName _ => datasetName
  | _ => Option.none

def dataIngestionInfo : RunInfo → Option (List RunInfo)
  | object _ _ _ dataIngestionInfo => dataIngestionInfo
  | _ => Option.none

mutual

/-- The errored runs of a run and of its nested entries. -/
def errored : RunInfo → ℕ
  | none => 0
  | dict _ => 0
  | object typeName _ _ (some entries) =>
    (if typeName = "PipelineRunErrored" then 1 else 0) + erroredEntries entries
  | object typeName _ _ Option.none => if typeName = "PipelineRunErrored" then 1 else 0

/-- The errored runs of the entries of a `data_ingestion_info`. -/
def erroredEntries : List RunInfo → ℕ
  | [] => 0
  | dict entries :: rest => erroredRunInfo entries + erroredEntries rest
  | entry :: rest => entry.errored + erroredEntries rest

/-- The errored runs under the key `run_info` of an entry. -/
def erroredRunInfo : List (String × RunInfo) → ℕ
  | [] => 0
  | (key, value) :: entries =>
    if key = "run_info" then value.errored else erroredRunInfo entries

end

/-- An explicit success. -/
def isSuccess (run : RunInfo) : Bool :=
  decide (run.typeName = "PipelineRunAlreadyCompleted" ∨ run.typeName = "PipelineRunCompleted")

/-- The `run_info` of an entry, which has to be a dict. -/
def runInfo? : RunInfo → Option RunInfo
  | dict entries => entries.lookup "run_info"
  | _ => Option.none

end RunInfo

/-- The error for everything that is not a success. -/
def unrecognizedPipelineResult (op dataset : String) : PyError :=
  ⟨.cogneePipelineError, "cognee " ++ op ++ " on dataset " ++ Platform.strRepr dataset ++
    " returned no recognized successful terminal pipeline result"⟩

/-- The nested runs of an ingestion are successes for the dataset of the terminal one. -/
def nestedSucceed (terminalDatasetId dataset : String) (runs : List RunInfo) : Bool :=
  runs.all fun run => run.isSuccess && decide (run.datasetId.getD "None" = terminalDatasetId) &&
    decide (run.datasetName = some dataset)

/-- The terminal run of a result: a dict has one for the dataset that was asked
    for, and only if no items were expected. -/
def terminalRun (result : RunInfo) (op dataset : String) (expectedItemCount : Option ℕ)
    (expectedDatasetId : Option UUID) : Except PyError RunInfo :=
  match result with
  | .dict [(key, terminal)] =>
    match expectedItemCount, expectedDatasetId with
    | none, some datasetId =>
      if key = Platform.uuidStr datasetId then .ok terminal
      else .error ⟨.cogneePipelineError, "cognee " ++ op ++ " on dataset " ++
        Platform.strRepr dataset ++ " returned no result for the requested dataset"⟩
    | _, _ => .error (unrecognizedPipelineResult op dataset)
  | .dict _ => .error (unrecognizedPipelineResult op dataset)
  | result =>
    if expectedItemCount.isNone then .error (unrecognizedPipelineResult op dataset) else .ok result

/-- Requiring an explicit successful terminal result. -/
def raiseOnErroredRuns (result : RunInfo) (op dataset : String) (expectedItemCount : Option ℕ)
    (expectedDatasetId : Option UUID) : Except PyError Unit := do
  let unrecognized : PyError := unrecognizedPipelineResult op dataset
  -- Nested results are scanned first, whatever the status at the top.
  let erroredCount : ℕ := match result with
    | .dict entries => (entries.map fun e => e.2.errored).sum
    | result => result.errored
  if erroredCount ≠ 0 then
    throw ⟨.cogneePipelineError, "cognee " ++ op ++ " on dataset " ++ Platform.strRepr dataset ++
      " reported " ++ erroredCount.repr ++
      " errored pipeline run(s); inspect Cognee's own logs for details"⟩
  let terminal ← terminalRun result op dataset expectedItemCount expectedDatasetId
  if !terminal.isSuccess then throw unrecognized
  let some terminalDatasetId := terminal.datasetId | throw unrecognized
  if expectedDatasetId.any fun i => decide (Platform.uuidStr i ≠ terminalDatasetId) then
    throw unrecognized
  if terminal.datasetName ≠ some dataset then throw unrecognized
  match expectedItemCount, terminal.dataIngestionInfo with
  | some _, none => throw unrecognized
  | none, none => return
  | expectedItemCount, some entries =>
    if expectedItemCount.any fun n => decide (entries.length ≠ n) then throw unrecognized
    let some runs := entries.mapM RunInfo.runInfo? | throw unrecognized
    if !nestedSucceed terminalDatasetId dataset runs then throw unrecognized

end Cogindex
