import Mathlib.Algebra.Ring.Int.Defs
import MediaMasterr.Foundations.Dict
import MediaMasterr.Foundations.PythonText

/-! # Bulk execution sessions

`OperationsExecutionManager`: a session runs the selected recommendations one
after another through preview, validation and execution, moves the stages of
every item along and keeps the counters of the session. -/

namespace MediaMasterr.Mie.OperationsExecution

open MediaMasterr.Foundations

/-- What a session reads of an `OperationsRecommendation`. -/
structure OperationsRecommendation where
  id : String
  title : String
  action : String
  cardKey : String := ""
  targetType : String
  targetId : Option String := none
  estimatedRecoveryBytes : Int := 0
  deriving DecidableEq, Repr

/-! ## Stages -/

/-- The keys of `_PIPELINE_LABELS`. -/
inductive PipelineKey where
  | filesystem
  | identity
  | metadata
  | artwork
  | collections
  | tags
  | plexRefresh
  | sonarrUpdate
  | radarrUpdate
  | cleanup
  deriving DecidableEq, Repr

/-- `_PIPELINE_LABELS`. -/
def pipelineLabels : PipelineKey → String
  | .filesystem => "Filesystem"
  | .identity => "Identity"
  | .metadata => "Metadata"
  | .artwork => "Artwork"
  | .collections => "Collections"
  | .tags => "Tags"
  | .plexRefresh => "Plex Refresh"
  | .sonarrUpdate => "Sonarr Update"
  | .radarrUpdate => "Radarr Update"
  | .cleanup => "Cleanup"

inductive StageStatus where
  | pending
  | running
  | completed
  | failed
  | skipped
  deriving DecidableEq, Repr

structure StageProgress where
  key : PipelineKey
  label : String
  status : StageStatus := .pending
  detail : Option String := none
  deriving DecidableEq, Repr

/-- `any(token in text for token in tokens)`. -/
def anyToken (text : String) (tokens : List String) : Bool :=
  tokens.any (PythonText.contains text)

/-- The steps of `_pipeline_keys_for_recommendation` before repeats are dropped. -/
def pipelineSteps (action cardKey targetType : String) : List PipelineKey :=
  [.filesystem] ++
  (if targetType ≠ "download_object" then [.identity] else []) ++
  (if anyToken cardKey ["artwork", "poster"] then [.metadata, .artwork]
    else if anyToken action ["metadata", "rename", "repair", "match"] then [.metadata, .artwork]
    else []) ++
  (if anyToken action ["collection", "library"] then [.collections] else []) ++
  (if anyToken action ["tag", "label"] then [.tags] else []) ++
  (if targetType ∈ ["series", "season", "episode"] then [.sonarrUpdate] else []) ++
  (if targetType = "movie" then [.radarrUpdate] else []) ++
  (if targetType ∈ ["movie", "series", "season", "episode"] then [.plexRefresh] else []) ++
  (if anyToken action ["delete", "remove", "detach", "cleanup"] then [.cleanup] else [])

/-- `_pipeline_keys_for_recommendation`, with `str.lower` of the interpreter. -/
def pipelineKeysForRecommendation (lower : String → String)
    (recommendation : OperationsRecommendation) : List PipelineKey :=
  (pipelineSteps (lower recommendation.action) (lower recommendation.cardKey)
    (lower recommendation.targetType)).foldl
    (fun deduped step => if step ∈ deduped then deduped else deduped ++ [step]) []

/-- `_stage_rows`. -/
def stageRows (keys : List PipelineKey) : List StageProgress :=
  keys.map fun key => { key := key, label := pipelineLabels key }

/-! ## Items and sessions -/

inductive ItemStatus where
  | pending
  | running
  | completed
  | failed
  | blocked
  deriving DecidableEq, Repr

structure ItemProgress where
  recommendationId : String
  title : String
  targetType : String
  targetId : Option String := none
  status : ItemStatus := .pending
  message : String := ""
  estimatedRecoveryBytes : Int := 0
  stages : List StageProgress := []
  operationHistoryId : Option Nat := none
  deriving DecidableEq, Repr

/-- `partly` is the status `"partial"`. -/
inductive SessionStatus where
  | queued
  | running
  | completed
  | failed
  | partly
  deriving DecidableEq, Repr

/-- `_SessionState`. `executions` are the ids that `recommendation_execute` was called with. -/
structure SessionState where
  historyId : Nat
  selectedIds : List String
  items : List ItemProgress
  status : SessionStatus := .queued
  completed : Nat := 0
  failed : Nat := 0
  warnings : Nat := 0
  currentAssetTitle : Option String := none
  currentStepLabel : Option String := none
  recoveredSpaceBytes : Int := 0
  executions : List String := []
  deriving DecidableEq, Repr

/-- The `OperationHistory` row of a session. -/
structure SessionHistory where
  id : Nat
  result : SessionStatus
  recoveryBytes : Int
  createdByUserId : Option Nat
  selectedIds : List String
  selectedCount : Nat
  status : SessionStatus
  successful : Nat := 0
  warnings : Nat := 0
  failed : Nat := 0
  items : List ItemProgress
  deriving DecidableEq, Repr

/-- `by_id`: of two rows with one id the later one counts. -/
def byId (recommendations : List OperationsRecommendation) : Dict String OperationsRecommendation :=
  Dict.build (fun row => some row.id) id recommendations

/-- `selected`. -/
def selected (recommendations : List OperationsRecommendation) (recommendationIds : List String) :
    List OperationsRecommendation :=
  recommendationIds.filterMap (byId recommendations).get?

def itemOf (lower : String → String) (row : OperationsRecommendation) : ItemProgress where
  recommendationId := row.id
  title := row.title
  targetType := row.targetType
  targetId := row.targetId
  estimatedRecoveryBytes := row.estimatedRecoveryBytes
  stages := stageRows (pipelineKeysForRecommendation lower row)

/-- The history row that `start_session` adds. -/
def startHistory (historyId : Nat) (createdByUserId : Option Nat) (lower : String → String)
    (recommendationIds : List String) (rows : List OperationsRecommendation) : SessionHistory where
  id := historyId
  result := .running
  recoveryBytes := (rows.map (·.estimatedRecoveryBytes)).sum
  createdByUserId := createdByUserId
  selectedIds := recommendationIds
  selectedCount := recommendationIds.length
  status := .running
  items := rows.map (itemOf lower)

/-- `start_session`, up to the task that runs the session; `historyId` is the id that the new
history row gets. The error is the text of the `ValueError`. -/
def startSession (lower : String → String) (historyId : Nat) (createdByUserId : Option Nat)
    (recommendations : List OperationsRecommendation) (recommendationIds : List String) :
    Except String (SessionHistory × SessionState) :=
  let rows := selected recommendations recommendationIds
  if rows = [] then .error "No matching recommendations found for execution"
  else .ok (startHistory historyId createdByUserId lower recommendationIds rows,
    { historyId := historyId, selectedIds := recommendationIds, items := rows.map (itemOf lower) })

/-! ## Moving the stages -/

/-- `_advance_step`. -/
def advanceStep (state : SessionState) (item : ItemProgress) (index : Nat) (label : String) :
    SessionState × ItemProgress :=
  if index < item.stages.length then
    ({ state with currentStepLabel := some label },
      { item with stages := item.stages.modify index fun stage =>
          { stage with status := .running, detail := some label } })
  else (state, item)

/-- `_complete_step`. -/
def completeStep (item : ItemProgress) (index : Nat) (detail : String) : ItemProgress :=
  { item with stages := item.stages.modify index fun stage =>
      { stage with status := .completed, detail := some detail } }

/-- `_fail_step`. -/
def failStep (item : ItemProgress) (index : Nat) (detail : String) : ItemProgress :=
  { item with stages := item.stages.modify index fun stage =>
      { stage with status := .failed, detail := some detail } }

def skipPending (stage : StageProgress) : StageProgress :=
  if stage.status = .pending then { stage with status := .skipped } else stage

def completePending (stage : StageProgress) : StageProgress :=
  if stage.status = .pending then { stage with status := .completed, detail := some "Completed" }
  else stage

/-- `_skip_remaining_steps`. -/
def skipRemainingSteps (item : ItemProgress) (start : Nat) : ItemProgress :=
  { item with stages := item.stages.take start ++ (item.stages.drop start).map skipPending }

/-- `_complete_remaining_steps`. -/
def completeRemainingSteps (item : ItemProgress) (start : Nat) : ItemProgress :=
  { item with stages := item.stages.take start ++ (item.stages.drop start).map completePending }

/-- The first loop of `_fail_first_open_step`. -/
def failFirstOpen (detail : String) : List StageProgress → List StageProgress
  | [] => []
  | stage :: stages =>
    if stage.status = .pending ∨ stage.status = .running then
      { stage with status := .failed, detail := some detail } :: stages
    else stage :: failFirstOpen detail stages

/-- `_fail_first_open_step`. -/
def failFirstOpenStep (item : ItemProgress) (detail : String) : ItemProgress :=
  let stages := failFirstOpen detail item.stages
  skipRemainingSteps { item with stages := stages }
    (((stages.findIdx? (·.status = .failed)).map (· + 1)).getD stages.length)

/-- `_execution_label_for_item`. -/
def executionLabelForItem (item : ItemProgress) : String :=
  let keys := item.stages.map (·.key)
  if .artwork ∈ keys then "Resolving artwork..."
  else if .identity ∈ keys then "Updating identity..."
  else if .cleanup ∈ keys then "Cleaning downloads..."
  else if .plexRefresh ∈ keys then "Refreshing Plex..."
  else "Applying operation..."

/-! ## Running -/

/-- What the session reads of the answer of `recommendation_validate`: `checks` says of every
check whether it passed. -/
structure Validation where
  valid : Bool
  checks : List Bool := []
  deriving DecidableEq, Repr

/-- What the session reads of the answer of `recommendation_execute`. -/
structure Execution where
  executed : Bool
  message : String := ""
  operationHistoryId : Option Nat := none
  checks : List Bool := []
  deriving DecidableEq, Repr

/-- What the service answers for an item: the preview's details, the validation and the
execution, or the text of the exception raised instead. -/
structure Answers where
  preview : Except String (List String)
  validate : Except String Validation
  execute : Except String Execution

/-- `sum(1 for check in checks if not check.passed)`. -/
def failedChecks (checks : List Bool) : Nat := checks.countP (!·)

/-- The session with `recommendation_execute` called for the item. -/
def SessionState.called (state : SessionState) (item : ItemProgress) : SessionState :=
  { state with executions := state.executions ++ [item.recommendationId] }

/-- The branch of a validation that is not valid. -/
def blockItem (state : SessionState) (item : ItemProgress) (index : Nat) (validation : Validation) :
    SessionState × ItemProgress :=
  let item := failStep item index "Validation blocked execution"
  ({ state with
      failed := state.failed + 1
      warnings := state.warnings + failedChecks validation.checks },
    skipRemainingSteps { item with status := .blocked, message := "Validation blocked execution" }
      (index + 1))

/-- What follows an answer of `recommendation_execute`. -/
def recordExecution (state : SessionState) (item : ItemProgress) (index : Nat)
    (execution : Execution) : SessionState × ItemProgress :=
  let item := { item with
    operationHistoryId := execution.operationHistoryId
    message := execution.message }
  let state := { state with warnings := state.warnings + failedChecks execution.checks }
  if execution.executed then
    let item := completeRemainingSteps (completeStep item index execution.message) (index + 1)
    ({ state with
        completed := state.completed + 1
        recoveredSpaceBytes := state.recoveredSpaceBytes + item.estimatedRecoveryBytes },
      { item with status := .completed })
  else
    let item := skipRemainingSteps (failStep item index execution.message) (index + 1)
    ({ state with failed := state.failed + 1 }, { item with status := .failed })

/-- The `try` block of `_run_session` for one item, with the text of the exception that ended
it. -/
def attemptItem (state : SessionState) (item : ItemProgress) (answers : Answers) :
    SessionState × ItemProgress × Option String :=
  let (state, item) := advanceStep state item 0 "Scanning filesystem..."
  match answers.preview with
  | .error exc => (state, item, some exc)
  | .ok details =>
    let item := completeStep item 0 (details.head?.getD "Filesystem scan complete")
    let validationIndex := if 1 < item.stages.length then 1 else 0
    let (state, item) := advanceStep state item validationIndex "Matching identity..."
    match answers.validate with
    | .error exc => (state, item, some exc)
    | .ok validation =>
      if !validation.valid then
        let (state, item) := blockItem state item validationIndex validation
        (state, item, none)
      else
        let item := completeStep item validationIndex "Identity matched"
        let executeIndex := min (validationIndex + 1) (item.stages.length - 1)
        let (state, item) := advanceStep state item executeIndex (executionLabelForItem item)
        let state := state.called item
        match answers.execute with
        | .error exc => (state, item, some exc)
        | .ok execution =>
          let (state, item) := recordExecution state item executeIndex execution
          (state, item, none)

/-- The `except` block. -/
def failItem (state : SessionState) (item : ItemProgress) (exc : String) :
    SessionState × ItemProgress :=
  ({ state with failed := state.failed + 1 },
    failFirstOpenStep { item with status := .failed, message := exc } exc)

/-- The `finally` block. -/
def showItem (state : SessionState) (item : ItemProgress) : SessionState :=
  { state with
    currentAssetTitle := some item.title
    currentStepLabel := some (if item.message = "" then executionLabelForItem item
      else item.message) }

/-- One round of the loop of `_run_session`. -/
def runItem (state : SessionState) (item : ItemProgress) (answers : Answers) :
    SessionState × ItemProgress :=
  let (state, item, exc) := attemptItem { state with currentAssetTitle := some item.title }
    { item with status := .running } answers
  let (state, item) := match exc with
    | none => (state, item)
    | some exc => failItem state item exc
  (showItem state item, item)

/-- The loop of `_run_session`; the service answers for the `k`-th item of the session with
`answers k`. -/
def runItems (answers : Nat → Answers) :
    Nat → SessionState → List ItemProgress → SessionState × List ItemProgress
  | _, state, [] => (state, [])
  | k, state, item :: items =>
    let (state, item) := runItem state item (answers k)
    let (state, items) := runItems answers (k + 1) state items
    (state, item :: items)

/-- The status of a session whose items all ran. -/
def finalStatus (state : SessionState) : SessionStatus :=
  if state.failed = 0 then .completed
  else if state.completed = 0 then .failed
  else .partly

/-- What the end of `_run_session` writes in the history row. -/
def SessionHistory.finish (history : SessionHistory) (state : SessionState)
    (createdByUserId : Option Nat) : SessionHistory :=
  { history with
    result := state.status
    recoveryBytes := state.recoveredSpaceBytes
    createdByUserId := createdByUserId
    selectedIds := state.selectedIds
    selectedCount := state.selectedIds.length
    status := state.status
    successful := state.completed
    warnings := state.warnings
    failed := state.failed
    items := state.items }

/-- `_run_session`, with the history row that is in the database when it ends. -/
def runSession (answers : Nat → Answers) (createdByUserId : Option Nat) (state : SessionState)
    (history : Option SessionHistory) : SessionState × Option SessionHistory :=
  let (state, items) := runItems answers 0 { state with status := .running } state.items
  let state := { state with
    items := items
    currentAssetTitle := none
    currentStepLabel := some "Completed."
    status := finalStatus state }
  (state, history.map (·.finish state createdByUserId))

end MediaMasterr.Mie.OperationsExecution
