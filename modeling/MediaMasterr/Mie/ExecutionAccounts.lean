import Mathlib.Algebra.BigOperators.Group.List.Lemmas
import Mathlib.Data.List.Enum
import MediaMasterr.Foundations.Loops
import MediaMasterr.Mie.OperationsExecution

/-! # The accounts of an execution session

Whatever the service answers, every item of a session ends with its stages
settled and is counted once. What is executed twice is a recommendation that was
selected twice, and the recorded number of selected items also counts the ids
that no recommendation has. -/

namespace MediaMasterr.Mie.OperationsExecution

open MediaMasterr.Foundations

/-- Some completed stages, then nothing or one failed stage and skipped ones. -/
def StagesSettled (stages : List StageProgress) : Prop :=
  ∃ n, stages.map (·.status) = List.replicate n .completed ∨
    ∃ m, stages.map (·.status) =
      List.replicate n .completed ++ .failed :: List.replicate m .skipped

def ItemStatus.Final (status : ItemStatus) : Prop :=
  status = .completed ∨ status = .failed ∨ status = .blocked

instance (status : ItemStatus) : Decidable status.Final :=
  inferInstanceAs (Decidable (_ ∨ _ ∨ _))

/-- An item as `start_session` builds it. -/
structure ItemProgress.Fresh (item : ItemProgress) : Prop where
  nonempty : item.stages ≠ []
  pending : ∀ stage ∈ item.stages, stage.status = .pending

/-! ## Stages -/

theorem advanceStep_eq (state : SessionState) (item : ItemProgress) (index : Nat) (label : String) :
    advanceStep state item index label =
      ({ state with currentStepLabel := if index < item.stages.length then some label
          else state.currentStepLabel },
        { item with stages := item.stages.modify index fun stage =>
          { stage with status := .running, detail := some label } }) := by
  unfold advanceStep
  split_ifs with hindex
  · rfl
  · rw [List.modify_eq_self (by omega)]

theorem skipPending_status {stages : List StageProgress}
    (h : ∀ stage ∈ stages, stage.status = .pending) :
    (stages.map skipPending).map (·.status) = List.replicate stages.length .skipped := by
  rw [List.map_map, List.eq_replicate_iff]
  refine ⟨by simp, ?_⟩
  intro status hmem
  obtain ⟨stage, hstage, rfl⟩ := List.mem_map.mp hmem
  simp [skipPending, h stage hstage]

theorem completePending_status {stages : List StageProgress}
    (h : ∀ stage ∈ stages, stage.status = .pending) :
    (stages.map completePending).map (·.status) = List.replicate stages.length .completed := by
  rw [List.map_map, List.eq_replicate_iff]
  refine ⟨by simp, ?_⟩
  intro status hmem
  obtain ⟨stage, hstage, rfl⟩ := List.mem_map.mp hmem
  simp [completePending, h stage hstage]

/-- The stage at `index` has the status `current`, the stages before it are completed and those
after it pending. -/
def StageAt (index : Nat) (current : StageStatus) (stages : List StageProgress) : Prop :=
  ∃ before stage after, stages = before ++ stage :: after ∧ before.length = index ∧
    (∀ s ∈ before, s.status = .completed) ∧ stage.status = current ∧ ∀ s ∈ after,
      s.status = .pending

theorem ItemProgress.Fresh.stageAt {item : ItemProgress} (h : item.Fresh) :
    StageAt 0 .pending item.stages := by
  obtain ⟨stage, after, hstages⟩ := List.exists_cons_of_ne_nil h.nonempty
  have hpending := h.pending
  rw [hstages] at hpending ⊢
  exact ⟨[], stage, after, rfl, rfl, by simp, hpending stage (by simp), fun s hs =>
    hpending s (by simp [hs])⟩

section StageAt

variable {index : Nat} {current : StageStatus} {stages : List StageProgress}

theorem StageAt.modify (h : StageAt index current stages) {f : StageProgress → StageProgress}
    {status : StageStatus} (hf : ∀ stage, (f stage).status = status) :
    StageAt index status (stages.modify index f) := by
  obtain ⟨before, stage, after, rfl, rfl, hbefore, -, hafter⟩ := h
  refine ⟨before, f stage, after, ?_, rfl, hbefore, hf stage, hafter⟩
  induction before with
  | nil => rfl
  | cons s before ih =>
    rw [List.cons_append, List.length_cons, List.modify_succ_cons,
      ih fun s hs => hbefore s (by simp [hs]), List.cons_append]

/-- After a completed stage comes the next one, or the same one again where it is the last. -/
theorem StageAt.next (h : StageAt index .completed stages) :
    ∃ current, StageAt (min (index + 1) (stages.length - 1)) current stages := by
  obtain ⟨before, stage, after, rfl, rfl, hbefore, hstage, hafter⟩ := h
  cases after with
  | nil =>
    refine ⟨.completed, before, stage, [], rfl, ?_, hbefore, hstage, hafter⟩
    simp
  | cons stage' after =>
    refine ⟨.pending, before ++ [stage], stage', after, by simp, ?_, ?_, hafter stage' (by simp),
      fun s hs => hafter s (by simp [hs])⟩
    · simp
    · intro s hs
      rcases List.mem_append.mp hs with hs | hs
      · exact hbefore s hs
      · rw [List.mem_singleton.mp hs, hstage]

theorem map_status_completed (h : ∀ stage ∈ stages, stage.status = .completed) :
    stages.map (·.status) = List.replicate stages.length .completed := by
  refine List.eq_replicate_iff.mpr ⟨by simp, ?_⟩
  intro status hmem
  obtain ⟨stage, hstage, rfl⟩ := List.mem_map.mp hmem
  exact h stage hstage

theorem StageAt.settled_skipping (h : StageAt index .failed stages) :
    StagesSettled (stages.take (index + 1) ++ (stages.drop (index + 1)).map skipPending) := by
  obtain ⟨before, stage, after, rfl, rfl, hbefore, hstage, hafter⟩ := h
  refine ⟨before.length, .inr ⟨after.length, ?_⟩⟩
  rw [← map_status_completed hbefore, ← skipPending_status hafter,
    List.append_cons before stage after, List.take_left' (by simp), List.drop_left' (by simp)]
  simp [hstage]

theorem StageAt.settled_completing (h : StageAt index .completed stages) :
    StagesSettled (stages.take (index + 1) ++ (stages.drop (index + 1)).map completePending) := by
  obtain ⟨before, stage, after, rfl, rfl, hbefore, hstage, hafter⟩ := h
  refine ⟨before.length + 1 + after.length, .inl ?_⟩
  rw [List.replicate_add, List.replicate_succ', ← map_status_completed hbefore,
    ← completePending_status hafter,
    List.append_cons before stage after, List.take_left' (by simp), List.drop_left' (by simp)]
  simp [hstage]

theorem StageAt.failFirstOpen (h : StageAt index .running stages) (detail : String) :
    StageAt index .failed (failFirstOpen detail stages) := by
  obtain ⟨before, stage, after, rfl, rfl, hbefore, hstage, hafter⟩ := h
  refine ⟨before, { stage with status := .failed, detail := some detail }, after, ?_, rfl, hbefore,
    rfl, hafter⟩
  induction before with
  | nil => simp [OperationsExecution.failFirstOpen, hstage]
  | cons s before ih =>
    rw [List.cons_append, OperationsExecution.failFirstOpen, if_neg (by simp [hbefore s]),
      ih fun s hs => hbefore s (by simp [hs]), List.cons_append]

theorem StageAt.findIdx_failed (h : StageAt index .failed stages) :
    stages.findIdx? (·.status = .failed) = some index := by
  obtain ⟨before, stage, after, rfl, rfl, hbefore, hstage, -⟩ := h
  rw [List.findIdx?_append,
    List.findIdx?_eq_none_iff.mpr (by simpa using fun s hs => by simp [hbefore s hs])]
  simp [List.findIdx?_cons, hstage]

end StageAt

theorem failItem_stages (state : SessionState) {item : ItemProgress} {index : Nat}
    (h : StageAt index .running item.stages) (exc : String) :
    StagesSettled (failItem state item exc).2.stages := by
  have hfailed := h.failFirstOpen exc
  simp only [failItem, failFirstOpenStep, hfailed.findIdx_failed]
  exact hfailed.settled_skipping

/-! ## One round -/

/-- The service's answers let the round call `recommendation_execute`. -/
def Answers.reachExecute (answers : Answers) : Bool :=
  match answers.preview, answers.validate with
  | .ok _, .ok validation => validation.valid
  | _, _ => false

theorem validationIndex_eq (stages : List StageProgress) :
    (if 1 < stages.length then 1 else 0) = min (0 + 1) (stages.length - 1) := by
  split_ifs <;> omega

section Steps

variable {item : ItemProgress} {index : Nat} {current : StageStatus}

theorem advanceStep_stageAt (h : StageAt index current item.stages) (state : SessionState)
    (label : String) : StageAt index .running (advanceStep state item index label).2.stages := by
  rw [advanceStep_eq]
  exact h.modify fun _ => rfl

theorem completeStep_stageAt (h : StageAt index current item.stages) (detail : String) :
    StageAt index .completed (completeStep item index detail).stages :=
  h.modify fun _ => rfl

theorem failStep_stageAt (h : StageAt index current item.stages) (detail : String) :
    StageAt index .failed (failStep item index detail).stages :=
  h.modify fun _ => rfl

theorem blockItem_stages (h : StageAt index current item.stages) (state : SessionState)
    (validation : Validation) :
    StagesSettled (blockItem state item index validation).2.stages :=
  (failStep_stageAt h _).settled_skipping

theorem recordExecution_stages (h : StageAt index current item.stages) (state : SessionState)
    (execution : Execution) :
    StagesSettled (recordExecution state item index execution).2.stages := by
  unfold recordExecution
  have hnoted : StageAt index current { item with
      operationHistoryId := execution.operationHistoryId
      message := execution.message }.stages := h
  split_ifs with hexecuted
  · exact (completeStep_stageAt hnoted execution.message).settled_completing
  · exact (failStep_stageAt hnoted execution.message).settled_skipping

end Steps

/-- What the `try` block leaves: settled stages, or a running stage and an exception. -/
theorem attemptItem_stages (state : SessionState) {item : ItemProgress} (hfresh : item.Fresh)
    (answers : Answers) {state' : SessionState} {item' : ItemProgress} {exc : Option String}
    (h : attemptItem state item answers = (state', item', exc)) :
    (exc = none ∧ StagesSettled item'.stages) ∨
      exc.isSome ∧ ∃ index, StageAt index .running item'.stages := by
  have hscan := advanceStep_stageAt hfresh.stageAt state "Scanning filesystem..."
  unfold attemptItem at h
  generalize advanceStep state item 0 "Scanning filesystem..." = scanned at h hscan
  obtain ⟨state, item⟩ := scanned
  cases hpreview : answers.preview with
  | error text =>
    simp only [hpreview] at h
    obtain ⟨rfl, rfl, rfl⟩ := h
    exact .inr ⟨rfl, 0, hscan⟩
  | ok details =>
    simp only [hpreview, validationIndex_eq] at h
    have hdone := completeStep_stageAt hscan (details.head?.getD "Filesystem scan complete")
    generalize completeStep item 0 _ = item at h hdone
    obtain ⟨current, hnext⟩ := hdone.next
    have hmatch := advanceStep_stageAt hnext state "Matching identity..."
    generalize advanceStep state item _ "Matching identity..." = matched at h hmatch
    obtain ⟨state, item⟩ := matched
    cases hvalidate : answers.validate with
    | error text =>
      simp only [hvalidate] at h
      obtain ⟨rfl, rfl, rfl⟩ := h
      exact .inr ⟨rfl, _, hmatch⟩
    | ok validation =>
      simp only [hvalidate] at h
      split_ifs at h with hvalid
      · obtain ⟨rfl, rfl, rfl⟩ := h
        exact .inl ⟨rfl, blockItem_stages hmatch state validation⟩
      · have hdone := completeStep_stageAt hmatch "Identity matched"
        generalize completeStep item _ "Identity matched" = item at h hdone
        obtain ⟨current, hnext⟩ := hdone.next
        have hexecute := advanceStep_stageAt hnext state (executionLabelForItem item)
        generalize advanceStep state item _ (executionLabelForItem item) = advanced at h hexecute
        obtain ⟨state, item⟩ := advanced
        cases hexecuted : answers.execute with
        | error text =>
          simp only [hexecuted] at h
          obtain ⟨rfl, rfl, rfl⟩ := h
          exact .inr ⟨rfl, _, hexecute⟩
        | ok execution =>
          simp only [hexecuted] at h
          obtain ⟨rfl, rfl, rfl⟩ := h
          exact .inl ⟨rfl, recordExecution_stages hexecute _ execution⟩

/-- Whatever the service answers, the round leaves the stages settled. -/
theorem runItem_stages (state : SessionState) {item : ItemProgress} (hfresh : item.Fresh)
    (answers : Answers) : StagesSettled (runItem state item answers).2.stages := by
  unfold runItem
  generalize hattempt : attemptItem _ _ answers = attempt
  obtain ⟨state', item', exc⟩ := attempt
  have hfresh' : ({ item with status := .running } : ItemProgress).Fresh :=
    ⟨hfresh.nonempty, hfresh.pending⟩
  rcases attemptItem_stages _ hfresh' answers hattempt with ⟨rfl, hsettled⟩ | ⟨hsome, _, hrunning⟩
  · exact hsettled
  · obtain ⟨text, rfl⟩ := Option.isSome_iff_exists.mp hsome
    exact failItem_stages state' hrunning text

/-- What one round does to the counters and to the rest of the item. -/
structure Counted (state : SessionState) (item : ItemProgress) (answers : Answers)
    (state' : SessionState) (item' : ItemProgress) : Prop where
  recommendationId : item'.recommendationId = item.recommendationId
  estimatedRecoveryBytes : item'.estimatedRecoveryBytes = item.estimatedRecoveryBytes
  final : item'.status.Final
  completed : state'.completed = state.completed + if item'.status = .completed then 1 else 0
  failed : state'.failed = state.failed + if item'.status = .completed then 0 else 1
  recoveredSpaceBytes : state'.recoveredSpaceBytes =
    state.recoveredSpaceBytes + if item'.status = .completed then item.estimatedRecoveryBytes else 0
  executions : state'.executions =
    state.executions ++ if answers.reachExecute then [item.recommendationId] else []
  selectedIds : state'.selectedIds = state.selectedIds

theorem runItem_counted (state : SessionState) (item : ItemProgress) (answers : Answers) :
    Counted state item answers (runItem state item answers).1 (runItem state item answers).2 := by
  cases hpreview : answers.preview with
  | error exc =>
    constructor <;>
      simp [runItem, attemptItem, hpreview, advanceStep_eq, failItem, failFirstOpenStep,
        skipRemainingSteps, showItem, ItemStatus.Final, Answers.reachExecute]
  | ok details =>
    cases hvalidate : answers.validate with
    | error exc =>
      constructor <;>
        simp [runItem, attemptItem, hpreview, hvalidate, advanceStep_eq, completeStep, failItem,
          failFirstOpenStep, skipRemainingSteps, showItem, ItemStatus.Final, Answers.reachExecute]
    | ok validation =>
      cases hvalid : validation.valid with
      | false =>
        constructor <;>
          simp [runItem, attemptItem, hpreview, hvalidate, hvalid, advanceStep_eq, completeStep,
            failStep, skipRemainingSteps, blockItem, showItem, ItemStatus.Final,
            Answers.reachExecute]
      | true =>
        have hreach : answers.reachExecute = true := by
          simp [Answers.reachExecute, hpreview, hvalidate, hvalid]
        cases hexecute : answers.execute with
        | error exc =>
          constructor <;>
            simp [runItem, attemptItem, hpreview, hvalidate, hvalid, hexecute, hreach,
              advanceStep_eq, completeStep, failItem, failFirstOpenStep, skipRemainingSteps,
              SessionState.called, showItem, ItemStatus.Final]
        | ok execution =>
          cases hexecuted : execution.executed <;> constructor <;>
            simp [runItem, attemptItem, hpreview, hvalidate, hvalid, hexecute, hexecuted, hreach,
              advanceStep_eq, completeStep, failStep, skipRemainingSteps, completeRemainingSteps,
              recordExecution, SessionState.called, showItem, ItemStatus.Final]

/-! ## The loop -/

/-- The sum of the estimated bytes of the completed items. -/
def completedBytes (items : List ItemProgress) : Int :=
  ((items.filter (·.status = .completed)).map (·.estimatedRecoveryBytes)).sum

/-- The ids that a session over `items` executes, from its `k`-th item on. -/
def executedIds (answers : Nat → Answers) (k : Nat) (ids : List String) : List String :=
  ((ids.zipIdx k).filter fun p => (answers p.2).reachExecute).map Prod.fst

/-- What the loop does with its items and with the counters. -/
structure Ran (answers : Nat → Answers) (k : Nat) (state : SessionState) (items : List ItemProgress)
    (state' : SessionState) (items' : List ItemProgress) : Prop where
  length : items'.length = items.length
  settled : ∀ item ∈ items', item.status.Final ∧ StagesSettled item.stages
  completed : state'.completed = state.completed + items'.countP (·.status = .completed)
  accounted : state'.completed + state'.failed = state.completed + state.failed + items.length
  recoveredSpaceBytes :
    state'.recoveredSpaceBytes = state.recoveredSpaceBytes + completedBytes items'
  executions : state'.executions =
    state.executions ++ executedIds answers k (items.map (·.recommendationId))
  selectedIds : state'.selectedIds = state.selectedIds

theorem runItems_ran (answers : Nat → Answers) (k : Nat) (state : SessionState)
    {items : List ItemProgress} (hfresh : ∀ item ∈ items, item.Fresh) :
    Ran answers k state items (runItems answers k state items).1
      (runItems answers k state items).2 := by
  induction items generalizing k state with
  | nil => constructor <;> simp [runItems, completedBytes, executedIds]
  | cons item items ih =>
    have hround := runItem_counted state item (answers k)
    have hstages := runItem_stages state (hfresh item (by simp)) (answers k)
    unfold runItems
    generalize runItem state item (answers k) = round at hround hstages
    obtain ⟨state', item'⟩ := round
    have hrest := ih (k + 1) state' fun item hmem => hfresh item (by simp [hmem])
    simp only
    generalize runItems answers (k + 1) state' items = rest at hrest
    obtain ⟨state'', items'⟩ := rest
    constructor
    · simp [hrest.length]
    · intro item hmem
      rcases List.mem_cons.mp hmem with rfl | hmem
      · exact ⟨hround.final, hstages⟩
      · exact hrest.settled item hmem
    · rw [hrest.completed, hround.completed, List.countP_cons]
      simp only [decide_eq_true_eq]
      omega
    · rw [hrest.accounted, hround.completed, hround.failed, List.length_cons]
      split_ifs <;> omega
    · rw [hrest.recoveredSpaceBytes, hround.recoveredSpaceBytes]
      rw [← hround.estimatedRecoveryBytes]
      by_cases hstatus : item'.status = .completed <;> simp [completedBytes, hstatus, add_assoc]
    · rw [hrest.executions, hround.executions]
      cases hreach : (answers k).reachExecute <;>
        simp [executedIds, hreach]
    · rw [hrest.selectedIds, hround.selectedIds]

/-! ## Sessions -/

/-- Every pipeline starts with the filesystem. -/
theorem filesystem_mem_pipelineKeys (lower : String → String) (row : OperationsRecommendation) :
    .filesystem ∈ pipelineKeysForRecommendation lower row := by
  unfold pipelineKeysForRecommendation pipelineSteps
  simp only [List.cons_append, List.nil_append, List.foldl_cons]
  refine Loops.foldl_invariant (P := fun deduped => PipelineKey.filesystem ∈ deduped) ?_ (by simp)
  intro step _ deduped hmem
  split_ifs
  · exact hmem
  · exact List.mem_append_left _ hmem

theorem itemOf_fresh (lower : String → String) (row : OperationsRecommendation) :
    (itemOf lower row).Fresh where
  nonempty := by
    have hmem := filesystem_mem_pipelineKeys lower row
    simp only [itemOf, stageRows, ne_eq, List.map_eq_nil_iff]
    exact List.ne_nil_of_mem hmem
  pending := by
    intro stage hmem
    obtain ⟨key, -, rfl⟩ := List.mem_map.mp hmem
    rfl

theorem id_of_byId {recommendations : List OperationsRecommendation} {id : String}
    {row : OperationsRecommendation} (h : (byId recommendations).get? id = some row) :
    row.id = id := by
  obtain ⟨_, -, hkey, rfl⟩ := Dict.of_get?_build h
  exact Option.some.inj hkey

theorem byId_isSome_iff {recommendations : List OperationsRecommendation} {id : String} :
    ((byId recommendations).get? id).isSome ↔ ∃ row ∈ recommendations, row.id = id := by
  simp [byId, Dict.get?_build]

/-- The selected rows have the selected ids, without the unknown ones. -/
theorem selected_ids (recommendations : List OperationsRecommendation) (ids : List String) :
    (selected recommendations ids).map (·.id) =
      ids.filter fun id => ((byId recommendations).get? id).isSome := by
  induction ids with
  | nil => rfl
  | cons id ids ih =>
    unfold selected at ih ⊢
    cases hrow : (byId recommendations).get? id with
    | none => simpa [hrow] using ih
    | some row => simpa [hrow, id_of_byId hrow] using ih

/-- What a session that has finished is to account for: `started` is the history row of its start
and `history` the one of its end. -/
structure Accounted (started : SessionHistory) (state : SessionState)
    (history : Option SessionHistory) : Prop where
  executedOnce : ∀ id, state.executions.count id ≤ 1
  final : ∀ item ∈ state.items, item.status.Final
  stages : ∀ item ∈ state.items, StagesSettled item.stages
  counters : state.completed + state.failed = state.items.length
  selectedCount : started.selectedCount = state.completed + state.failed ∧
    ∀ row ∈ history, row.selectedCount = state.completed + state.failed
  recoveredBytes : state.recoveredSpaceBytes = completedBytes state.items ∧
    ∀ row ∈ history, row.recoveryBytes = completedBytes state.items
  status : (state.status = .completed ↔ state.failed = 0) ∧
    (state.status = .failed ↔ state.failed ≠ 0 ∧ state.completed = 0) ∧
    (state.status = .partly ↔ state.failed ≠ 0 ∧ state.completed ≠ 0)

/-- Every selected id is known, and no id was selected twice with both selections executed. -/
def SelectedOnce (recommendations : List OperationsRecommendation) (ids : List String)
    (answers : Nat → Answers) : Prop :=
  (∀ id ∈ ids, ∃ row ∈ recommendations, row.id = id) ∧
    ∀ i j (hi : i < ids.length) (hj : j < ids.length), i < j → ids[i] = ids[j] →
      ¬((answers i).reachExecute ∧ (answers j).reachExecute)

theorem executedIds_nodup_iff (answers : Nat → Answers) (ids : List String) :
    (executedIds answers 0 ids).Nodup ↔
      ∀ i j (hi : i < ids.length) (hj : j < ids.length), i < j → ids[i] = ids[j] →
        ¬((answers i).reachExecute ∧ (answers j).reachExecute) := by
  rw [executedIds, List.Nodup, List.pairwise_map, List.pairwise_filter, List.pairwise_iff_getElem]
  simp only [List.length_zipIdx, List.getElem_zipIdx, Nat.zero_add]
  constructor
  · intro h i j hi hj hlt heq ⟨hreach, hreach'⟩
    exact h i j hi hj hlt hreach hreach' heq
  · intro h i j hi hj hlt hreach hreach' heq
    exact h i j hi hj hlt heq ⟨hreach, hreach'⟩

/-- A session keeps its accounts exactly where every selected id is known and none was executed
twice. -/
theorem runSession_accounted_iff (lower : String → String) (historyId : Nat)
    (createdByUserId : Option Nat) (recommendations : List OperationsRecommendation)
    (ids : List String) (answers : Nat → Answers) (history : Option SessionHistory)
    {started : SessionHistory} {state : SessionState}
    (hstart : startSession lower historyId createdByUserId recommendations ids =
      .ok (started, state)) :
    Accounted started (runSession answers createdByUserId state history).1
        (runSession answers createdByUserId state history).2 ↔
      SelectedOnce recommendations ids answers := by
  unfold startSession at hstart
  simp only at hstart
  split_ifs at hstart with hrows
  obtain ⟨rfl, rfl⟩ := Prod.mk.inj (Except.ok.inj hstart)
  have hfresh : ∀ item ∈ (selected recommendations ids).map (itemOf lower), item.Fresh := by
    simpa using fun row _ => itemOf_fresh lower row
  have hran := runItems_ran answers 0
    { historyId := historyId, selectedIds := ids, status := .running
      items := (selected recommendations ids).map (itemOf lower) } hfresh
  unfold runSession
  simp only
  generalize runItems answers 0 _ _ = finished at hran
  obtain ⟨state, items⟩ := finished
  have hids : ((selected recommendations ids).map (itemOf lower)).map (·.recommendationId) =
      ids.filter fun id => ((byId recommendations).get? id).isSome := by
    rw [← selected_ids, List.map_map]
    rfl
  have hlength : items.length =
      (ids.filter fun id => ((byId recommendations).get? id).isSome).length := by
    rw [hran.length, ← hids, List.map_map, List.length_map, List.length_map]
  have hexecutions : state.executions = executedIds answers 0
      (ids.filter fun id => ((byId recommendations).get? id).isSome) := by
    rw [← hids]
    exact hran.executions
  have hcounters : state.completed + state.failed = items.length := by
    have haccounted := hran.accounted
    rw [← hran.length] at haccounted
    simpa using haccounted
  have hbytes : state.recoveredSpaceBytes = completedBytes items := by
    simpa using hran.recoveredSpaceBytes
  have hselected : state.selectedIds = ids := hran.selectedIds
  have hknown : (∀ id ∈ ids, ∃ row ∈ recommendations, row.id = id) ↔ ids.length = items.length := by
    rw [hlength, eq_comm, List.length_filter_eq_length_iff]
    simp only [byId_isSome_iff]
  unfold SelectedOnce
  rw [← executedIds_nodup_iff, hknown]
  constructor
  · intro h
    have hall := h.selectedCount.1.trans h.counters
    refine ⟨hall, ?_⟩
    have hfilter := List.length_filter_eq_length_iff.mp ((hall.trans hlength).symm)
    have honce := List.nodup_iff_count_le_one.mpr h.executedOnce
    simp only [hexecutions] at honce
    rwa [List.filter_eq_self.mpr hfilter] at honce
  · rintro ⟨hall, hnodup⟩
    have hfilter := List.length_filter_eq_length_iff.mp ((hall.trans hlength).symm)
    rw [List.filter_eq_self.mpr hfilter] at hexecutions
    constructor
    · rw [hexecutions]
      exact List.nodup_iff_count_le_one.mp hnodup
    · exact fun item hmem => (hran.settled item hmem).1
    · exact fun item hmem => (hran.settled item hmem).2
    · exact hcounters
    · refine ⟨hall.trans hcounters.symm, ?_⟩
      intro row hrow
      obtain ⟨row, -, rfl⟩ := Option.map_eq_some_iff.mp hrow
      rw [SessionHistory.finish]
      exact (congrArg List.length hselected).trans (hall.trans hcounters.symm)
    · refine ⟨hbytes, ?_⟩
      intro row hrow
      obtain ⟨row, -, rfl⟩ := Option.map_eq_some_iff.mp hrow
      exact hbytes
    · unfold finalStatus
      split_ifs <;> simp_all

/-! ## A session that repeats an id -/

def candidateRow : OperationsRecommendation where
  id := "candidate:7"
  title := "Heat"
  action := "delete_files"
  cardKey := "space_recovery"
  targetType := "reclaim_candidate"
  targetId := some "7"
  estimatedRecoveryBytes := 2000

/-- The service executes whatever it is asked to. -/
def executesAll : Nat → Answers := fun _ =>
  { preview := .ok ["Recommendation: Heat"]
    validate := .ok { valid := true, checks := [true] }
    execute := .ok { executed := true, message := "Operation executed and logged", checks :=
      [true] } }

def candidateSession (ids : List String) : SessionHistory × SessionState :=
  (startHistory 1 none PythonText.asciiLower ids (selected [candidateRow] ids),
    { historyId := 1, selectedIds := ids
      items := (selected [candidateRow] ids).map (itemOf PythonText.asciiLower) })

theorem startSession_candidate {ids : List String} (h : selected [candidateRow] ids ≠ []) :
    startSession PythonText.asciiLower 1 none [candidateRow] ids = .ok (candidateSession ids) :=
  if_neg h

/-- A repeated id is executed twice, and an unknown one is counted as selected. -/
theorem runSession_not_accounted :
    (let ids := ["candidate:7", "candidate:7"]
      let (started, state) := candidateSession ids
      startSession PythonText.asciiLower 1 none [candidateRow] ids = .ok (started, state) ∧
        (runSession executesAll none state (some started)).1.executions =
          ["candidate:7", "candidate:7"] ∧
        ¬Accounted started (runSession executesAll none state (some started)).1
          (runSession executesAll none state (some started)).2) ∧
      (let ids := ["candidate:7", "candidate:8"]
        let (started, state) := candidateSession ids
        startSession PythonText.asciiLower 1 none [candidateRow] ids = .ok (started, state) ∧
          (runSession executesAll none state (some started)).1.completed = 1 ∧
          (runSession executesAll none state (some started)).1.failed = 0 ∧
          started.selectedCount = 2 ∧
          ¬Accounted started (runSession executesAll none state (some started)).1
            (runSession executesAll none state (some started)).2) := by
  refine ⟨⟨startSession_candidate (by decide), by decide +kernel, fun h => ?_⟩,
    startSession_candidate (by decide), by decide +kernel, by decide +kernel, by decide +kernel,
    fun h => ?_⟩
  · exact absurd (h.executedOnce "candidate:7") (by decide +kernel)
  · exact absurd h.selectedCount.1 (by decide +kernel)

/-- A session over one known id. -/
theorem runSession_accounted_single :
    Accounted (candidateSession ["candidate:7"]).1
      (runSession executesAll none (candidateSession ["candidate:7"]).2 none).1
      (runSession executesAll none (candidateSession ["candidate:7"]).2 none).2 := by
  refine (runSession_accounted_iff PythonText.asciiLower 1 none [candidateRow] ["candidate:7"]
    executesAll none (startSession_candidate (by decide))).mpr ⟨by decide +kernel, ?_⟩
  intro i j hi hj hlt
  simp at hi hj
  omega

end MediaMasterr.Mie.OperationsExecution
