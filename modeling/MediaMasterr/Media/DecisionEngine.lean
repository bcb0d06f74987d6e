import MediaMasterr.Database.Tables

/-! # Decision engine

`DecisionEngine.evaluate`: the decision state that is shown for a movie, series,
season or episode. -/

namespace MediaMasterr.Media

open MediaMasterr.Database

structure DecisionSignals where
  mediaType : MediaType
  sizeBytes : Option Nat := none
  viewCount : Nat := 0
  lastViewedAt : Option Nat := none
  isCandidate : Bool := false
  candidateReason : Option String := none
  candidateSpaceBytes : Option Nat := none
  candidateEligibleAt : Option Int := none
  isProtected : Bool := false
  protectedReason : Option String := none
  protectedSource : Option String := none
  protectedRuleName : Option String := none
  hasPendingRequest : Bool := false
  requestReason : Option String := none
  hasPendingDeleteRequest : Bool := false
  deleteRequestReason : Option String := none
  childCandidateCount : Nat := 0
  childCandidateSpaceBytes : Option Nat := none
  deriving DecidableEq, Repr

inductive DecisionState where
  | superseding
  | protectedState
  | seeding
  | waiting
  | incomplete
  | unwatched
  | watching
  | safeToDelete
  | attentionRequired
  deriving DecidableEq, Repr

/-- The label of a state in `_META`. -/
def DecisionState.label : DecisionState → String
  | .superseding => "Superseding"
  | .protectedState => "Protected"
  | .seeding => "Seeding"
  | .waiting => "Waiting"
  | .incomplete => "Incomplete"
  | .unwatched => "Unwatched"
  | .watching => "Watching"
  | .safeToDelete => "Safe to Delete"
  | .attentionRequired => "Attention Required"

/-- The priority of a state in `_META`. -/
def DecisionState.priority : DecisionState → Nat
  | .superseding => 100
  | .protectedState => 90
  | .seeding => 80
  | .waiting => 70
  | .incomplete => 60
  | .unwatched => 50
  | .watching => 40
  | .safeToDelete => 30
  | .attentionRequired => 20

structure DecisionInfo where
  state : DecisionState
  priority : Nat
  displayName : String
  explanation : String
  remainingSeconds : Option Int
  reclaimableSizeBytes : Option Nat
  recommendedAction : String
  deriving DecidableEq, Repr

/-- `text or default`: an empty text counts as none. -/
def textOr (text : Option String) (default : String) : String :=
  match text with
  | none => default
  | some text => if text = "" then default else text

/-- What `evaluate` decides: state, explanation, recommended action and remaining seconds. -/
structure Decision where
  state : DecisionState
  explanation : String
  recommendedAction : String
  remainingSeconds : Option Int := none

section Evaluate

variable (signals : DecisionSignals) (now : Nat)

/-- The branches for media that nothing holds and that is no candidate. -/
def decideIdle : Decision :=
  if 0 < signals.childCandidateCount then
    { state := .safeToDelete
      explanation := toString signals.childCandidateCount ++ " child item(s) are reclaimable."
      recommendedAction :=
        if signals.mediaType = .series then "Review reclaimable seasons or episodes"
        else "Review reclaimable children" }
  else if signals.sizeBytes = none then
    { state := .incomplete
      explanation := "Media size is missing, so reclaimable space cannot be estimated yet."
      recommendedAction := "Refresh media sync" }
  else if signals.viewCount = 0 ∧ signals.lastViewedAt = none then
    { state := .unwatched
      explanation := "This media has not been watched yet."
      recommendedAction := "Keep until watched" }
  else
    match signals.lastViewedAt with
    | some lastViewedAt =>
      if (now : Int) - lastViewedAt ≤ 14 * 86400 then
        { state := .watching
          explanation := "This media was watched recently and is still in an active viewing window."
          recommendedAction := "Wait for viewing activity to settle" }
      else
        { state := .attentionRequired
          explanation := "Watch history exists, but no reclaim candidate has been generated yet."
          recommendedAction := "Review rules or run candidate scan" }
    | none =>
      { state := .attentionRequired
        explanation :=
          "MediaMasterr needs more provider evidence before it can recommend reclamation."
        recommendedAction := "Review providers and refresh media signals" }

/-- The branches for a candidate that nothing holds. -/
def decideCandidate : Decision :=
  let ready : Decision :=
    { state := .safeToDelete
      explanation := textOr signals.candidateReason "All reclaim conditions are satisfied."
      recommendedAction := "Queue deletion" }
  match signals.candidateEligibleAt with
  | none => ready
  | some eligibleAt =>
    if (now : Int) < eligibleAt then
      { state := .waiting
        explanation := textOr signals.candidateReason "Retention window has not expired yet."
        recommendedAction := "Wait until retention expires"
        remainingSeconds := some (eligibleAt - now) }
    else ready

def decideSignals : Decision :=
  if signals.isProtected then
    let label := textOr signals.protectedRuleName
      (textOr signals.protectedReason "Protected by MediaMasterr")
    { state := .protectedState
      explanation := if signals.protectedSource = some "rule" then "Protected by " ++
        label else label
      recommendedAction := "No action required" }
  else if signals.hasPendingDeleteRequest then
    { state := .waiting
      explanation :=
        textOr signals.deleteRequestReason "Deletion request is pending approval or execution."
      recommendedAction := "Wait for deletion workflow to complete" }
  else if signals.hasPendingRequest then
    { state := .waiting
      explanation := textOr signals.requestReason "Protection request is pending review."
      recommendedAction := "Wait for request review" }
  else if signals.isCandidate then decideCandidate signals now
  else decideIdle signals now

/-- `DecisionEngine.evaluate`. -/
def evaluate : DecisionInfo :=
  let decision := decideSignals signals now
  { state := decision.state
    priority := decision.state.priority
    displayName := decision.state.label
    explanation := decision.explanation
    remainingSeconds := decision.remainingSeconds
    reclaimableSizeBytes :=
      (signals.candidateSpaceBytes.or signals.childCandidateSpaceBytes).or signals.sizeBytes
    recommendedAction := decision.recommendedAction }

end Evaluate

variable {signals : DecisionSignals} {now : Nat}

/-- A candidate is shown as safe to delete exactly when nothing holds it and its deadline is over.
-/
theorem evaluate_candidate_iff (hcandidate : signals.isCandidate = true) :
    (evaluate signals now).state = .safeToDelete ↔
      (signals.isProtected = false ∧ signals.hasPendingRequest = false ∧
        signals.hasPendingDeleteRequest = false) ∧
      ∀ eligibleAt, signals.candidateEligibleAt = some eligibleAt → eligibleAt ≤ now := by
  simp only [evaluate, decideSignals, hcandidate, if_true]
  cases signals.isProtected
  · cases signals.hasPendingDeleteRequest
    · cases signals.hasPendingRequest
      · cases heligible : signals.candidateEligibleAt with
        | none => simp [decideCandidate, heligible]
        | some eligibleAt =>
          by_cases hwaiting : (now : Int) < eligibleAt
          · simp [decideCandidate, heligible, hwaiting]
          · simpa [decideCandidate, heligible, hwaiting] using Int.not_lt.mp hwaiting
      · simp
    · simp
  · simp

end MediaMasterr.Media
