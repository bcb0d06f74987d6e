import MediaMasterr.Foundations.Runs
import MediaMasterr.Jobs.Queue

/-! # Processes with workers

The queue under processes that run one after the other on one database. A process
resets the jobs that the one before has left running, and starts its workers
then; other calls come in at any time. -/

namespace MediaMasterr.Jobs

open MediaMasterr.Foundations MediaMasterr.Foundations.Transactions

variable {κ ν : Type*}

inductive Phase (κ : Type*) where
  | starting
  /-- `reset_stale_jobs` runs in a session of the start-up. -/
  | resetting (t : κ)
  /-- The workers run. -/
  | working
  deriving DecidableEq

structure Process (κ ν : Type*) where
  config : Config κ (List (BackgroundJob ν)) (Point ν)
  phase : Phase κ
  /-- The ids of the jobs that `claim_next_background_job` has returned. -/
  returned : List Nat

inductive Event (κ ν : Type*) where
  | execute (t : κ)
  | signal (t : κ) (signal : Signal ν)
  | restart

/-- `reset_stale_jobs` comes first, and the workers after it. -/
def Phase.Permits [DecidableEq κ] (phase : Phase κ) : Signal ν → Prop
  | .resetStale _ => phase = .starting
  | .claimNext _ _ _ => phase = .working
  | _ => True

instance [DecidableEq κ] (phase : Phase κ) (signal : Signal ν) :
    Decidable (phase.Permits signal) := by
  cases signal <;> unfold Phase.Permits <;> infer_instance

/-- The id of the job that the statement at a point returns to its worker. -/
def Point.returned? (p : Point ν) (jobs : List (BackgroundJob ν)) : Option Nat :=
  match p with
  | .readClaimed id => (findJob id jobs).map BackgroundJob.id
  | _ => none

/-- The phase after the statement at a point. -/
def Phase.after (phase : Phase κ) (p : Point ν) : Phase κ :=
  match p with
  | .commitReset _ => .working
  | _ => phase

/-- The phase after a signal. -/
def Phase.next (phase : Phase κ) (t : κ) : Signal ν → Phase κ
  | .resetStale _ => .resetting t
  | _ => phase

namespace Process

variable [DecidableEq κ]

def jobs (p : Process κ ν) : List (BackgroundJob ν) := p.config.database.committed

/-- The empty database, before the first process. -/
def start : Process κ ν where
  config := { database := { committed := [] }, points := fun _ => .idle }
  phase := .starting
  returned := []

def step (p : Process κ ν) : Event κ ν → Option (Process κ ν)
  | .execute t =>
    (p.config.execute queueProgram t).map fun config =>
      { config := config
        phase := p.phase.after (p.config.points t)
        returned := p.returned ++
          ((p.config.points t).returned? (p.config.database.view t)).toList }
  | .signal t signal =>
    if p.phase.Permits signal then
      (p.config.leave queueProgram t signal).map fun config =>
        { p with config := config, phase := p.phase.next t signal }
    else none
  | .restart => some { p with config := p.config.restart .idle, phase := .starting }

abbrev run : Process κ ν → List (Event κ ν) → Option (Process κ ν) := Runs.run step

end Process

end MediaMasterr.Jobs
