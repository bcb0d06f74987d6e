import MediaMasterr.Database.Tables
import MediaMasterr.Foundations.Writes

/-! # Requests of users

What the handlers of delete requests and protection requests share: the tables with
the queued file operations, the errors that they answer, and the statements that
they write. -/

namespace MediaMasterr.Requests

open MediaMasterr.Database MediaMasterr.Foundations

inductive CandidateFileOpOperation where
  | delete
  | move
  deriving DecidableEq, Repr

/-- A job of `queue_candidate_file_op_job`. -/
structure CandidateFileOpJob where
  id : Nat
  operation : CandidateFileOpOperation
  candidateIds : List Nat
  deleteRequestId : Option Nat := none
  deriving DecidableEq, Repr

structure Store where
  tables : Tables
  jobs : List CandidateFileOpJob := []

/-- What a handler answers in place of a response. -/
inductive ApiError where
  | http (status : Nat) (detail : String)
  | multipleResultsFound
  | staleData
  /-- Another exception, which is answered with status 500. -/
  | raised (exception : String)
  deriving DecidableEq, Repr

/-- `result.scalar_one_or_none()`. -/
def scalarOneOrNone {α : Type*} : List α → Except ApiError (Option α)
  | [] => .ok none
  | [row] => .ok (some row)
  | _ => .error .multipleResultsFound

end MediaMasterr.Requests
