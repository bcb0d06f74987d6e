import MediaMasterr.Foundations.Transactions
import MediaMasterr.Requests.Store

/-! # Reviews

The handlers that approve, deny and cancel the requests of users, one statement of
the database at a time. A handler reads the request, checks that it is pending,
and writes its decision in a later transaction. -/

namespace MediaMasterr.Requests

open MediaMasterr.Database MediaMasterr.Foundations MediaMasterr.Foundations.Transactions

/-! ## Decisions -/

/-- `request.status.value`. -/
def statusValue : RequestStatus → String
  | .pending => "pending"
  | .approved => "approved"
  | .denied => "denied"

/-- Who reviews a request, and when. -/
structure Review where
  managerId : Nat
  adminNotes : Option String := none
  now : Nat
  deriving DecidableEq, Repr

/-- The duration of an approved protection that a manager sets. -/
structure Grant where
  approvedDurationDays : Option Int := none
  approvedPermanent : Option Bool := none
  deriving DecidableEq, Repr

/-- A column that a flush writes: one whose value is not that of the loaded row. -/
def setColumn {α : Type*} [DecidableEq α] (loaded new current : α) : α :=
  if new = loaded then current else new

/-- The columns of a review, on the row of a request that was loaded as `loaded`. -/
def reviewDeleteRequest (loaded : DeleteRequest) (status : RequestStatus) (review : Review)
    (row : DeleteRequest) : DeleteRequest :=
  { row with
    status := status
    reviewedByUserId := setColumn loaded.reviewedByUserId
      (some review.managerId) row.reviewedByUserId
    reviewedAt := setColumn loaded.reviewedAt (some review.now) row.reviewedAt
    adminNotes := setColumn loaded.adminNotes review.adminNotes row.adminNotes }

def reviewProtectionRequest (loaded : ProtectionRequest) (status : RequestStatus) (review : Review)
    (row : ProtectionRequest) : ProtectionRequest :=
  { row with
    status := status
    reviewedByUserId := setColumn loaded.reviewedByUserId
      (some review.managerId) row.reviewedByUserId
    reviewedAt := setColumn loaded.reviewedAt (some review.now) row.reviewedAt
    adminNotes := setColumn loaded.adminNotes review.adminNotes row.adminNotes }

/-- The candidate of an approved delete request. -/
def approvedCandidate (request : DeleteRequest) (now id : Nat) : ReclaimCandidate where
  id := id
  mediaType := request.mediaType
  movieId := request.movieId
  movieVersionId := request.movieVersionId
  seriesId := request.seriesId
  seasonId := request.seasonId
  episodeId := request.episodeId
  createdAt := now

/-- The protection of an approved protection request. -/
def approvedProtection (request : ProtectionRequest) (review : Review) (permanent : Bool)
    (expiresAt : Option Nat) (id : Nat) : ProtectedMedia where
  id := id
  mediaType := request.mediaType
  movieId := request.movieId
  movieVersionId := request.movieVersionId
  seriesId := request.seriesId
  seasonId := request.seasonId
  episodeId := request.episodeId
  reason := some ("Exception request approved: " ++ request.reason.getD "None")
  protectedByUserId := some review.managerId
  permanent := permanent
  expiresAt := expiresAt
  createdAt := review.now

/-- The duration of an approved protection. -/
def Grant.expiry (grant : Grant) (request : ProtectionRequest) (now : Nat) :
    Except ApiError (Bool × Option Nat) :=
  if grant.approvedDurationDays.any (· ≤ 0) then
    .error (.http 400 "Approved duration must be a positive number of days")
  else if grant.approvedPermanent = some true then .ok (true, none)
  else match grant.approvedDurationDays with
    | some days => .ok (false, some (now + days.toNat * 86400))
    | none =>
      match request.requestedExpiresAt with
      | some expiresAt => .ok (false, some expiresAt)
      | none => .ok (true, none)

inductive Workflow where
  | deletion
  | protection
  deriving DecidableEq, Repr

/-- What a handler writes. -/
inductive Decision where
  | approveDeletion (request : DeleteRequest) (review : Review)
  | denyDeletion (request : DeleteRequest) (review : Review)
  | cancelDeletion (request : DeleteRequest)
  | approveProtection (request : ProtectionRequest) (review : Review) (permanent : Bool)
    (expiresAt candidateId : Option Nat)
  | denyProtection (request : ProtectionRequest) (review : Review)
  | cancelProtection (request : ProtectionRequest)

namespace Decision

/-- The request of a decision. -/
def key : Decision → Workflow × Nat
  | approveDeletion request _ | denyDeletion request _ | cancelDeletion request =>
    (.deletion, request.id)
  | approveProtection request _ _ _ _ | denyProtection request _ | cancelProtection request =>
    (.protection, request.id)

/-- The flush of a decision. -/
def write (tables : Tables) : Decision → Tables
  | approveDeletion request review =>
    { tables with
      deleteRequests := tables.deleteRequests.map fun row =>
        if row.id = request.id then
          { reviewDeleteRequest request .approved review row with
            executionError := setColumn request.executionError none row.executionError }
        else row
      candidates := tables.candidates ++
        [approvedCandidate request review.now
          (Write.nextId ReclaimCandidate.id tables.candidates)] }
  | denyDeletion request review =>
    { tables with
      deleteRequests := tables.deleteRequests.map fun row =>
        if row.id = request.id then reviewDeleteRequest request .denied review row else row }
  | cancelDeletion request =>
    { tables with deleteRequests := tables.deleteRequests.filter (·.id ≠ request.id) }
  | approveProtection request review permanent expiresAt candidateId =>
    { tables with
      protectionRequests := tables.protectionRequests.map fun row =>
        if row.id = request.id then reviewProtectionRequest request .approved review row else row
      protectedMedia := tables.protectedMedia ++
        [approvedProtection request review permanent expiresAt
        (Write.nextId ProtectedMedia.id tables.protectedMedia)]
      candidates := tables.candidates.filter fun c => ∀ id ∈ candidateId, c.id ≠ id }
  | denyProtection request review =>
    { tables with
      protectionRequests := tables.protectionRequests.map fun row =>
        if row.id = request.id then reviewProtectionRequest request .denied review row else row }
  | cancelProtection request =>
    { tables with protectionRequests := tables.protectionRequests.filter (·.id ≠ request.id) }

/-- The update of the request matches no row, and the flush fails. -/
def IsStale (tables : Tables) : Decision → Prop
  | approveDeletion request _ | denyDeletion request _ => ∀ row ∈ tables.deleteRequests,
    row.id ≠ request.id
  | approveProtection request _ _ _ _ | denyProtection request _ =>
    ∀ row ∈ tables.protectionRequests, row.id ≠ request.id
  | cancelDeletion _ | cancelProtection _ => False

instance (tables : Tables) (d : Decision) : Decidable (d.IsStale tables) := by
  cases d <;> unfold IsStale <;> infer_instance

/-- The key of the row that a decision has made: a candidate or a protection. -/
def madeId (tables : Tables) : Decision → Nat
  | approveDeletion _ _ => Write.nextId ReclaimCandidate.id tables.candidates
  | _ => Write.nextId ProtectedMedia.id tables.protectedMedia

def change (d : Decision) (store : Store) : Store :=
  if d.IsStale store.tables then store else { store with tables := d.write store.tables }

end Decision

/-! ## Calls -/

inductive Action where
  | approve (review : Review) (grant : Grant)
  | deny (review : Review)
  | cancel (userId : Nat)

/-- A call of a handler. -/
structure Call where
  workflow : Workflow
  requestId : Nat
  action : Action

/-- A request as a session has loaded it. -/
inductive Request where
  | deletion (request : DeleteRequest)
  | protection (request : ProtectionRequest)

namespace Request

def status : Request → RequestStatus
  | deletion request => request.status
  | protection request => request.status

def key : Request → Workflow × Nat
  | deletion request => (.deletion, request.id)
  | protection request => (.protection, request.id)

end Request

/-- The one who cancels a request has made it. -/
def Call.isFor (call : Call) (requestedByUserId : Nat) : Bool :=
  match call.action with
  | .cancel userId => requestedByUserId = userId
  | _ => true

/-- The query of a handler for its request. -/
def Call.find (call : Call) (tables : Tables) : Option Request :=
  match call.workflow with
  | .deletion =>
    (tables.deleteRequests.find? fun r =>
      r.id = call.requestId && call.isFor r.requestedByUserId).map
      .deletion
  | .protection =>
    (tables.protectionRequests.find? fun r =>
      r.id = call.requestId && call.isFor r.requestedByUserId).map
      .protection

/-- The request of a call, which has to be pending. -/
def Call.load (call : Call) (tables : Tables) : Except ApiError Request :=
  match call.find tables with
  | none => .error (.http 404 "Request not found")
  | some request =>
    if request.status = .pending then .ok request
    else match call.action with
      | .cancel _ => .error (.http 400 "Can only cancel pending requests")
      | _ => .error (.http 400 ("Request has already been " ++ statusValue request.status))

/-- The media of a request that is reviewed have to be there. -/
def checkMedia (tables : Tables) (mediaType : MediaType) (movieId seriesId : Option Nat) :
    Except ApiError Unit :=
  if mediaType = .movie then
    if (movieId.bind tables.findMovie).isSome then .ok () else .error (.http 404 "Movie not found")
  else
    if (seriesId.bind tables.findSeries).isSome then .ok () else .error
      (.http 404 "Series not found")

/-- What a handler decides about its request, once it has looked for the media. -/
def Call.decide (call : Call) (tables : Tables) : Request → Except ApiError Decision
  | .deletion request =>
    match call.action with
    | .cancel _ => .ok (.cancelDeletion request)
    | .deny review => do
      checkMedia tables request.mediaType request.movieId request.seriesId
      return .denyDeletion request review
    | .approve review _ => do
      checkMedia tables request.mediaType request.movieId request.seriesId
      return .approveDeletion request review
  | .protection request =>
    match call.action with
    | .cancel _ => .ok (.cancelProtection request)
    | .deny review => do
      checkMedia tables request.mediaType request.movieId request.seriesId
      return .denyProtection request review
    | .approve review grant => do
      checkMedia tables request.mediaType request.movieId request.seriesId
      let (permanent, expiresAt) ← grant.expiry request review.now
      return .approveProtection request review permanent expiresAt none

/-- The candidate of the request, which an approved protection removes. -/
def Decision.withCandidate (tables : Tables) : Decision → Decision
  | .approveProtection request review permanent expiresAt _ =>
    .approveProtection request review permanent expiresAt
      (request.candidateId.filter fun id => tables.candidates.any (·.id = id))
  | d => d

/-- Where a session of a handler stands: its next statement. -/
inductive Point where
  | idle
  | readRequest (call : Call)
  | readMedia (call : Call) (request : Request)
  | readCandidate (d : Decision)
  | flush (d : Decision)
  | stale
  | commit (d : Decision) (madeId : Nat)
  -- `approve_delete_request`, behind its first commit
  | refreshCandidate (requestId candidateId : Nat)
  | insertJob (requestId candidateId : Nat)
  | commitJob (requestId candidateId : Nat)
  | refreshRequest (key : Workflow × Nat)
  | done (answer : Except ApiError Unit)

/-- The point behind the commit of a decision. -/
def Decision.after (madeId : Nat) : Decision → Point
  | .approveDeletion request _ => .refreshCandidate request.id madeId
  | .cancelDeletion _ | .cancelProtection _ => .done (.ok ())
  | d => .refreshRequest d.key

/-- `queue_candidate_file_op_job` of an approved delete request. -/
def addDeleteJob (requestId candidateId : Nat) (store : Store) : Store :=
  { store with
    jobs := store.jobs ++
      [{ id := Write.nextId CandidateFileOpJob.id store.jobs
         operation := .delete
         candidateIds := [candidateId]
         deleteRequestId := some requestId }] }

/-- The statuses of the rows of a request: one, unless the request is gone. -/
def statuses (key : Workflow × Nat) (tables : Tables) : List RequestStatus :=
  match key.1 with
  | .deletion => (tables.deleteRequests.filter (·.id = key.2)).map DeleteRequest.status
  | .protection => (tables.protectionRequests.filter (·.id = key.2)).map ProtectionRequest.status

def statement : Point → Option (Statement Store Point)
  | .idle => none
  | .readRequest call =>
    some (.select fun store =>
      match call.load store.tables with
      | .error e => .done (.error e)
      | .ok request => .readMedia call request)
  | .readMedia call request =>
    some (.select fun store =>
      match call.decide store.tables request with
      | .error e => .done (.error e)
      | .ok d => .readCandidate d)
  | .readCandidate d => some (.select fun store => .flush (d.withCandidate store.tables))
  | .flush d =>
    some (.modify d.change fun store =>
      if d.IsStale store.tables then .stale else .commit d (d.madeId store.tables))
  | .stale => some (.rollback (.done (.error .staleData)))
  | .commit d madeId => some (.commit (d.after madeId))
  | .refreshCandidate requestId candidateId =>
    some (.select fun store =>
      if store.tables.candidates.any (·.id = candidateId) then .insertJob requestId candidateId
      else .done (.error (.raised "InvalidRequestError")))
  | .insertJob requestId candidateId =>
    some (.modify (addDeleteJob requestId candidateId) fun _ => .commitJob requestId candidateId)
  | .commitJob requestId _ => some (.commit (.refreshRequest (.deletion, requestId)))
  | .refreshRequest key =>
    some (.select fun store =>
      if statuses key store.tables = [] then .done (.error (.raised "InvalidRequestError"))
      else .done (.ok ()))
  | .done _ => none

inductive Signal where
  | call (call : Call)
  /-- Another exception ends the call. -/
  | raise (exception : String)

def leave : Point → Signal → Option Point
  | .idle, .call call => some (.readRequest call)
  | .idle, .raise _ => none
  | .done _, _ => none
  | _, .raise exception => some (.done (.error (.raised exception)))
  | _, .call _ => none

def reviewProgram : Program Store Signal Point where
  statement := statement
  leave := leave

/-- What the transaction of a call has written at a point. -/
def written : Point → Option (Store → Store)
  | .stale => some fun store => store
  | .commit d _ => some d.change
  | .commitJob requestId candidateId => some (addDeleteJob requestId candidateId)
  | _ => none

/-- Every point knows what its transaction has written. -/
theorem accounts : Accounts reviewProgram written where
  select {p next} h store := by
    cases p <;> simp only [reviewProgram, statement, Option.some.injEq, reduceCtorEq,
      Statement.select.injEq] at h
    case readRequest call =>
      subst h
      dsimp only
      cases call.load store.tables <;> rfl
    case readMedia call request =>
      subst h
      dsimp only
      cases call.decide store.tables request <;> rfl
    case refreshCandidate requestId candidateId =>
      subst h
      dsimp only
      split_ifs <;> rfl
    case refreshRequest key =>
      subst h
      dsimp only
      split_ifs <;> rfl
    all_goals subst h; rfl
  modify {p change next} h store := by
    cases p <;> simp only [reviewProgram, statement, Option.some.injEq, reduceCtorEq,
      Statement.modify.injEq] at h
    case flush d =>
      obtain ⟨rfl, rfl⟩ := h
      change written (if d.IsStale store.tables then _ else _) ≠ none ∧
        seen written (if d.IsStale store.tables then _ else _) store = d.change store
      rw [Decision.change]
      split_ifs with hstale
      · exact ⟨Option.some_ne_none _, rfl⟩
      · exact ⟨Option.some_ne_none _, if_neg hstale⟩
    case insertJob requestId candidateId =>
      obtain ⟨rfl, rfl⟩ := h
      exact ⟨Option.some_ne_none _, rfl⟩
  commit {p next} h := by
    cases p <;> simp only [reviewProgram, statement, Option.some.injEq, reduceCtorEq,
      Statement.commit.injEq] at h
    case commit d madeId =>
      subst h
      cases d <;> rfl
    all_goals subst h; rfl
  rollback {p next} h := by
    cases p <;> simp only [reviewProgram, statement, Option.some.injEq, reduceCtorEq,
      Statement.rollback.injEq] at h
    all_goals subst h; rfl
  leave {p signal next} h := by
    change leave p signal = some next at h
    revert h
    fun_cases leave p signal <;> intro h
    all_goals cases h
    all_goals rfl

end MediaMasterr.Requests
