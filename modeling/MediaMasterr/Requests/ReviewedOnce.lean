import MediaMasterr.Foundations.Runs
import MediaMasterr.Requests.Reviews

/-! # Requests are reviewed once

The status of a request is checked in one statement and written in another, so two
calls that both read the request before one of them commits are both effective. When
no call reads a request while another call is deciding on it, a request is
decided once. -/

namespace MediaMasterr.Requests

open MediaMasterr.Database MediaMasterr.Foundations MediaMasterr.Foundations.Transactions

variable {κ : Type*} [DecidableEq κ]

/-! ## Outcomes -/

inductive Outcome where
  /-- The key is that of the candidate or the protection which the approval has made. -/
  | approved (madeId : Nat)
  | denied
  | cancelled
  deriving DecidableEq

/-- What an outcome does to the status of its request. -/
def Outcome.apply : Outcome → List RequestStatus → List RequestStatus
  | .approved _, rows => rows.map fun _ => .approved
  | .denied, rows => rows.map fun _ => .denied
  | .cancelled, _ => []

def Decision.outcome (madeId : Nat) : Decision → Outcome
  | .approveDeletion _ _ | .approveProtection _ _ _ _ _ => .approved madeId
  | .denyDeletion _ _ | .denyProtection _ _ => .denied
  | .cancelDeletion _ | .cancelProtection _ => .cancelled

/-- The outcome of the commit at a point. A call that cancels a missing request has none. -/
def Point.outcome? (p : Point) (tables : Tables) : Option ((Workflow × Nat) × Outcome) :=
  match p with
  | .commit d madeId =>
    if d.outcome madeId = .cancelled ∧ statuses d.key tables = [] then none
    else some (d.key, d.outcome madeId)
  | _ => none

/-- The delete request whose job the commit at a point queues. -/
def Point.queued? : Point → Option Nat
  | .commitJob requestId _ => some requestId
  | _ => none

/-! ## Runs of calls -/

/-- Concurrent calls, with the outcomes and the delete requests whose jobs they have queued. -/
structure Reviews (κ : Type*) where
  config : Config κ Store Point
  outcomes : List ((Workflow × Nat) × Outcome)
  queued : List Nat

inductive Event (κ : Type*) where
  | execute (t : κ)
  | signal (t : κ) (signal : Signal)

namespace Reviews

def start (store : Store) : Reviews κ where
  config := { database := { committed := store }, points := fun _ => .idle }
  outcomes := []
  queued := []

def store (p : Reviews κ) : Store := p.config.database.committed

def step (p : Reviews κ) : Event κ → Option (Reviews κ)
  | .execute t =>
    (p.config.execute reviewProgram t).map fun config =>
      { config := config
        outcomes := p.outcomes ++ ((p.config.points t).outcome? p.store.tables).toList
        queued := p.queued ++ (p.config.points t).queued?.toList }
  | .signal t signal =>
    (p.config.leave reviewProgram t signal).map fun config => { p with config := config }

abbrev run : Reviews κ → List (Event κ) → Option (Reviews κ) := Runs.run step

end Reviews

/-- The outcomes of one request. -/
def outcomesOf (key : Workflow × Nat) (outcomes : List ((Workflow × Nat) × Outcome)) : List Outcome :=
  (outcomes.filter (·.1 = key)).map Prod.snd

/-- The request that a call has read and not yet decided. -/
def Point.deciding? : Point → Option (Workflow × Nat)
  | .readMedia _ request => some request.key
  | .readCandidate d | .flush d | .commit d _ => some d.key
  | _ => none

/-- The approved delete request whose job a call is about to queue. -/
def Point.queueing? : Point → Option Nat
  | .refreshCandidate requestId _ | .insertJob requestId _ | .commitJob requestId _ => some requestId
  | _ => none

/-- A call does not find its request pending while another call decides on the request. -/
def Reviews.KeepsApart (p : Reviews κ) : Event κ → Prop
  | .execute t => ∀ call request, p.config.points t = .readRequest call →
    call.load (p.config.database.view t).tables = .ok request →
      ∀ t' ≠ t, request.key ∉ (p.config.points t').deciding?
  | .signal _ _ => True

abbrev Reviews.RunsApart : Reviews κ → List (Event κ) → Prop := Runs.Meets Reviews.step Reviews.KeepsApart

/-! ## Statuses -/

/-- An update by primary key sets the status of its row. -/
theorem status_update {α : Type*} (rowId : α → Nat) (status : α → RequestStatus) {f : α → α}
    {new : RequestStatus} (hid : ∀ row, rowId (f row) = rowId row) (hstatus : ∀ row, status (f row) = new)
    (rows : List α) (i k : Nat) :
    ((rows.map fun row => if rowId row = i then f row else row).filter (rowId · = k)).map status =
      if i = k then ((rows.filter (rowId · = k)).map status).map fun _ => new
      else (rows.filter (rowId · = k)).map status := by
  induction rows with
  | nil => split_ifs <;> rfl
  | cons row rows ih =>
    have hkey : rowId (if rowId row = i then f row else row) = rowId row := by
      split_ifs
      · exact hid row
      · rfl
    rw [List.map_cons, List.filter_cons, hkey, List.filter_cons]
    by_cases hk : rowId row = k
    · by_cases hi : i = k
      · simpa [hk, hi, hstatus] using ih
      · simpa [hk, hi, Ne.symm hi] using ih
    · simpa [hk] using ih

/-- A deletion by primary key deletes the row of its key alone. -/
theorem filter_filter_ne {α : Type*} {rowId : α → Nat} (rows : List α) (i k : Nat) :
    (rows.filter (rowId · ≠ i)).filter (rowId · = k) =
      if i = k then [] else rows.filter (rowId · = k) := by
  rw [List.filter_filter]
  split_ifs with hk
  · subst hk
    simp
  · refine List.filter_congr fun row _ => ?_
    by_cases hrow : rowId row = k
    · simp [hrow, Ne.symm hk]
    · simp [hrow]

theorem statuses_write (d : Decision) (madeId : Nat) (key : Workflow × Nat) (tables : Tables) :
    statuses key (d.write tables) =
      if d.key = key then (d.outcome madeId).apply (statuses key tables) else statuses key tables := by
  obtain ⟨workflow, k⟩ := key
  cases d <;> cases workflow <;> simp only [statuses, Decision.write, Decision.key, Prod.mk.injEq,
    reduceCtorEq, false_and, if_false, true_and, Decision.outcome, Outcome.apply]
  case approveDeletion.deletion request review =>
    refine status_update DeleteRequest.id DeleteRequest.status (fun row => ?_) (fun row => ?_) _ _ _ <;> rfl
  case denyDeletion.deletion request review =>
    refine status_update DeleteRequest.id DeleteRequest.status (fun row => ?_) (fun row => ?_) _ _ _ <;> rfl
  case cancelDeletion.deletion request =>
    rw [filter_filter_ne]
    split_ifs <;> rfl
  case approveProtection.protection request review permanent expiresAt candidateId =>
    refine status_update ProtectionRequest.id ProtectionRequest.status (fun row => ?_) (fun row => ?_) _ _ _ <;> rfl
  case denyProtection.protection request review =>
    refine status_update ProtectionRequest.id ProtectionRequest.status (fun row => ?_) (fun row => ?_) _ _ _ <;> rfl
  case cancelProtection.protection request =>
    rw [filter_filter_ne]
    split_ifs <;> rfl

theorem statuses_of_isStale {d : Decision} {tables : Tables} (h : d.IsStale tables) :
    statuses d.key tables = [] := by
  cases d <;> simp only [statuses, Decision.key, List.map_eq_nil_iff, List.filter_eq_nil_iff]
  all_goals first | exact False.elim h | exact fun row hrow hid => h row hrow (of_decide_eq_true hid)

/-- A decision touches the status of its own request alone. -/
theorem statuses_change (d : Decision) (madeId : Nat) (key : Workflow × Nat) (store : Store) :
    statuses key (d.change store).tables =
      if d.key = key then (d.outcome madeId).apply (statuses key store.tables)
      else statuses key store.tables := by
  unfold Decision.change
  split_ifs with hstale hkey hkey
  · -- the update matches no row, so that there is no status to change
    subst hkey
    rw [statuses_of_isStale hstale]
    cases d <;> rfl
  · rfl
  · rw [statuses_write d madeId, if_pos hkey]
  · rw [statuses_write d madeId, if_neg hkey]

/-! ## What the calls have done -/

/-- What the points of the calls say about the requests: `initial` is the store before
all of them. -/
structure Orderly (initial store : Store) (points : κ → Point)
    (outcomes : List ((Workflow × Nat) × Outcome)) (queued : List Nat) : Prop where
  rows : ∀ key, statuses key store.tables =
    (outcomesOf key outcomes).foldl (fun rows o => o.apply rows) (statuses key initial.tables)
  once : ∀ key, (outcomesOf key outcomes).length ≤ 1
  deciding : ∀ t, ∀ key ∈ (points t).deciding?, outcomesOf key outcomes = []
  alone : ∀ t t', ∀ key ∈ (points t).deciding?, key ∈ (points t').deciding? → t = t'
  queueing : ∀ t, ∀ id ∈ (points t).queueing?,
    id ∉ queued ∧ ∃ madeId, outcomesOf (.deletion, id) outcomes = [.approved madeId]
  aloneQueueing : ∀ t t', ∀ id ∈ (points t).queueing?, id ∈ (points t').queueing? → t = t'
  approved : ∀ id ∈ queued, ∃ madeId, outcomesOf (.deletion, id) outcomes = [.approved madeId]
  nodup : queued.Nodup
  jobs : store.jobs.map CandidateFileOpJob.deleteRequestId =
    initial.jobs.map CandidateFileOpJob.deleteRequestId ++ queued.map some

namespace Orderly

variable {initial store : Store} {points : κ → Point} {outcomes : List ((Workflow × Nat) × Outcome)}
  {queued : List Nat} {t : κ} {p' : Point}

/-- Two sessions with one key are one session, when a session that moves takes no key of another. -/
theorem eq_of_update {α : Type*} {f : Point → Option α}
    (halone : ∀ t t', ∀ a ∈ f (points t), a ∈ f (points t') → t = t')
    (hnew : ∀ a ∈ f p', ∀ t' ≠ t, a ∉ f (points t')) {t₁ t₂ : κ} {a : α}
    (h₁ : a ∈ f (Function.update points t p' t₁)) (h₂ : a ∈ f (Function.update points t p' t₂)) :
    t₁ = t₂ := by
  by_cases ht₁ : t₁ = t
  · by_cases ht₂ : t₂ = t
    · exact ht₁.trans ht₂.symm
    · subst ht₁
      rw [Function.update_self] at h₁
      rw [Function.update_of_ne ht₂] at h₂
      exact absurd h₂ (hnew a h₁ t₂ ht₂)
  · rw [Function.update_of_ne ht₁] at h₁
    by_cases ht₂ : t₂ = t
    · subst ht₂
      rw [Function.update_self] at h₂
      exact absurd h₁ (hnew a h₂ t₁ ht₁)
    · rw [Function.update_of_ne ht₂] at h₂
      exact halone t₁ t₂ a h₁ h₂

/-- A call moves on, and the requests stay. -/
theorem move (h : Orderly initial store points outcomes queued)
    (hdeciding : ∀ key ∈ p'.deciding?, outcomesOf key outcomes = [] ∧
      ∀ t' ≠ t, key ∉ (points t').deciding?)
    (hqueueing : ∀ id ∈ p'.queueing?, id ∈ (points t).queueing?) :
    Orderly initial store (Function.update points t p') outcomes queued :=
  { h with
    deciding := fun t' key hkey => by
      by_cases ht : t' = t
      · subst ht
        exact (hdeciding key (by simpa using hkey)).1
      · rw [Function.update_of_ne ht] at hkey
        exact h.deciding t' key hkey
    alone := fun _ _ key h₁ h₂ => eq_of_update h.alone (fun key hkey => (hdeciding key hkey).2) h₁ h₂
    queueing := fun t' id hid => by
      by_cases ht : t' = t
      · subst ht
        exact h.queueing t' id (hqueueing id (by simpa using hid))
      · rw [Function.update_of_ne ht] at hid
        exact h.queueing t' id hid
    aloneQueueing := fun _ _ id h₁ h₂ => eq_of_update h.aloneQueueing (fun id hid t' ht hid' =>
      ht (h.aloneQueueing t' t id hid' (hqueueing id hid))) h₁ h₂ }

/-- A call goes on with what it does. -/
theorem move_on (h : Orderly initial store points outcomes queued)
    (hdeciding : ∀ key ∈ p'.deciding?, key ∈ (points t).deciding?)
    (hqueueing : ∀ id ∈ p'.queueing?, id ∈ (points t).queueing?) :
    Orderly initial store (Function.update points t p') outcomes queued :=
  h.move (fun key hkey => ⟨h.deciding t key (hdeciding key hkey), fun t' ht hkey' =>
    ht (h.alone t' t key hkey' (hdeciding key hkey))⟩) hqueueing

omit [DecidableEq κ] in
/-- A pending request has no outcome. -/
theorem outcomesOf_of_pending (h : Orderly initial store points outcomes queued) {key : Workflow × Nat}
    (hpending : .pending ∈ statuses key store.tables) : outcomesOf key outcomes = [] := by
  cases houtcomes : outcomesOf key outcomes with
  | nil => rfl
  | cons o rest =>
    have hlength := h.once key
    rw [houtcomes, List.length_cons] at hlength
    obtain rfl : rest = [] := List.eq_nil_of_length_eq_zero (by omega)
    rw [h.rows key, houtcomes, List.foldl_cons, List.foldl_nil] at hpending
    cases o <;> simp [Outcome.apply] at hpending

end Orderly

/-! ## Reads -/

theorem find_spec {call : Call} {tables : Tables} {request : Request} (h : call.find tables = some request) :
    request.key = (call.workflow, call.requestId) ∧ request.status ∈ statuses request.key tables := by
  unfold Call.find at h
  split at h
  next hworkflow =>
    obtain ⟨row, hrow, rfl⟩ := Option.map_eq_some_iff.mp h
    have hfind := List.find?_some hrow
    have hid : row.id = call.requestId := by
      simp only [Bool.and_eq_true, decide_eq_true_eq] at hfind
      exact hfind.1
    refine ⟨by rw [hworkflow, ← hid]; rfl, List.mem_map.mpr ⟨row, List.mem_filter.mpr ⟨?_, ?_⟩, rfl⟩⟩
    · exact List.mem_of_find?_eq_some hrow
    · exact decide_eq_true rfl
  next hworkflow =>
    obtain ⟨row, hrow, rfl⟩ := Option.map_eq_some_iff.mp h
    have hfind := List.find?_some hrow
    have hid : row.id = call.requestId := by
      simp only [Bool.and_eq_true, decide_eq_true_eq] at hfind
      exact hfind.1
    refine ⟨by rw [hworkflow, ← hid]; rfl, List.mem_map.mpr ⟨row, List.mem_filter.mpr ⟨?_, ?_⟩, rfl⟩⟩
    · exact List.mem_of_find?_eq_some hrow
    · exact decide_eq_true rfl

/-- A call that goes on has found its request pending. -/
theorem pending_of_load {call : Call} {tables : Tables} {request : Request}
    (h : call.load tables = .ok request) : .pending ∈ statuses request.key tables := by
  unfold Call.load at h
  split at h
  next => cases h
  next request' hfind =>
    split_ifs at h with hpending
    · cases h
      exact hpending ▸ (find_spec hfind).2
    · split at h <;> cases h

/-- What a call decides is about the request that it has read. -/
theorem key_of_decide {call : Call} {tables : Tables} {request : Request} {d : Decision}
    (h : call.decide tables request = .ok d) : d.key = request.key := by
  obtain ⟨workflow, requestId, action⟩ := call
  cases request with
  | deletion request =>
    cases action with
    | cancel userId =>
      cases h
      rfl
    | deny review =>
      cases hcheck : checkMedia tables request.mediaType request.movieId request.seriesId <;>
        simp only [Call.decide, hcheck] at h <;> cases h
      rfl
    | approve review grant =>
      cases hcheck : checkMedia tables request.mediaType request.movieId request.seriesId <;>
        simp only [Call.decide, hcheck] at h <;> cases h
      rfl
  | protection request =>
    cases action with
    | cancel userId =>
      cases h
      rfl
    | deny review =>
      cases hcheck : checkMedia tables request.mediaType request.movieId request.seriesId <;>
        simp only [Call.decide, hcheck] at h <;> cases h
      rfl
    | approve review grant =>
      cases hcheck : checkMedia tables request.mediaType request.movieId request.seriesId <;>
        cases hexpiry : grant.expiry request review.now <;>
        simp only [Call.decide, hcheck, hexpiry] at h <;> cases h
      rfl

theorem key_withCandidate (tables : Tables) (d : Decision) : (d.withCandidate tables).key = d.key := by
  cases d <;> rfl

/-! ## Steps -/

theorem outcomesOf_append (key : Workflow × Nat) (outcomes : List ((Workflow × Nat) × Outcome))
    (new : Option ((Workflow × Nat) × Outcome)) :
    outcomesOf key (outcomes ++ new.toList) =
      outcomesOf key outcomes ++ ((new.filter (·.1 = key)).map Prod.snd).toList := by
  rw [outcomesOf, List.filter_append, List.map_append]
  cases new with
  | none => rfl
  | some o =>
    by_cases hkey : o.1 = key <;> simp [outcomesOf, hkey, Option.filter]

namespace Orderly

variable {initial store : Store} {points : κ → Point} {outcomes : List ((Workflow × Nat) × Outcome)}
  {queued : List Nat} {t : κ}

theorem select (h : Orderly initial store points outcomes queued) {next : Store → Point}
    (hnext : statement (points t) = some (.select next))
    (hapart : ∀ call request, points t = .readRequest call →
      call.load (seen written (points t) store).tables = .ok request →
        ∀ t' ≠ t, request.key ∉ (points t').deciding?) :
    Orderly initial store (Function.update points t (next (seen written (points t) store)))
      outcomes queued := by
  cases hp : points t <;> rw [hp] at hnext <;> simp only [statement, Option.some.injEq, reduceCtorEq,
    Statement.select.injEq] at hnext
  case readRequest call =>
    subst hnext
    dsimp only
    cases hload : call.load (seen written (.readRequest call) store).tables with
    | error e => exact h.move_on (fun _ hkey => by cases hkey) fun _ hid => by cases hid
    | ok request =>
      refine h.move (fun key hkey => ?_) fun _ hid => by cases hid
      obtain rfl : request.key = key := Option.some.inj hkey
      exact ⟨h.outcomesOf_of_pending (pending_of_load hload), hapart call request hp (hp ▸ hload)⟩
  case readMedia call request =>
    subst hnext
    dsimp only
    cases hdecide : call.decide (seen written (.readMedia call request) store).tables request with
    | error e => exact h.move_on (fun _ hkey => by cases hkey) fun _ hid => by cases hid
    | ok d =>
      refine h.move_on (fun key hkey => ?_) fun _ hid => by cases hid
      rw [hp]
      exact (congrArg some (key_of_decide hdecide)).symm.trans hkey
  case readCandidate d =>
    subst hnext
    refine h.move_on (fun key hkey => ?_) fun _ hid => by cases hid
    rw [hp]
    exact (congrArg some (key_withCandidate _ d)).symm.trans hkey
  case refreshCandidate requestId candidateId =>
    subst hnext
    dsimp only
    split_ifs
    · exact h.move_on (fun _ hkey => by cases hkey) fun id hid => by rw [hp]; exact hid
    · exact h.move_on (fun _ hkey => by cases hkey) fun _ hid => by cases hid
  case refreshRequest key =>
    subst hnext
    dsimp only
    split_ifs <;> exact h.move_on (fun _ hkey => by cases hkey) fun _ hid => by cases hid

theorem modify (h : Orderly initial store points outcomes queued) {change : Store → Store}
    {next : Store → Point} (hnext : statement (points t) = some (.modify change next)) :
    Orderly initial store (Function.update points t (next (seen written (points t) store)))
      outcomes queued := by
  cases hp : points t <;> rw [hp] at hnext <;> simp only [statement, Option.some.injEq, reduceCtorEq,
    Statement.modify.injEq] at hnext
  case flush d =>
    obtain ⟨-, rfl⟩ := hnext
    dsimp only
    split_ifs
    · exact h.move_on (fun _ hkey => by cases hkey) fun _ hid => by cases hid
    · exact h.move_on (fun key hkey => by rw [hp]; exact hkey) fun _ hid => by cases hid
  case insertJob requestId candidateId =>
    obtain ⟨-, rfl⟩ := hnext
    exact h.move_on (fun _ hkey => by cases hkey) fun id hid => by rw [hp]; exact hid

theorem rollback (h : Orderly initial store points outcomes queued) {next : Point}
    (hnext : statement (points t) = some (.rollback next)) :
    Orderly initial store (Function.update points t next) outcomes queued := by
  cases hp : points t <;> rw [hp] at hnext <;> simp only [statement, Option.some.injEq, reduceCtorEq,
    Statement.rollback.injEq] at hnext
  subst hnext
  exact h.move_on (fun _ hkey => by cases hkey) fun _ hid => by cases hid

theorem signal (h : Orderly initial store points outcomes queued) {signal : Signal} {next : Point}
    (hnext : leave (points t) signal = some next) :
    Orderly initial store (Function.update points t next) outcomes queued := by
  generalize points t = p at hnext
  revert hnext
  fun_cases Requests.leave p signal <;> intro hnext
  all_goals cases hnext
  all_goals exact h.move_on (fun _ hkey => by cases hkey) fun _ hid => by cases hid

/-- The commit of a decision. -/
theorem commit_decision (h : Orderly initial store points outcomes queued) {d : Decision} {madeId : Nat}
    (hp : points t = .commit d madeId) :
    Orderly initial (d.change store) (Function.update points t (d.after madeId))
      (outcomes ++ ((points t).outcome? store.tables).toList) queued := by
  have hempty : outcomesOf d.key outcomes = [] := h.deciding t d.key (by rw [hp]; rfl)
  have hself : outcomesOf d.key (outcomes ++ ((points t).outcome? store.tables).toList) =
      if d.outcome madeId = .cancelled ∧ statuses d.key store.tables = [] then []
      else [d.outcome madeId] := by
    rw [outcomesOf_append, hempty, hp, Point.outcome?]
    split_ifs
    · rfl
    · simp [Option.filter]
  have hother (key : Workflow × Nat) (hkey : d.key ≠ key) :
      outcomesOf key (outcomes ++ ((points t).outcome? store.tables).toList) = outcomesOf key outcomes := by
    rw [outcomesOf_append, hp, Point.outcome?]
    split_ifs
    · exact List.append_nil _
    · simp [Option.filter, hkey]
  have hafter : (d.after madeId).deciding? = none := by cases d <;> rfl
  -- a call that queues a job comes from an approval of its own
  have hqueueing : ∀ id ∈ (d.after madeId).queueing?, d.key = (.deletion, id) ∧
      d.outcome madeId = .approved madeId := by
    cases d <;> intro id hid <;> cases hid
    exact ⟨rfl, rfl⟩
  refine { rows := fun key => ?_, once := fun key => ?_, deciding := fun t' key hkey => ?_,
           alone := fun t₁ t₂ key h₁ h₂ => ?_, queueing := fun t' id hid => ?_,
           aloneQueueing := fun t₁ t₂ id h₁ h₂ => ?_, approved := fun id hid => ?_, nodup := h.nodup,
           jobs := ?_ }
  · rw [statuses_change d madeId]
    by_cases hkey : d.key = key
    · subst hkey
      have hinitial := h.rows d.key
      rw [hempty, List.foldl_nil] at hinitial
      rw [if_pos rfl, hself, hinitial]
      split_ifs with hgone
      · rw [hgone.1, hgone.2]
        rfl
      · rfl
    · rw [if_neg hkey, hother key hkey]
      exact h.rows key
  · by_cases hkey : d.key = key
    · subst hkey
      rw [hself]
      split_ifs
      · exact Nat.zero_le 1
      · exact Nat.le_refl 1
    · rw [hother key hkey]
      exact h.once key
  · by_cases ht : t' = t
    · subst ht
      rw [Function.update_self, hafter] at hkey
      cases hkey
    · rw [Function.update_of_ne ht] at hkey
      rw [hother key fun hsame => ht (h.alone t' t key hkey (by rw [hp, ← hsame]; rfl))]
      exact h.deciding t' key hkey
  · refine eq_of_update h.alone (fun key hkey => ?_) h₁ h₂
    rw [hafter] at hkey
    cases hkey
  · by_cases ht : t' = t
    · subst ht
      rw [Function.update_self] at hid
      obtain ⟨hkey, happroved⟩ := hqueueing id hid
      refine ⟨fun hqueued => ?_, madeId, ?_⟩
      · obtain ⟨madeId', hmade⟩ := h.approved id hqueued
        rw [← hkey, hempty] at hmade
        cases hmade
      · rw [← hkey, hself, happroved, if_neg (by simp)]
    · rw [Function.update_of_ne ht] at hid
      obtain ⟨hqueued, madeId', hmade⟩ := h.queueing t' id hid
      refine ⟨hqueued, madeId', ?_⟩
      rw [hother _ fun hkey => ?_, hmade]
      rw [← hkey, hempty] at hmade
      cases hmade
  · refine eq_of_update h.aloneQueueing (fun id hid t' ht hid' => ?_) h₁ h₂
    obtain ⟨-, madeId', hmade⟩ := h.queueing t' id hid'
    rw [← (hqueueing id hid).1, hempty] at hmade
    cases hmade
  · obtain ⟨madeId', hmade⟩ := h.approved id hid
    refine ⟨madeId', ?_⟩
    rw [hother _ fun hkey => ?_, hmade]
    rw [← hkey, hempty] at hmade
    cases hmade
  · rw [← h.jobs, Decision.change]
    split_ifs <;> rfl

/-- The commit of the job of an approved request. -/
theorem commit_job (h : Orderly initial store points outcomes queued) {requestId candidateId : Nat}
    (hp : points t = .commitJob requestId candidateId) :
    Orderly initial (addDeleteJob requestId candidateId store)
      (Function.update points t (.refreshRequest (.deletion, requestId))) outcomes
      (queued ++ [requestId]) := by
  have hqueueing : requestId ∈ (points t).queueing? := by rw [hp]; rfl
  obtain ⟨hqueued, hmade⟩ := h.queueing t requestId hqueueing
  have hmove : Orderly initial store (Function.update points t (.refreshRequest (.deletion, requestId)))
      outcomes queued := h.move_on (fun _ hkey => by cases hkey) fun _ hid => by cases hid
  refine { hmove with rows := h.rows, queueing := fun t' id hid => ?_,
                      approved := fun id hid => ?_, nodup := ?_, jobs := ?_ }
  · obtain ⟨hid', hmade'⟩ := hmove.queueing t' id hid
    refine ⟨fun hmem => ?_, hmade'⟩
    rcases List.mem_append.mp hmem with hold | hnew
    · exact hid' hold
    · obtain rfl := List.mem_singleton.mp hnew
      have ht : t' ≠ t := fun ht => by
        subst ht
        rw [Function.update_self] at hid
        cases hid
      rw [Function.update_of_ne ht] at hid
      exact ht (h.aloneQueueing t' t id hid hqueueing)
  · rcases List.mem_append.mp hid with hold | hnew
    · exact h.approved id hold
    · obtain rfl := List.mem_singleton.mp hnew
      exact hmade
  · rw [List.nodup_append_comm, List.singleton_append]
    exact List.nodup_cons.mpr ⟨hqueued, h.nodup⟩
  · rw [addDeleteJob, List.map_append, h.jobs, List.map_append, List.append_assoc]
    rfl

/-- A statement keeps the calls orderly, unless two of them decide on one request. -/
theorem execute {s s' : Atomic κ Store Point} (h : Orderly initial s.contents s.points outcomes queued)
    (hapart : ∀ call request, s.points t = .readRequest call →
      call.load (seen written (s.points t) s.contents).tables = .ok request →
        ∀ t' ≠ t, request.key ∉ (s.points t').deciding?)
    (hstep : Atomic.Step reviewProgram written s t s') :
    Orderly initial s'.contents s'.points
      (outcomes ++ ((s.points t).outcome? s.contents.tables).toList)
      (queued ++ (s.points t).queued?.toList) := by
  have houtcomes (hne : ∀ next, statement (s.points t) ≠ some (.commit next)) :
      outcomes ++ ((s.points t).outcome? s.contents.tables).toList = outcomes := by
    cases hp : s.points t <;> first | exact List.append_nil _ | exact absurd (by rw [hp]; rfl) (hne _)
  have hqueued (hne : ∀ next, statement (s.points t) ≠ some (.commit next)) :
      queued ++ (s.points t).queued?.toList = queued := by
    cases hp : s.points t <;> first | exact List.append_nil _ | exact absurd (by rw [hp]; rfl) (hne _)
  cases hstep with
  | select next hnext =>
    rw [houtcomes (fun _ hcommit => by cases hnext.symm.trans hcommit),
      hqueued (fun _ hcommit => by cases hnext.symm.trans hcommit)]
    exact h.select hnext hapart
  | modify change next hnext _ =>
    rw [houtcomes (fun _ hcommit => by cases hnext.symm.trans hcommit),
      hqueued (fun _ hcommit => by cases hnext.symm.trans hcommit)]
    exact h.modify hnext
  | commit next hnext =>
    change statement (s.points t) = _ at hnext
    cases hp : s.points t <;> rw [hp] at hnext <;> simp only [statement, Option.some.injEq,
      reduceCtorEq, Statement.commit.injEq] at hnext
    case commit d madeId =>
      subst hnext
      have hdecision := h.commit_decision hp
      rw [hp] at hdecision
      change Orderly initial _ _ _ (queued ++ [])
      rw [List.append_nil]
      exact hdecision
    case commitJob requestId candidateId =>
      subst hnext
      change Orderly initial _ _ (outcomes ++ []) _
      rw [List.append_nil]
      exact h.commit_job hp
  | rollback next hnext =>
    rw [houtcomes (fun _ hcommit => by cases hnext.symm.trans hcommit),
      hqueued (fun _ hcommit => by cases hnext.symm.trans hcommit)]
    exact h.rollback hnext

end Orderly

/-! ## Runs -/

/-- A request is reviewed once: it has one outcome at most, which is all that happens to its
status, it gets one job at most, and neither a candidate, a protection nor a job when it ends
up denied or was cancelled. -/
structure ReviewedOnce (initial : Store) (p : Reviews κ) : Prop where
  once : ∀ key, (outcomesOf key p.outcomes).length ≤ 1
  rows : ∀ key, statuses key p.store.tables =
    (outcomesOf key p.outcomes).foldl (fun rows o => o.apply rows) (statuses key initial.tables)
  nodup : p.queued.Nodup
  jobs : p.store.jobs.map CandidateFileOpJob.deleteRequestId =
    initial.jobs.map CandidateFileOpJob.deleteRequestId ++ p.queued.map some
  withdrawn : ∀ key, .denied ∈ statuses key p.store.tables ∨ .cancelled ∈ outcomesOf key p.outcomes →
    (∀ madeId, .approved madeId ∉ outcomesOf key p.outcomes) ∧
      ∀ id ∈ p.queued, key ≠ (.deletion, id)

namespace Reviews

variable {p p' : Reviews κ} {initial : Store}

structure Sound (initial : Store) (p : Reviews κ) : Prop where
  isolated : p.config.Isolated written
  orderly : Orderly initial p.store p.config.points p.outcomes p.queued

theorem sound_step (h : p.Sound initial) {event : Event κ} (hapart : p.KeepsApart event)
    (hstep : p.step event = some p') : p'.Sound initial := by
  cases event with
  | execute t =>
    obtain ⟨config, hexecute, rfl⟩ := Option.map_eq_some_iff.mp hstep
    obtain ⟨hisolated, hatomic⟩ := Config.isolated_execute accounts h.isolated hexecute
    have hview := h.isolated.view (t := t)
    refine ⟨hisolated, h.orderly.execute (fun call request hp hload => hapart call request hp ?_) hatomic⟩
    rw [hview]
    exact hload
  | signal t signal =>
    obtain ⟨config, hleave, rfl⟩ := Option.map_eq_some_iff.mp hstep
    obtain ⟨hisolated, next, hnext, hatomic⟩ := Config.isolated_leave accounts h.isolated hleave
    have hstore : config.database.committed = p.store := congrArg Atomic.contents hatomic
    have hpoints : config.points = Function.update p.config.points t next :=
      congrArg Atomic.points hatomic
    have horderly := h.orderly.signal hnext
    rw [← hstore, ← hpoints] at horderly
    exact ⟨hisolated, horderly⟩

theorem sound_start (initial : Store) : (start initial : Reviews κ).Sound initial where
  isolated _ := rfl
  orderly :=
    { rows := fun _ => rfl
      once := fun _ => Nat.zero_le 1
      deciding := fun _ _ hkey => by cases hkey
      alone := fun _ _ _ hkey => by cases hkey
      queueing := fun _ _ hid => by cases hid
      aloneQueueing := fun _ _ _ hid => by cases hid
      approved := fun _ hid => absurd hid List.not_mem_nil
      nodup := List.nodup_nil
      jobs := (List.append_nil _).symm }

theorem Sound.reviewedOnce (h : p.Sound initial) : ReviewedOnce initial p where
  once := h.orderly.once
  rows := h.orderly.rows
  nodup := h.orderly.nodup
  jobs := h.orderly.jobs
  withdrawn key hwithdrawn := by
    have hnone : ∀ madeId, .approved madeId ∉ outcomesOf key p.outcomes := by
      intro madeId hmade
      have hlength := h.orderly.once key
      obtain ⟨o, houtcomes⟩ := List.length_eq_one_iff.mp
        (Nat.le_antisymm hlength (List.length_pos_of_mem hmade))
      rw [houtcomes] at hmade hwithdrawn
      obtain rfl := List.mem_singleton.mp hmade
      rcases hwithdrawn with hdenied | hcancelled
      · rw [h.orderly.rows key, houtcomes] at hdenied
        simp [Outcome.apply] at hdenied
      · simp at hcancelled
    refine ⟨hnone, fun id hid hkey => ?_⟩
    obtain ⟨madeId, hmade⟩ := h.orderly.approved id hid
    exact hnone madeId (by rw [hkey, hmade]; exact List.mem_singleton_self _)

/-- When no call finds a request pending while another call decides on it, every request is
reviewed once. -/
theorem reviewedOnce_run {events : List (Event κ)} (hapart : (start initial).RunsApart events)
    (hrun : (start initial).run events = some p) : ReviewedOnce initial p :=
  (Runs.invariant_of_meets (I := Sound initial) (fun _ _ _ h hmeets hstep => sound_step h hmeets hstep)
    hapart hrun (sound_start initial)).reviewedOnce

/-- A movie with a pending delete request. -/
def requestedMovie : Store where
  tables :=
    { movies := [{ id := 1, tmdbId := 603, title := "The Matrix" }]
      deleteRequests := [{ id := 1, mediaType := .movie, requestedByUserId := 2, movieId := some 1 }] }

def approval : Call := ⟨.deletion, 1, .approve { managerId := 1, now := 5 } {}⟩

def denial : Call := ⟨.deletion, 1, .deny { managerId := 3, now := 5 }⟩

theorem reviewedOnce_run_approval : ∃ p : Reviews Unit,
    (start requestedMovie).run [.signal () (.call approval), .execute (), .execute (), .execute (),
      .execute (), .execute (), .execute (), .execute (), .execute ()] = some p ∧
    p.queued = [1] ∧ ReviewedOnce requestedMovie p := by
  have hrun : ((start (κ := Unit) requestedMovie).run [.signal () (.call approval), .execute (), .execute (),
      .execute (), .execute (), .execute (), .execute (), .execute (), .execute ()]).map Reviews.queued =
      some [1] := by decide
  obtain ⟨p, hp, hqueued⟩ := Option.map_eq_some_iff.mp hrun
  refine ⟨p, hp, hqueued, reviewedOnce_run (Runs.meets_of_forall fun p event _ => ?_) hp⟩
  -- there is no other session
  cases event with
  | execute t => exact fun _ _ _ _ t' ht => absurd rfl ht
  | signal t signal => trivial

/-- A manager denies a request that another one has read and not yet approved. -/
def deniedAfterRead : List (Event Bool) :=
  [.signal true (.call approval), .signal false (.call denial), .execute true, .execute false,
    .execute true, .execute true, .execute true, .execute true, .execute true, .execute true, .execute true,
    .execute false, .execute false, .execute false, .execute false]

theorem not_reviewedOnce_run : ¬∀ (initial : Store) (events : List (Event Bool)) (p : Reviews Bool),
    (start initial).run events = some p → ReviewedOnce initial p := by
  intro h
  have hrun : ((start requestedMovie).run deniedAfterRead).map (fun p =>
      (outcomesOf (.deletion, 1) p.outcomes, p.queued)) = some ([.approved 1, .denied], [1]) := by decide
  obtain ⟨p, hp, hends⟩ := Option.map_eq_some_iff.mp hrun
  have honce := (h requestedMovie deniedAfterRead p hp).once (.deletion, 1)
  rw [(Prod.mk.inj hends).1] at honce
  exact absurd honce (by decide)

end Reviews

end MediaMasterr.Requests
