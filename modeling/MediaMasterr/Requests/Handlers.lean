import MediaMasterr.Requests.ReviewedOnce

/-! # Reviews without interruption

The handlers of `Reviews` as functions: what one of them does while no other
session has its turn. -/

namespace MediaMasterr.Requests

open MediaMasterr.Database MediaMasterr.Foundations MediaMasterr.Foundations.Transactions

/-- The transactions of a handler. An approved delete request is queued behind its review. -/
def Decision.carryOut (d : Decision) (store : Store) : Store :=
  match d with
  | .approveDeletion request _ => addDeleteJob request.id (d.madeId store.tables) (d.change store)
  | _ => d.change store

def Call.handle (call : Call) (store : Store) : Except ApiError Unit × Store :=
  match call.load store.tables with
  | .error e => (.error e, store)
  | .ok request =>
    match call.decide store.tables request with
    | .error e => (.error e, store)
    | .ok d => (.ok (), (d.withCandidate store.tables).carryOut store)

/-! ## A decision about a loaded request -/

section

variable {d : Decision} {store : Store}

theorem not_isStale (h : statuses d.key store.tables ≠ []) : ¬d.IsStale store.tables :=
  fun hstale => h (statuses_of_isStale hstale)

theorem change_of_there (h : statuses d.key store.tables ≠ []) :
    d.change store = { store with tables := d.write store.tables } := if_neg (not_isStale h)

/-- A review keeps its request. -/
theorem statuses_change_ne_nil (hcancel : ∀ request, d ≠ .cancelDeletion request)
    (hcancel' : ∀ request, d ≠ .cancelProtection request) (h : statuses d.key store.tables ≠ []) :
    statuses d.key (d.change store).tables ≠ [] := by
  rw [statuses_change d 0, if_pos rfl]
  cases d with
  | cancelDeletion request => exact absurd rfl (hcancel request)
  | cancelProtection request => exact absurd rfl (hcancel' request)
  | _ => exact fun hnil => h (List.map_eq_nil_iff.mp hnil)

end

/-! ## The run of a session -/

section

variable {κ : Type*} [DecidableEq κ] {points : κ → Point} {t : κ} {store : Store} {d : Decision}

/-- A session that writes its decision, and is not interrupted, carries it out. -/
theorem runsAlone_flush (hthere : statuses d.key store.tables ≠ []) :
    Config.RunsAlone reviewProgram t (Config.sessionAt points t ⟨store, none⟩ (.flush d))
      (Config.sessionAt points t ⟨d.carryOut store, none⟩ (.done (.ok ()))) := by
  refine .modify rfl ?_
  rw [if_neg (not_isStale hthere)]
  refine .commit rfl ?_
  cases hd : d with
  | cancelDeletion request => exact .refl
  | cancelProtection request => exact .refl
  | approveDeletion request review =>
    subst hd
    set decision := Decision.approveDeletion request review with hdecision
    have hrow : statuses (.deletion, request.id) (addDeleteJob request.id
        (decision.madeId store.tables) (decision.change store)).tables ≠ [] :=
      statuses_change_ne_nil (by simp [hdecision]) (by simp [hdecision]) hthere
    refine .select rfl ?_
    have hmade : (decision.change store).tables.candidates.any
      (·.id = decision.madeId store.tables) := by
      rw [change_of_there hthere]
      simp [hdecision, Decision.write, Decision.madeId, approvedCandidate]
    rw [if_pos hmade]
    refine .modify rfl (.commit rfl (.select rfl ?_))
    rw [if_neg hrow]
    exact .refl
  | denyDeletion request review =>
    subst hd
    refine .select rfl ?_
    rw [if_neg (statuses_change_ne_nil (by simp) (by simp) hthere)]
    exact .refl
  | approveProtection request review permanent expiresAt candidateId =>
    subst hd
    refine .select rfl ?_
    rw [if_neg (statuses_change_ne_nil (by simp) (by simp) hthere)]
    exact .refl
  | denyProtection request review =>
    subst hd
    refine .select rfl ?_
    rw [if_neg (statuses_change_ne_nil (by simp) (by simp) hthere)]
    exact .refl

/-- A call that no other session interrupts answers and writes what `handle` says. -/
theorem runsAlone_handle (call : Call) :
    Config.RunsAlone reviewProgram t (Config.sessionAt points t ⟨store, none⟩ (.readRequest call))
      (Config.sessionAt points t ⟨(call.handle store).2, none⟩ (.done (call.handle store).1)) := by
  refine .select rfl ?_
  rw [Call.handle]
  cases hload : call.load store.tables with
  | error e => exact .refl
  | ok request =>
    refine .select rfl ?_
    dsimp only
    cases hdecide : call.decide store.tables request with
    | error e => exact .refl
    | ok d =>
      refine .select rfl (runsAlone_flush ?_)
      rw [key_withCandidate, key_of_decide hdecide]
      exact List.ne_nil_of_mem (pending_of_load hload)

end

end MediaMasterr.Requests
