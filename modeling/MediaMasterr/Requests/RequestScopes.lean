import MediaMasterr.Foundations.Runs
import MediaMasterr.Requests.DeleteRequests
import MediaMasterr.Sync.MovieVersions

/-! # What was asked for

The media of a delete request from its creation to its approval. The version of a
movie is set to `NULL` when its row is deleted, and then the request means the whole
movie. -/

namespace MediaMasterr.Requests

open MediaMasterr.Database MediaMasterr.Foundations

/-! ## Foreign keys -/

/-- A row is gone. -/
def IsRemoved {α : Type*} (rowId : α → Nat) (before after : List α) (id : Nat) : Prop :=
  id ∈ before.map rowId ∧ id ∉ after.map rowId

instance {α : Type*} (rowId : α → Nat) (before after : List α) (id : Nat) :
    Decidable (IsRemoved rowId before after id) := inferInstanceAs (Decidable (_ ∧ _))

/-- The `ON DELETE` actions on delete requests when rows of the library are deleted. -/
def deleteActions (before after : Tables) : Tables :=
  { after with
    deleteRequests :=
      (after.deleteRequests.filter fun r =>
        ∀ id ∈ r.episodeId, ¬IsRemoved Episode.id before.episodes after.episodes id).map fun r =>
      { r with movieVersionId :=
          r.movieVersionId.filter (¬IsRemoved MovieVersion.id before.movieVersions after.movieVersions ·) } }

/-! ## Pending requests -/

/-- The pending requests are pending ones of before, with their media. -/
def KeepsPending (before after : List DeleteRequest) : Prop :=
  ∀ r ∈ after, r.status = .pending →
    ∃ r₀ ∈ before, r₀.status = .pending ∧ r₀.id = r.id ∧ r₀.target = r.target

theorem KeepsPending.refl (rows : List DeleteRequest) : KeepsPending rows rows :=
  fun r hr hpending => ⟨r, hr, hpending, rfl, rfl⟩

theorem keepsPending_filter (rows : List DeleteRequest) (p : DeleteRequest → Bool) :
    KeepsPending rows (rows.filter p) :=
  fun r hr hpending => ⟨r, List.mem_of_mem_filter hr, hpending, rfl, rfl⟩

theorem keepsPending_map {rows : List DeleteRequest} {f : DeleteRequest → DeleteRequest}
    (h : ∀ r ∈ rows, (f r).status = .pending →
      r.status = .pending ∧ r.id = (f r).id ∧ r.target = (f r).target) :
    KeepsPending rows (rows.map f) := by
  intro r hr hpending
  obtain ⟨r₀, hr₀, rfl⟩ := List.mem_map.mp hr
  obtain ⟨hstatus, hkept⟩ := h r₀ hr₀ hpending
  exact ⟨r₀, hr₀, hstatus, hkept⟩

/-- What the deletion of a referenced row leaves of the pending requests is as it was. -/
theorem keepsPending_settleRequests {rows : List DeleteRequest} {refers : DeleteRequest → Bool}
    {clear : DeleteRequest → DeleteRequest} (hclear : ∀ r, (clear r).status = r.status) :
    KeepsPending rows (Tables.settleRequests DeleteRequest.status refers clear rows) := by
  intro r hr hpending
  obtain ⟨r₀, hr₀, rfl⟩ := List.mem_map.mp hr
  obtain ⟨hrow, hkept⟩ := List.mem_filter.mp hr₀
  cases hrefers : refers r₀ with
  | false => exact ⟨r₀, hrow, by simpa [hrefers] using hpending, by simp⟩
  | true =>
    rw [if_pos hrefers, hclear] at hpending
    simp [hrefers, hpending] at hkept

/-! ## The system -/

/-- A synchronisation or a deletion: its statements write no media into pending requests. -/
structure LibraryOperation where
  run : Tables → Tables
  keeps : ∀ db, KeepsPending db.deleteRequests (run db).deleteRequests

namespace LibraryOperation

def upsertMovieVersions (movieId : Nat) (versions : List Sync.MovieVersionData) : LibraryOperation where
  run db := Sync.upsertMovieVersions db movieId versions
  keeps db := .refl db.deleteRequests

def deleteSeasonRow (now seriesId seasonId : Nat) : LibraryOperation where
  run db := db.deleteSeasonRow now seriesId seasonId
  keeps db := by
    rw [Tables.deleteSeasonRow, Tables.softRemoveSeriesIfEmpty]
    split_ifs <;> exact keepsPending_settleRequests fun _ => rfl

def deleteEpisodeRow (episodeId : Nat) : LibraryOperation where
  run db := db.deleteEpisodeRow episodeId
  keeps _ := keepsPending_settleRequests fun _ => rfl

end LibraryOperation

inductive LibraryEvent where
  | create (user : User) (data : CreateDeleteRequest) (now : Nat)
  | review (call : Call)
  | operation (op : LibraryOperation)

/-- The store, and the media that the requests have been created for. -/
structure Library where
  store : Store
  asked : Nat → Option (MediaTarget × String)

namespace Library

def start (tables : Tables) : Library where
  store := { tables := { tables with deleteRequests := [] } }
  asked _ := none

def step (s : Library) : LibraryEvent → Option Library
  | .create user data now =>
    match createDeleteRequest s.store.tables user data now with
    | .error _ => some s
    | .ok request =>
      some
        { store := { s.store with tables := { s.store.tables with
            deleteRequests := s.store.tables.deleteRequests ++ [request] } }
          asked := Function.update s.asked request.id
            (request.targetScope.map fun scope => (request.target, scope)) }
  | .review call => some { s with store := (call.handle s.store).2 }
  | .operation op =>
    some { s with store := { s.store with
      tables := deleteActions s.store.tables (op.run s.store.tables) } }

/-- An operation deletes no version for which a request is pending. -/
def Spares (s : Library) : LibraryEvent → Prop
  | .operation op => ∀ r ∈ (op.run s.store.tables).deleteRequests, r.status = .pending →
      ∀ id ∈ r.movieVersionId,
        ¬IsRemoved MovieVersion.id s.store.tables.movieVersions (op.run s.store.tables).movieVersions id
  | _ => True

end Library

/-- The scope that the columns of a target have. -/
def scopeOf (target : MediaTarget) : String :=
  requestTargetScope target.mediaType target.movieVersionId target.seasonId target.episodeId none none none

/-- An approved request deletes what it was created for: the media, and their scope. -/
def DeletesAsAsked (s : Library) : Prop :=
  ∀ (requestId : Nat) (review : Review),
    ∀ c ∈ ((approveDeleteRequest requestId review).handle s.store).2.tables.candidates,
      c ∉ s.store.tables.candidates → s.asked requestId = some (c.target, scopeOf c.target)

/-! ## Steps -/

theorem scopeOf_newDeleteRequest (db : Tables) (user : User) (data : CreateDeleteRequest) (now : Nat)
    (scope : SeriesScope) : (newDeleteRequest db user data now (data.target scope) scope).targetScope =
      some (scopeOf (newDeleteRequest db user data now (data.target scope) scope).target) := by
  obtain ⟨season, episode⟩ := scope
  cases hmedia : data.mediaType <;> cases season <;> cases episode <;>
    simp [newDeleteRequest, scopeOf, requestTargetScope, DeleteRequest.target, CreateDeleteRequest.target, hmedia]

theorem keepsPending_write (d : Decision) (tables : Tables) :
    KeepsPending tables.deleteRequests (d.write tables).deleteRequests := by
  cases d with
  | approveDeletion request review =>
    refine keepsPending_map fun r _ hpending => ?_
    split_ifs at hpending with hid
    · cases hpending
    · rw [if_neg hid]
      exact ⟨hpending, rfl, rfl⟩
  | denyDeletion request review =>
    refine keepsPending_map fun r _ hpending => ?_
    split_ifs at hpending with hid
    · cases hpending
    · rw [if_neg hid]
      exact ⟨hpending, rfl, rfl⟩
  | cancelDeletion request => exact keepsPending_filter _ _
  | approveProtection | denyProtection | cancelProtection => exact .refl _

theorem keepsPending_carryOut (d : Decision) (store : Store) :
    KeepsPending store.tables.deleteRequests (d.carryOut store).tables.deleteRequests := by
  have hchange : (d.carryOut store).tables = (d.change store).tables := by cases d <;> rfl
  rw [hchange, Decision.change]
  split_ifs
  · exact .refl _
  · exact keepsPending_write d store.tables

/-- Reviews write no media into requests. -/
theorem keepsPending_handle (call : Call) (store : Store) :
    KeepsPending store.tables.deleteRequests (call.handle store).2.tables.deleteRequests := by
  rw [Call.handle]
  cases call.load store.tables with
  | error e => exact .refl _
  | ok request =>
    dsimp only
    cases call.decide store.tables request with
    | error e => exact .refl _
    | ok d => exact keepsPending_carryOut _ store

namespace Library

variable {s s' : Library}

/-- The pending requests have the media that they were created for. -/
def Pristine (s : Library) : Prop :=
  ∀ r ∈ s.store.tables.deleteRequests, r.status = .pending → s.asked r.id = some (r.target, scopeOf r.target)

theorem Pristine.of_keepsPending {after : List DeleteRequest} (h : s.Pristine)
    (hkeeps : KeepsPending s.store.tables.deleteRequests after) :
    ∀ r ∈ after, r.status = .pending → s.asked r.id = some (r.target, scopeOf r.target) := by
  intro r hr hpending
  obtain ⟨r₀, hr₀, hpending₀, hid, htarget⟩ := hkeeps r hr hpending
  rw [← hid, ← htarget]
  exact h r₀ hr₀ hpending₀

/-- The actions on pending requests, when no version of theirs is deleted. -/
theorem keepsPending_deleteActions {before after : Tables}
    (hspares : ∀ r ∈ after.deleteRequests, r.status = .pending → ∀ id ∈ r.movieVersionId,
      ¬IsRemoved MovieVersion.id before.movieVersions after.movieVersions id) :
    KeepsPending after.deleteRequests (deleteActions before after).deleteRequests := by
  intro r hr hpending
  obtain ⟨r₀, hr₀, rfl⟩ := List.mem_map.mp hr
  have hrow := List.mem_of_mem_filter hr₀
  refine ⟨r₀, hrow, hpending, rfl, ?_⟩
  have hversion : r₀.movieVersionId.filter
      (¬IsRemoved MovieVersion.id before.movieVersions after.movieVersions ·) = r₀.movieVersionId := by
    cases hid : r₀.movieVersionId with
    | none => rfl
    | some id => exact Option.filter_some_pos (decide_eq_true (hspares r₀ hrow hpending id hid))
  simp only [DeleteRequest.target, hversion]

theorem pristine_start (tables : Tables) : (start tables).Pristine := fun r hr => by cases hr

theorem pristine_step (event : LibraryEvent) (h : s.Pristine) (hspares : s.Spares event)
    (hstep : s.step event = some s') : s'.Pristine := by
  cases event with
  | create user data now =>
    rw [step] at hstep
    split at hstep
    · obtain rfl := Option.some.inj hstep
      exact h
    next request hrequest =>
      obtain rfl := Option.some.inj hstep
      obtain ⟨-, scope, -, -, rfl⟩ := createDeleteRequest_eq_ok hrequest
      intro r hr hpending
      obtain hold | hnew := List.mem_append.mp hr
      · have hlt : r.id < Write.nextId DeleteRequest.id s.store.tables.deleteRequests := Write.lt_nextId hold
        exact (Function.update_of_ne (Nat.ne_of_lt hlt) _ _).trans (h r hold hpending)
      · obtain rfl := List.mem_singleton.mp hnew
        rw [scopeOf_newDeleteRequest]
        exact Function.update_self _ _ _
  | review call =>
    obtain rfl := Option.some.inj hstep
    exact h.of_keepsPending (keepsPending_handle call s.store)
  | operation op =>
    obtain rfl := Option.some.inj hstep
    intro r hr hpending
    obtain ⟨r₀, hr₀, hpending₀, hid, htarget⟩ := keepsPending_deleteActions hspares r hr hpending
    rw [← hid, ← htarget]
    exact h.of_keepsPending (op.keeps s.store.tables) r₀ hr₀ hpending₀

/-- The candidate of an approval has the media of its request. -/
theorem Pristine.deletesAsAsked (h : s.Pristine) : DeletesAsAsked s := by
  intro requestId review c hc hnew
  by_cases happroved : ∃ request, s.store.tables.deleteRequests.find? (·.id = requestId) = some request ∧
      request.status = .pending ∧
      checkMedia s.store.tables request.mediaType request.movieId request.seriesId = .ok ()
  · obtain ⟨request, hfind, hpending, hmedia⟩ := happroved
    have hid : request.id = requestId := by simpa using List.find?_some hfind
    rw [handle_approveDeleteRequest_of hfind hpending hmedia, carryOut_approveDeletion hfind] at hc
    obtain rfl := List.mem_singleton.mp ((List.mem_append.mp hc).resolve_left hnew)
    rw [← hid]
    exact h request (List.mem_of_find?_eq_some hfind) hpending
  · rw [handle_approveDeleteRequest_of_not fun request hfind hpending hmedia =>
      happroved ⟨request, hfind, hpending, hmedia⟩] at hc
    exact absurd hc hnew

end Library

/-! ## Runs -/

/-- When no operation deletes a version for which a request is pending, every approval deletes
what was asked for. -/
theorem deletesAsAsked_run {tables : Tables} {events : List LibraryEvent} {s : Library}
    (hspares : Runs.Meets Library.step Library.Spares (.start tables) events)
    (hrun : Runs.run Library.step (.start tables) events = some s) : DeletesAsAsked s :=
  (Runs.invariant_of_meets (fun _ _ event h hcondition hstep => Library.pristine_step event h hcondition hstep)
    hspares hrun (Library.pristine_start tables)).deletesAsAsked

/-- A movie with two versions. -/
def twoVersions : Tables where
  movies := [{ id := 1, tmdbId := 1, title := "Movie" }]
  movieVersions :=
    [{ id := 1, movieId := 1, service := .plex, serviceItemId := "a", serviceMediaId := "a" },
     { id := 2, movieId := 1, service := .plex, serviceItemId := "b", serviceMediaId := "b" }]

/-- A request for the first version, and a synchronisation that finds some versions. -/
def requestThenSync (versions : List Sync.MovieVersionData) : List LibraryEvent :=
  [.create { id := 1 } { mediaType := .movie, mediaId := 1, movieVersionId := some 1 } 5,
   .operation (.upsertMovieVersions 1 versions)]

def versionData (serviceId : String) : Sync.MovieVersionData where
  service := .plex
  serviceItemId := serviceId
  serviceMediaId := serviceId

/-- Both versions are found, and the request is for the first one as before. -/
theorem deletesAsAsked_run_requestThenSync : ∃ s,
    Runs.run Library.step (.start twoVersions) (requestThenSync [versionData "a", versionData "b"]) = some s ∧
      DeletesAsAsked s := by
  have hspares : Runs.Meets Library.step Library.Spares (.start twoVersions)
      (requestThenSync [versionData "a", versionData "b"]) := by
    refine ⟨trivial, fun s hs => ⟨?_, fun _ _ => trivial⟩⟩
    obtain rfl := Option.some.inj hs
    change ∀ r ∈ _, _
    decide +kernel
  exact ⟨_, rfl, deletesAsAsked_run hspares rfl⟩

/-- The first version is gone, and the request for it deletes the whole movie. -/
theorem not_deletesAsAsked_run : ¬∀ (tables : Tables) (events : List LibraryEvent) (s : Library),
    Runs.run Library.step (.start tables) events = some s → DeletesAsAsked s := by
  intro h
  have hasked := h twoVersions (requestThenSync [versionData "b"]) _ rfl 1 { managerId := 1, now := 9 }
    { id := 1, mediaType := .movie, movieId := some 1, createdAt := 9 } (by decide +kernel) (by decide +kernel)
  revert hasked
  decide +kernel

end MediaMasterr.Requests
