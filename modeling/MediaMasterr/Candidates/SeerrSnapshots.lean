import MediaMasterr.Candidates.RequesterWatch

/-! # Snapshots of requests

`_refresh_request_snapshot`: one pass over the requests fills seven dictionaries. Each is
the loop over the events of its own that a request gives, so that it holds what some
request says and not where the request stands. -/

namespace MediaMasterr.Candidates

open MediaMasterr.Foundations MediaMasterr.Database MediaMasterr.RuleEngine

/-! ## Requests -/

inductive SeerrRequestStatus where
  | pending
  | approved
  | declined
  | failed
  | completed
  deriving DecidableEq, Repr

namespace SeerrRequestStatus

/-- The requests of the status are counted. -/
def counted : SeerrRequestStatus → Bool
  | .pending | .approved | .completed => true
  | .declined | .failed => false

/-- The requests of the status are active. -/
def active : SeerrRequestStatus → Bool
  | .pending | .approved => true
  | .declined | .failed | .completed => false

theorem counted_of_active (status : SeerrRequestStatus) (h : status.active = true) :
    status.counted = true := by
  cases status <;> first | rfl | cases h

end SeerrRequestStatus

structure SeerrRequestedSeason where
  seasonNumber : Int
  createdAt : PyDateTime

/-- A request; of its raw data, what stands under the names of the requester. -/
structure SeerrRequest where
  status : SeerrRequestStatus
  mediaType : MediaType
  tmdbId : Nat
  createdAt : PyDateTime
  requestedById : Nat
  requestedSeasons : List SeerrRequestedSeason := []
  username : PyValue := .none
  displayName : PyValue := .none
  email : PyValue := .none

structure SeerrUser where
  id : Nat
  username : Option String := none
  displayName : Option String := none
  email : Option String := none
  deriving DecidableEq, Repr

/-- The seven dictionaries of a snapshot. -/
structure SeerrSnapshot extends SeerrRequestSnapshot where
  requesterIdsByKey : Dict (MediaType × Nat) (List Nat) := ∅
  latestActiveRequestAtByKey : Dict (MediaType × Nat) PyDateTime := ∅
  requesterIdsBySeriesSeason : Dict (Nat × Int) (List Nat) := ∅
  latestActiveRequestAtBySeriesSeason : Dict (Nat × Int) PyDateTime := ∅

/-! ## The pass over the requests -/

section Refresh

variable (py : PythonRuntime)

/-- `_normalize_identity_key`. -/
def normalizeIdentityKey (raw : PyValue) : Option String :=
  let value := py.lower (PythonText.strip (if raw.truthy then py.str raw else ""))
  if value = "" then none else some value

/-- What a user of the directory adds to the identities. -/
def userIdentities (user : SeerrUser) : List (Nat × Option String) :=
  ([user.username, user.displayName, user.email].filterMap fun candidate =>
    normalizeIdentityKey py (candidate.elim .none .str)).map fun key => (user.id, some key)

/-- What a request adds to the identities: its requester has an entry, if only an empty one. -/
def requestIdentities (req : SeerrRequest) : List (Nat × Option String) :=
  (req.requestedById, none) ::
    ([req.username, req.displayName, req.email].filterMap (normalizeIdentityKey py)).map fun key =>
      (req.requestedById, some key)

def addIdentities (identities : Dict Nat (List String)) (added : List (Nat × Option String)) :
    Dict Nat (List String) :=
  added.foldl (fun identities e => identities.addOptional e.1 e.2) identities

/-- One requested season of a counted request. -/
def SeerrSnapshot.addSeason (req : SeerrRequest) (snapshot : SeerrSnapshot)
    (season : SeerrRequestedSeason) : SeerrSnapshot :=
  let seasonKey := (req.tmdbId, season.seasonNumber)
  { snapshot with
    requesterIdsBySeriesSeason :=
      snapshot.requesterIdsBySeriesSeason.addTo seasonKey req.requestedById
    latestRequestAtBySeriesSeasonUser :=
      snapshot.latestRequestAtBySeriesSeasonUser.raiseIn utcMicros seasonKey req.requestedById
        season.createdAt
    latestActiveRequestAtBySeriesSeason :=
      if req.status.active then
        snapshot.latestActiveRequestAtBySeriesSeason.raiseBy utcMicros seasonKey season.createdAt
      else snapshot.latestActiveRequestAtBySeriesSeason }

/-- One round of the loop over the requests. -/
def SeerrSnapshot.addRequest (snapshot : SeerrSnapshot) (req : SeerrRequest) : SeerrSnapshot :=
  let snapshot := { snapshot with
    requesterIdentityKeysByUserId :=
      addIdentities snapshot.requesterIdentityKeysByUserId (requestIdentities py req) }
  if !req.status.counted then snapshot
  else
    let key := (req.mediaType, req.tmdbId)
    let snapshot := { snapshot with
      requesterIdsByKey := snapshot.requesterIdsByKey.addTo key req.requestedById
      latestRequestAtByKeyUser :=
        snapshot.latestRequestAtByKeyUser.raiseIn utcMicros key req.requestedById req.createdAt
      latestActiveRequestAtByKey :=
        if req.status.active then
          snapshot.latestActiveRequestAtByKey.raiseBy utcMicros key req.createdAt
        else snapshot.latestActiveRequestAtByKey }
    req.requestedSeasons.foldl (SeerrSnapshot.addSeason req) snapshot

/-- `_refresh_request_snapshot`, on what the service answers; the users are none when their
directory cannot be read. -/
def refreshRequestSnapshot (users : List SeerrUser) (requests : List SeerrRequest) :
    SeerrSnapshot :=
  requests.foldl (SeerrSnapshot.addRequest py)
    { requesterIdentityKeysByUserId := addIdentities ∅ (users.flatMap (userIdentities py)) }

end Refresh

/-! ## Events -/

/-- The requester of a counted request, under its key. -/
def keyUsers (req : SeerrRequest) : List ((MediaType × Nat) × Nat) :=
  if req.status.counted then [((req.mediaType, req.tmdbId), req.requestedById)] else []

/-- The date of a counted request, under its key and requester. -/
def keyUserDates (req : SeerrRequest) : List ((MediaType × Nat) × Nat × PyDateTime) :=
  if req.status.counted then [((req.mediaType, req.tmdbId), req.requestedById, req.createdAt)]
  else []

def activeKeyDates (req : SeerrRequest) : List ((MediaType × Nat) × PyDateTime) :=
  if req.status.active then [((req.mediaType, req.tmdbId), req.createdAt)] else []

def seasonUsers (req : SeerrRequest) : List ((Nat × Int) × Nat) :=
  if req.status.counted then
    req.requestedSeasons.map fun season => ((req.tmdbId, season.seasonNumber), req.requestedById)
  else []

def seasonUserDates (req : SeerrRequest) : List ((Nat × Int) × Nat × PyDateTime) :=
  if req.status.counted then
    req.requestedSeasons.map fun season =>
      ((req.tmdbId, season.seasonNumber), req.requestedById, season.createdAt)
  else []

def activeSeasonDates (req : SeerrRequest) : List ((Nat × Int) × PyDateTime) :=
  if req.status.active then
    req.requestedSeasons.map fun season => ((req.tmdbId, season.seasonNumber), season.createdAt)
  else []

section Projections

variable {py : PythonRuntime} {users : List SeerrUser} {requests : List SeerrRequest}

/-- A part of the state that every step changes by events of its own. -/
theorem foldl_events {σ τ ε ρ : Type*} {step : σ → τ → σ} (part : σ → ρ) {add : ρ → ε → ρ}
    {events : τ → List ε} (hstep : ∀ s t, part (step s t) = (events t).foldl add (part s))
    (items : List τ) (s : σ) :
    part (items.foldl step s) = (items.flatMap events).foldl add (part s) := by
  rw [List.foldl_flatMap]
  exact (List.foldl_hom part (fun s t => (hstep s t).symm)).symm

theorem foldl_events_map {σ τ ε ρ : Type*} (step : σ → τ → σ) (part : σ → ρ) {add : ρ → ε → ρ}
    {event : τ → ε} (hstep : ∀ s t, part (step s t) = add (part s) (event t))
    (items : List τ) (s : σ) : part (items.foldl step s) = (items.map event).foldl add (part s) := by
  rw [List.foldl_map]
  exact (List.foldl_hom part (fun s t => (hstep s t).symm)).symm

theorem foldl_keeps {σ τ ρ : Type*} (step : σ → τ → σ) (part : σ → ρ)
    (hstep : ∀ s t, part (step s t) = part s) (items : List τ) (s : σ) :
    part (items.foldl step s) = part s := by
  induction items generalizing s with
  | nil => rfl
  | cons t items ih => rw [List.foldl_cons, ih, hstep]

section Request

variable (snapshot : SeerrSnapshot) (req : SeerrRequest)

theorem identities_addRequest :
    (snapshot.addRequest py req).requesterIdentityKeysByUserId =
      (requestIdentities py req).foldl (fun d e => d.addOptional e.1 e.2)
        snapshot.requesterIdentityKeysByUserId := by
  unfold SeerrSnapshot.addRequest
  cases req.status.counted with
  | false => rfl
  | true =>
    exact foldl_keeps (SeerrSnapshot.addSeason req)
      (fun s : SeerrSnapshot => s.requesterIdentityKeysByUserId) (fun _ _ => rfl) _ _

theorem requesterIdsByKey_addRequest :
    (snapshot.addRequest py req).requesterIdsByKey =
      (keyUsers req).foldl (fun d e => d.addTo e.1 e.2) snapshot.requesterIdsByKey := by
  unfold SeerrSnapshot.addRequest keyUsers
  cases req.status.counted with
  | false => rfl
  | true =>
    exact foldl_keeps (SeerrSnapshot.addSeason req) SeerrSnapshot.requesterIdsByKey
      (fun _ _ => rfl) _ _

theorem latestRequestAtByKeyUser_addRequest :
    (snapshot.addRequest py req).latestRequestAtByKeyUser =
      (keyUserDates req).foldl (fun d e => d.raiseIn utcMicros e.1 e.2.1 e.2.2)
        snapshot.latestRequestAtByKeyUser := by
  unfold SeerrSnapshot.addRequest keyUserDates
  cases req.status.counted with
  | false => rfl
  | true =>
    exact foldl_keeps (SeerrSnapshot.addSeason req)
      (fun s : SeerrSnapshot => s.latestRequestAtByKeyUser) (fun _ _ => rfl) _ _

theorem latestActiveRequestAtByKey_addRequest :
    (snapshot.addRequest py req).latestActiveRequestAtByKey =
      (activeKeyDates req).foldl (fun d e => d.raiseBy utcMicros e.1 e.2)
        snapshot.latestActiveRequestAtByKey := by
  have hactive := SeerrRequestStatus.counted_of_active req.status
  unfold SeerrSnapshot.addRequest activeKeyDates
  cases hcounted : req.status.counted with
  | false =>
    have hinactive : req.status.active = false :=
      Bool.eq_false_iff.mpr fun h => Bool.false_ne_true (hcounted.symm.trans (hactive h))
    rw [hinactive]
    rfl
  | true =>
    refine (foldl_keeps (SeerrSnapshot.addSeason req) SeerrSnapshot.latestActiveRequestAtByKey
      (fun _ _ => rfl) _ _).trans ?_
    cases req.status.active <;> rfl

theorem requesterIdsBySeriesSeason_addRequest :
    (snapshot.addRequest py req).requesterIdsBySeriesSeason =
      (seasonUsers req).foldl (fun d e => d.addTo e.1 e.2)
        snapshot.requesterIdsBySeriesSeason := by
  unfold SeerrSnapshot.addRequest seasonUsers
  cases req.status.counted with
  | false => rfl
  | true =>
    exact foldl_events_map (SeerrSnapshot.addSeason req) SeerrSnapshot.requesterIdsBySeriesSeason
      (fun _ _ => rfl) _ _

theorem latestRequestAtBySeriesSeasonUser_addRequest :
    (snapshot.addRequest py req).latestRequestAtBySeriesSeasonUser =
      (seasonUserDates req).foldl (fun d e => d.raiseIn utcMicros e.1 e.2.1 e.2.2)
        snapshot.latestRequestAtBySeriesSeasonUser := by
  unfold SeerrSnapshot.addRequest seasonUserDates
  cases req.status.counted with
  | false => rfl
  | true =>
    exact foldl_events_map (SeerrSnapshot.addSeason req)
      (fun s : SeerrSnapshot => s.latestRequestAtBySeriesSeasonUser) (fun _ _ => rfl) _ _

theorem latestActiveRequestAtBySeriesSeason_addRequest :
    (snapshot.addRequest py req).latestActiveRequestAtBySeriesSeason =
      (activeSeasonDates req).foldl (fun d e => d.raiseBy utcMicros e.1 e.2)
        snapshot.latestActiveRequestAtBySeriesSeason := by
  have hactive := SeerrRequestStatus.counted_of_active req.status
  unfold SeerrSnapshot.addRequest activeSeasonDates
  cases hcounted : req.status.counted with
  | false =>
    have hinactive : req.status.active = false :=
      Bool.eq_false_iff.mpr fun h => Bool.false_ne_true (hcounted.symm.trans (hactive h))
    rw [hinactive]
    rfl
  | true =>
    cases hkind : req.status.active with
    | false =>
      refine foldl_keeps (SeerrSnapshot.addSeason req)
        SeerrSnapshot.latestActiveRequestAtBySeriesSeason (fun s t => ?_) _ _
      simp [SeerrSnapshot.addSeason, hkind]
    | true =>
      refine foldl_events_map (SeerrSnapshot.addSeason req)
        SeerrSnapshot.latestActiveRequestAtBySeriesSeason (fun s t => ?_) _ _
      simp [SeerrSnapshot.addSeason, hkind]

end Request

/-! ## What a snapshot holds -/

theorem requesterIdsByKey_refresh :
    (refreshRequestSnapshot py users requests).requesterIdsByKey =
      (requests.flatMap keyUsers).foldl (fun d e => d.addTo e.1 e.2) ∅ :=
  foldl_events SeerrSnapshot.requesterIdsByKey requesterIdsByKey_addRequest _ _

theorem latestRequestAtByKeyUser_refresh :
    (refreshRequestSnapshot py users requests).latestRequestAtByKeyUser =
      (requests.flatMap keyUserDates).foldl (fun d e => d.raiseIn utcMicros e.1 e.2.1 e.2.2) ∅ :=
  foldl_events (fun s : SeerrSnapshot => s.latestRequestAtByKeyUser)
    latestRequestAtByKeyUser_addRequest _ _

theorem latestActiveRequestAtByKey_refresh :
    (refreshRequestSnapshot py users requests).latestActiveRequestAtByKey =
      (requests.flatMap activeKeyDates).foldl (fun d e => d.raiseBy utcMicros e.1 e.2) ∅ :=
  foldl_events SeerrSnapshot.latestActiveRequestAtByKey latestActiveRequestAtByKey_addRequest _ _

theorem requesterIdsBySeriesSeason_refresh :
    (refreshRequestSnapshot py users requests).requesterIdsBySeriesSeason =
      (requests.flatMap seasonUsers).foldl (fun d e => d.addTo e.1 e.2) ∅ :=
  foldl_events SeerrSnapshot.requesterIdsBySeriesSeason requesterIdsBySeriesSeason_addRequest _ _

theorem latestRequestAtBySeriesSeasonUser_refresh :
    (refreshRequestSnapshot py users requests).latestRequestAtBySeriesSeasonUser =
      (requests.flatMap seasonUserDates).foldl (fun d e => d.raiseIn utcMicros e.1 e.2.1 e.2.2) ∅ :=
  foldl_events (fun s : SeerrSnapshot => s.latestRequestAtBySeriesSeasonUser)
    latestRequestAtBySeriesSeasonUser_addRequest _ _

theorem latestActiveRequestAtBySeriesSeason_refresh :
    (refreshRequestSnapshot py users requests).latestActiveRequestAtBySeriesSeason =
      (requests.flatMap activeSeasonDates).foldl (fun d e => d.raiseBy utcMicros e.1 e.2) ∅ :=
  foldl_events SeerrSnapshot.latestActiveRequestAtBySeriesSeason
    latestActiveRequestAtBySeriesSeason_addRequest _ _

theorem identities_refresh :
    (refreshRequestSnapshot py users requests).requesterIdentityKeysByUserId =
      (requests.flatMap (requestIdentities py)).foldl (fun d e => d.addOptional e.1 e.2)
        (addIdentities ∅ (users.flatMap (userIdentities py))) :=
  foldl_events (fun s : SeerrSnapshot => s.requesterIdentityKeysByUserId)
    identities_addRequest _ _

theorem mem_requesterIdsByKey {key : MediaType × Nat} {u : Nat} :
    u ∈ (refreshRequestSnapshot py users requests).requesterIdsByKey.setAt key ↔
      (key, u) ∈ requests.flatMap keyUsers := by
  rw [requesterIdsByKey_refresh, Dict.mem_setAt_foldl_addTo]
  simp [Dict.setAt]

theorem mem_requesterIdsBySeriesSeason {key : Nat × Int} {u : Nat} :
    u ∈ (refreshRequestSnapshot py users requests).requesterIdsBySeriesSeason.setAt key ↔
      (key, u) ∈ requests.flatMap seasonUsers := by
  rw [requesterIdsBySeriesSeason_refresh, Dict.mem_setAt_foldl_addTo]
  simp [Dict.setAt]

end Projections

/-! ## Order and coherence -/

section Same

variable {κ : Type*} [DecidableEq κ]

/-- The same sets under the same keys. -/
def SameSets {υ : Type*} (d d' : Dict κ (List υ)) : Prop :=
  (∀ k, k ∈ d.keys ↔ k ∈ d'.keys) ∧ ∀ k v, v ∈ (d.get? k).getD [] ↔ v ∈ (d'.get? k).getD []

/-- The same dates; dates are equal at one instant. -/
def SameDates (d d' : Dict κ PyDateTime) : Prop :=
  ∀ k, (d.get? k).map utcMicros = (d'.get? k).map utcMicros

/-- The same dates of the same users under the same keys. -/
def SameUserDates (d d' : Dict κ (Dict Nat PyDateTime)) : Prop :=
  (∀ k, k ∈ d.keys ↔ k ∈ d'.keys) ∧
    ∀ k u, (d.getIn k u).map utcMicros = (d'.getIn k u).map utcMicros

theorem sameSets_foldl_addTo {υ : Type*} [DecidableEq υ] {pairs pairs' : List (κ × υ)}
    (h : pairs.Perm pairs') :
    SameSets (pairs.foldl (fun (d : Dict κ (List υ)) e => d.addTo e.1 e.2) ∅)
      (pairs'.foldl (fun d e => d.addTo e.1 e.2) ∅) := by
  refine ⟨fun k => ?_, fun k v => ?_⟩
  · rw [Dict.mem_keys_foldl_addTo, Dict.mem_keys_foldl_addTo, (h.map Prod.fst).mem_iff]
  · exact (Dict.mem_setAt_foldl_addTo pairs ∅).trans
      ((or_congr_left h.mem_iff).trans (Dict.mem_setAt_foldl_addTo pairs' ∅).symm)

theorem sameDates_foldl_raiseBy {pairs pairs' : List (κ × PyDateTime)} (h : pairs.Perm pairs') :
    SameDates (pairs.foldl (fun (d : Dict κ PyDateTime) e => d.raiseBy utcMicros e.1 e.2) ∅)
      (pairs'.foldl (fun d e => d.raiseBy utcMicros e.1 e.2) ∅) := fun k =>
  (Dict.isMaxOf_foldl_raiseBy pairs k).unique
    ((Dict.isMaxOf_foldl_raiseBy pairs' k).congr fun x => by simp only [h.mem_iff])

theorem sameUserDates_foldl_raiseIn {triples triples' : List (κ × Nat × PyDateTime)}
    (h : triples.Perm triples') :
    SameUserDates
      (triples.foldl (fun (d : Dict κ (Dict Nat PyDateTime)) e =>
        d.raiseIn utcMicros e.1 e.2.1 e.2.2) ∅)
      (triples'.foldl (fun d e => d.raiseIn utcMicros e.1 e.2.1 e.2.2) ∅) := by
  refine ⟨fun k => ?_, fun k u => ?_⟩
  · simp only [Dict.mem_keys_foldl_raiseIn, h.mem_iff]
  · exact (Dict.isMaxOf_foldl_raiseIn triples k u).unique
      ((Dict.isMaxOf_foldl_raiseIn triples' k u).congr fun x => by simp only [h.mem_iff])

end Same

/-- Two snapshots with the same seven dictionaries. -/
structure SameSnapshot (s s' : SeerrSnapshot) : Prop where
  requesterIdsByKey : SameSets s.requesterIdsByKey s'.requesterIdsByKey
  latestRequestAtByKeyUser : SameUserDates s.latestRequestAtByKeyUser s'.latestRequestAtByKeyUser
  latestActiveRequestAtByKey :
    SameDates s.latestActiveRequestAtByKey s'.latestActiveRequestAtByKey
  requesterIdsBySeriesSeason :
    SameSets s.requesterIdsBySeriesSeason s'.requesterIdsBySeriesSeason
  latestRequestAtBySeriesSeasonUser :
    SameUserDates s.latestRequestAtBySeriesSeasonUser s'.latestRequestAtBySeriesSeasonUser
  latestActiveRequestAtBySeriesSeason :
    SameDates s.latestActiveRequestAtBySeriesSeason s'.latestActiveRequestAtBySeriesSeason
  requesterIdentityKeysByUserId :
    SameSets s.requesterIdentityKeysByUserId s'.requesterIdentityKeysByUserId

/-- The users that have a date are those that are listed, under every key. -/
structure Coherent (s : SeerrSnapshot) : Prop where
  key_keys : ∀ key, key ∈ s.requesterIdsByKey.keys ↔ key ∈ s.latestRequestAtByKeyUser.keys
  key_users : ∀ key u, u ∈ s.requesterIdsByKey.setAt key ↔
    (s.latestRequestAtByKeyUser.getIn key u).isSome
  season_keys : ∀ key, key ∈ s.requesterIdsBySeriesSeason.keys ↔
    key ∈ s.latestRequestAtBySeriesSeasonUser.keys
  season_users : ∀ key u, u ∈ s.requesterIdsBySeriesSeason.setAt key ↔
    (s.latestRequestAtBySeriesSeasonUser.getIn key u).isSome

section Order

variable {py : PythonRuntime} {users : List SeerrUser} {requests requests' : List SeerrRequest}

/-- The order of the requests does not matter. -/
theorem sameSnapshot_of_perm (h : requests.Perm requests') :
    SameSnapshot (refreshRequestSnapshot py users requests)
      (refreshRequestSnapshot py users requests') where
  requesterIdsByKey := by
    simp only [requesterIdsByKey_refresh]
    exact sameSets_foldl_addTo (h.flatMap_right _)
  latestRequestAtByKeyUser := by
    simp only [latestRequestAtByKeyUser_refresh]
    exact sameUserDates_foldl_raiseIn (h.flatMap_right _)
  latestActiveRequestAtByKey := by
    simp only [latestActiveRequestAtByKey_refresh]
    exact sameDates_foldl_raiseBy (h.flatMap_right _)
  requesterIdsBySeriesSeason := by
    simp only [requesterIdsBySeriesSeason_refresh]
    exact sameSets_foldl_addTo (h.flatMap_right _)
  latestRequestAtBySeriesSeasonUser := by
    simp only [latestRequestAtBySeriesSeasonUser_refresh]
    exact sameUserDates_foldl_raiseIn (h.flatMap_right _)
  latestActiveRequestAtBySeriesSeason := by
    simp only [latestActiveRequestAtBySeriesSeason_refresh]
    exact sameDates_foldl_raiseBy (h.flatMap_right _)
  requesterIdentityKeysByUserId := by
    have hevents := h.flatMap_right (requestIdentities py)
    simp only [identities_refresh]
    refine ⟨fun k => ?_, fun k v => ?_⟩
    · simp only [Dict.mem_keys_foldl_addOptional, hevents.mem_iff]
    · exact (Dict.mem_setAt_foldl_addOptional _ _).trans
        ((or_congr_left hevents.mem_iff).trans (Dict.mem_setAt_foldl_addOptional _ _).symm)

theorem keyUsers_eq (req : SeerrRequest) :
    keyUsers req = (keyUserDates req).map fun e => (e.1, e.2.1) := by
  unfold keyUsers keyUserDates
  split_ifs <;> rfl

theorem seasonUsers_eq (req : SeerrRequest) :
    seasonUsers req = (seasonUserDates req).map fun e => (e.1, e.2.1) := by
  unfold seasonUsers seasonUserDates
  split_ifs
  · rw [List.map_map]
    rfl
  · rfl

/-- Sets and dates that come from the same events. -/
theorem coherent_foldl {κ : Type*} [DecidableEq κ] {pairs : SeerrRequest → List (κ × Nat)}
    {triples : SeerrRequest → List (κ × Nat × PyDateTime)}
    (h : ∀ req, pairs req = (triples req).map fun e => (e.1, e.2.1)) :
    let sets : Dict κ (List Nat) :=
      (requests.flatMap pairs).foldl (fun d e => d.addTo e.1 e.2) ∅
    let dates : Dict κ (Dict Nat PyDateTime) :=
      (requests.flatMap triples).foldl (fun d e => d.raiseIn utcMicros e.1 e.2.1 e.2.2) ∅
    (∀ k, k ∈ sets.keys ↔ k ∈ dates.keys) ∧
      ∀ k u, u ∈ sets.setAt k ↔ (dates.getIn k u).isSome := by
  have hpairs : requests.flatMap pairs =
      (requests.flatMap triples).map fun e => (e.1, e.2.1) := by
    rw [List.map_flatMap]
    exact congrArg requests.flatMap (funext h)
  refine ⟨fun k => ?_, fun k u => ?_⟩
  · rw [Dict.mem_keys_foldl_addTo, Dict.mem_keys_foldl_raiseIn, hpairs, List.map_map]
    simp [Dict.mem_keys_iff]
  · rw [Dict.mem_setAt_foldl_addTo, Dict.isSome_getIn_foldl_raiseIn, hpairs]
    simp [Dict.setAt]

theorem coherent_refresh : Coherent (refreshRequestSnapshot py users requests) where
  key_keys := by
    rw [requesterIdsByKey_refresh, latestRequestAtByKeyUser_refresh]
    exact (coherent_foldl keyUsers_eq).1
  key_users := by
    rw [requesterIdsByKey_refresh, latestRequestAtByKeyUser_refresh]
    exact (coherent_foldl keyUsers_eq).2
  season_keys := by
    rw [requesterIdsBySeriesSeason_refresh, latestRequestAtBySeriesSeasonUser_refresh]
    exact (coherent_foldl seasonUsers_eq).1
  season_users := by
    rw [requesterIdsBySeriesSeason_refresh, latestRequestAtBySeriesSeasonUser_refresh]
    exact (coherent_foldl seasonUsers_eq).2

end Order

end MediaMasterr.Candidates
