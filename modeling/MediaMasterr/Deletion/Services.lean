import MediaMasterr.Filesystem.Paths
import MediaMasterr.Foundations.Loops

/-! # Services of the delete handlers

The connected clients as `service_manager` holds them, the calls that the
handlers make to them and to the disk, and the helpers that the four handlers
share. A handler's run records every such call with its outcome. -/

namespace MediaMasterr.Deletion

open MediaMasterr.Foundations MediaMasterr.Database MediaMasterr.Filesystem

/-- A client object of `service_manager`. -/
abbrev ClientId := Nat

inductive MediaServer where
  | jellyfin
  | emby
  | plex
  deriving DecidableEq, Repr

def MediaServer.service : MediaServer → Service
  | .jellyfin => .jellyfin
  | .emby => .emby
  | .plex => .plex

/-- The state of `service_manager`: `_sonarr` and `_radarr` are the clients connected last,
the two lists are `_sonarr_clients` and `_radarr_clients` by configuration. -/
structure Services where
  mainMediaServer : Option MediaServer := none
  sonarrMain : Option ClientId := none
  sonarrClients : List (Nat × ClientId) := []
  radarrMain : Option ClientId := none
  radarrClients : List (Nat × ClientId) := []
  seerr : Bool := false

namespace Services

variable (services : Services)

/-- The `sonarr` property. -/
def sonarr : Option ClientId :=
  services.sonarrMain <|> services.sonarrClients.head?.map Prod.snd

/-- The `radarr` property. -/
def radarr : Option ClientId :=
  services.radarrMain <|> services.radarrClients.head?.map Prod.snd

/-- `get_sonarr`. -/
def getSonarr : Option Nat → Option ClientId
  | none => services.sonarr
  | some config => services.sonarrClients.lookup config

/-- The client that a season or episode ref is processed with: that of its configuration,
else the main one. -/
def refClient (ref : SeriesArrRef) : Option ClientId :=
  services.getSonarr (some ref.serviceConfigId) <|> services.sonarr

theorem refClient_eq (ref : SeriesArrRef) : services.refClient ref =
    (services.sonarrClients.lookup ref.serviceConfigId <|> services.sonarr) := rfl

/-- `_main_media_server_type`. -/
def mainMediaServerType : Option Service := services.mainMediaServer.map MediaServer.service

/-- `sonarr_clients()`, or the main client under configuration 0 when there is none. -/
def sonarrClientsOrMain : List (Nat × ClientId) :=
  if services.sonarrClients.isEmpty then
    match services.sonarr with
    | some client => [(0, client)]
    | none => []
  else services.sonarrClients

/-- `radarr_clients()`, or the main client under configuration 0 when there is none. -/
def radarrClientsOrMain : List (Nat × ClientId) :=
  if services.radarrClients.isEmpty then
    match services.radarr with
    | some client => [(0, client)]
    | none => []
  else services.radarrClients

end Services

/-! ## Calls -/

inductive SonarrRequest where
  | getEpisodes (arrSeriesId : Nat)
  | updateSeasonMonitoring (arrSeriesId seasonNumber : Nat)
  | deleteSeasonFiles (arrSeriesId seasonNumber : Nat)
  | unmonitorEpisode (episodeId : Nat)
  | deleteEpisodeFile (fileId : Nat)
  | getSeries (arrSeriesId : Nat)
  | unmonitorSeries (arrSeriesIds : List Nat)
  | deleteSeries (arrSeriesId : Nat) (deleteFiles addImportExclusion : Bool)
  | refreshSeries (arrSeriesIds : List Nat)
  deriving DecidableEq, Repr

inductive RadarrRequest where
  | unmonitorMovies (arrMovieIds : List Nat)
  | deleteMovies (arrMovieIds : List Nat) (deleteFiles addImportExclusion : Bool)
  | rescanMovies (arrMovieIds : List Nat)
  deriving DecidableEq, Repr

/-- Where the ids of a Sonarr call come from: a ref, or the ids collected for a
configuration. -/
inductive SonarrIds where
  | ofRef (ref : SeriesArrRef)
  | ofConfig (config : Nat)
  deriving DecidableEq, Repr

/-- The configuration whose instance gave out the ids. -/
def SonarrIds.serviceConfigId : SonarrIds → Nat
  | .ofRef ref => ref.serviceConfigId
  | .ofConfig config => config

/-- A call outside the database. A call to an Arr instance carries the source of its ids. -/
inductive Call where
  | sonarr (client : ClientId) (ids : SonarrIds) (request : SonarrRequest)
  | radarr (client : ClientId) (config : Nat) (request : RadarrRequest)
  | deleteItem (itemId : String)
  | deleteMovieVersion (itemId mediaId : String)
  | rmtree (path : LocalPath)
  | moveDirectory (path : LocalPath) (destination : String)
  | moveMedia (path : LocalPath) (destination : String)
  | siblingCleanup (path : LocalPath)
  deriving DecidableEq, Repr

/-- `delete_item` and `delete_movie_version` of the media server. -/
def Call.deletesOnMediaServer : Call → Bool
  | .deleteItem _ | .deleteMovieVersion .. => true
  | _ => false

/-- The calls that delete or move media files. -/
def Call.removesFiles : Call → Bool
  | .sonarr _ _ (.deleteSeries _ deleteFiles _) => deleteFiles
  | .sonarr _ _ (.deleteSeasonFiles ..) | .sonarr _ _ (.deleteEpisodeFile _) => true
  | .sonarr .. => false
  | .radarr _ _ (.deleteMovies _ deleteFiles _) => deleteFiles
  | .radarr .. => false
  | .deleteItem _ | .deleteMovieVersion .. | .rmtree _ | .moveDirectory .. | .moveMedia ..
  | .siblingCleanup _ => true

/-- A call with its outcome and the candidates it is made for. -/
structure Event where
  candidates : List ReclaimCandidate
  call : Call
  ok : Bool
  deriving DecidableEq, Repr

/-- The media-server and disk calls that delete the file of a version. -/
def Call.deletesVersion : Call → Bool
  | .deleteItem _ | .deleteMovieVersion .. | .siblingCleanup _ => true
  | _ => false

/-- A call of this kind succeeds for a candidate that `covers` accepts. -/
def Succeeds (kind : Call → Bool) (covers : ReclaimCandidate → Prop) (events : List Event) : Prop :=
  ∃ e ∈ events, e.ok = true ∧ kind e.call = true ∧ ∃ c ∈ e.candidates, covers c

/-- A call that deletes or moves files succeeds for such a candidate. -/
abbrev RemovesFiles (covers : ReclaimCandidate → Prop) (events : List Event) : Prop :=
  Succeeds Call.removesFiles covers events

section Succeeds

variable {kind : Call → Bool} {covers : ReclaimCandidate → Prop} {events events' : List Event}

@[simp] theorem succeeds_nil : ¬Succeeds kind covers [] := by simp [Succeeds]

@[simp] theorem succeeds_cons {e : Event} : Succeeds kind covers (e :: events) ↔
    (e.ok = true ∧ kind e.call = true ∧ ∃ c ∈ e.candidates, covers c) ∨
      Succeeds kind covers events := by
  simp [Succeeds]

@[simp] theorem succeeds_append : Succeeds kind covers (events ++ events') ↔
    Succeeds kind covers events ∨ Succeeds kind covers events' := by
  simp [Succeeds, or_and_right, exists_or]

@[simp] theorem succeeds_flatMap {τ : Type} {ts : List τ} {f : τ → List Event} :
    Succeeds kind covers (ts.flatMap f) ↔ ∃ t ∈ ts, Succeeds kind covers (f t) := by
  simp only [Succeeds, List.mem_flatMap]
  grind

end Succeeds

/-- What a call returned: the value, or the text of the exception. -/
abbrev Outcome (α : Type) := Except String α

def Outcome.succeeded {α : Type} (outcome : Outcome α) : Bool :=
  match outcome with
  | Except.ok _ => true
  | Except.error _ => false

/-- The text of the exception. -/
def Outcome.error? {α : Type} (outcome : Outcome α) : Option String :=
  match outcome with
  | Except.ok _ => none
  | Except.error e => some e

@[simp] theorem Outcome.error?_eq_none_iff {α : Type} {outcome : Outcome α} :
    outcome.error? = none ↔ outcome.succeeded = true := by
  cases outcome <;> simp [Outcome.error?, Outcome.succeeded]

/-- `x` as a truth value: an id that is neither `None` nor 0. -/
def truthyId (x : Option Nat) : Option Nat := x.filter (· ≠ 0)

/-- `x` as a truth value: a text that is neither `None` nor empty. -/
def truthyText (x : Option String) : Option String := x.filter (· ≠ "")

/-- An episode of Sonarr's inventory, with the entries that the handlers read. -/
structure SonarrEpisode where
  id : Option Nat
  seasonNumber : Option Nat
  episodeNumber : Option Nat
  episodeFileId : Option Nat
  deriving DecidableEq, Repr

/-! ## Arr actions -/

inductive ArrDeleteAction where
  | unmonitor
  | delete
  | removeIfEmpty
  deriving DecidableEq, Repr

/-- `_coerce_arr_delete_fallback`. -/
def coerceArrDeleteFallback (value : String) : ArrDeleteAction :=
  if value = "remove_if_empty" then .removeIfEmpty else .unmonitor

/-- `_get_arr_action`. -/
def getArrAction (candidate : ReclaimCandidate) (rules : List ReclaimRule)
    (defaultBehavior : ArrDeleteAction) : ArrDeleteAction :=
  let matchedRules := candidate.matchedRuleIds.filterMap fun id => rules.find? (·.id == id)
  if matchedRules.any (·.arrAction == some "unmonitor") then .unmonitor
  else if matchedRules.isEmpty then defaultBehavior
  else .delete

/-- `_merge_arr_action`. -/
def mergeArrAction (current : Option ArrDeleteAction) (candidateAction : ArrDeleteAction) :
    ArrDeleteAction :=
  if current = some .unmonitor ∨ candidateAction = .unmonitor then .unmonitor
  else if current = some .delete ∨ candidateAction = .delete then .delete
  else .removeIfEmpty

/-- The `action` column of a history row. -/
def historyAction (action : ArrDeleteAction) : String :=
  if action = .unmonitor then "unmonitored" else "deleted"

/-! ## Favorites -/

/-- `_normalize_favorites_username`. -/
def normalizeFavoritesUsername (tables : PythonText.CaseTables) (value : String) : String :=
  tables.lower (PythonText.strip value)

/-- `_load_favorite_tmdb_ids` under the policy of the settings row. -/
def loadFavoriteTmdbIds (tables : PythonText.CaseTables) (db : Tables) (mediaType : MediaType) :
    List Nat :=
  let settings := db.effectiveSettings
  let usernames := (settings.favoritesUsernames.filter (PythonText.strip · ≠ "")).map
    (normalizeFavoritesUsername tables)
  if !settings.favoritesProtectAllUsers && usernames.isEmpty then []
  else
    (db.favorites.filter fun f => f.mediaType = mediaType ∧
      (settings.favoritesProtectAllUsers ∨ f.usernameNormalized ∈ usernames)).map (·.tmdbId)

/-- `_filter_series_candidates_by_favorites`, when favorites are ignored at all. -/
def filterSeriesCandidatesByFavorites (tables : PythonText.CaseTables) (db : Tables)
    (candidates : List ReclaimCandidate) : List ReclaimCandidate :=
  if !db.effectiveSettings.favoritesIgnoreEnabled then candidates
  else
    let favorites := loadFavoriteTmdbIds tables db .series
    candidates.filter fun c =>
      match c.seriesId.bind db.findSeries with
      | some series => series.tmdbId ∉ favorites
      | none => true

/-- `_filter_movie_candidates_by_favorites`, when favorites are ignored at all. -/
def filterMovieCandidatesByFavorites (tables : PythonText.CaseTables) (db : Tables)
    (candidates : List ReclaimCandidate) : List ReclaimCandidate :=
  if !db.effectiveSettings.favoritesIgnoreEnabled then candidates
  else
    let favorites := loadFavoriteTmdbIds tables db .movie
    candidates.filter fun c =>
      match c.movieId.bind db.findMovie with
      | some movie => movie.tmdbId ∉ favorites
      | none => true

/-- `if restrict_to_ids: query.where(id.in_(restrict_to_ids))`; an empty set restricts
nothing. -/
def restrictTo (restrictToIds : List Nat) (candidates : List ReclaimCandidate) :
    List ReclaimCandidate :=
  if restrictToIds.isEmpty then candidates
  else candidates.filter (·.id ∈ restrictToIds)

/-! ## Order of the Sonarr refs -/

/-- `ref_score` of `_order_series_arr_refs`, without the id that breaks ties. -/
def refScore (mappings : List PathMapping) (mediaServiceType : Option Service)
    (paths : List (Option String)) (ref : SeriesArrRef) : Nat :=
  if paths.any fun path => path.getD "" ≠ "" ∧
      pathMatchesArrFolder path ref.arrSeriesPath mappings mediaServiceType (some .sonarr)
        (some ref.serviceConfigId) then 0
  else if ref.arrSeriesPath.getD "" ≠ "" then 1
  else 2

def refPrecedes (score : SeriesArrRef → Nat) (a b : SeriesArrRef) : Prop :=
  score a < score b ∨ score a = score b ∧ a.id ≤ b.id

instance (score : SeriesArrRef → Nat) : DecidableRel (refPrecedes score) := fun a b => by
  unfold refPrecedes
  infer_instance

/-- `_order_series_arr_refs`. -/
def orderSeriesArrRefs (mappings : List PathMapping) (mediaServiceType : Option Service)
    (paths : List (Option String)) (refs : List SeriesArrRef) : List SeriesArrRef :=
  refs.insertionSort (refPrecedes (refScore mappings mediaServiceType paths))

@[simp] theorem mem_orderSeriesArrRefs (mappings : List PathMapping)
    (mediaServiceType : Option Service) (paths : List (Option String))
    (refs : List SeriesArrRef) (ref : SeriesArrRef) :
    ref ∈ orderSeriesArrRefs mappings mediaServiceType paths refs ↔ ref ∈ refs := by
  unfold orderSeriesArrRefs
  exact List.mem_insertionSort _

/-- The Sonarr refs of a series. -/
def seriesRefs (db : Tables) (seriesId : Nat) : List SeriesArrRef :=
  db.seriesArrRefs.filter (·.seriesId = seriesId)

/-- The call on the client that a ref's candidates are processed with. -/
def sonarrEvent (candidate : ReclaimCandidate) (client : ClientId) (ref : SeriesArrRef)
    (request : SonarrRequest) (ok : Bool) : Event :=
  ⟨[candidate], .sonarr client (.ofRef ref) request, ok⟩

/-- The check that ends a season or episode deletion: a series whose seasons all report no
episode file leaves Sonarr. `fileCounts` are the `episodeFileCount` entries, `none` where
the statistics have none. -/
def emptySeriesEvents (candidate : ReclaimCandidate) (client : ClientId) (ref : SeriesArrRef)
    (addImportExclusion : Bool) (fileCounts : Outcome (List (Option Nat)))
    (deleteSeries : Outcome Unit) : List Event :=
  match fileCounts with
  | .error _ => [sonarrEvent candidate client ref (.getSeries ref.arrSeriesId) false]
  | .ok counts =>
    let fetched := sonarrEvent candidate client ref (.getSeries ref.arrSeriesId) true
    if counts.all fun count => count.getD 0 == 0 then
      [fetched, sonarrEvent candidate client ref
        (.deleteSeries ref.arrSeriesId false addImportExclusion) deleteSeries.succeeded]
    else [fetched]

/-! ## Runs -/

/-- Two decimal digits, as `{n:02d}`. -/
def twoDigits (n : Nat) : String := if n < 10 then "0" ++ toString n else toString n

/-- What a handler runs in: the clients, the case tables, `re.search` with `re.IGNORECASE`
and the time. -/
structure Environment where
  services : Services
  caseTables : PythonText.CaseTables
  search : String → String → Bool
  now : Nat

/-- The state of a handler's candidate loop. -/
structure Run where
  db : Tables
  events : List Event := []
  deletedCount : Nat := 0
  refresh : List (Nat × List Nat) := []

/-- `refresh.setdefault(config, set()).add(id)`. -/
def addRefresh (refresh : List (Nat × List Nat)) (config arrId : Nat) : List (Nat × List Nat) :=
  if refresh.any (·.1 == config) then
    refresh.map fun entry =>
      if entry.1 = config ∧ arrId ∉ entry.2 then (config, entry.2 ++ [arrId]) else entry
  else refresh ++ [(config, [arrId])]

theorem addRefresh_config {refresh : List (Nat × List Nat)} {config arrId : Nat}
    {entry : Nat × List Nat} (h : entry ∈ addRefresh refresh config arrId) :
    entry.1 = config ∨ ∃ old ∈ refresh, old.1 = entry.1 := by
  unfold addRefresh at h
  split_ifs at h with hany
  · obtain ⟨old, hold, rfl⟩ := List.mem_map.mp h
    split_ifs with hc
    · exact Or.inl rfl
    · exact Or.inr ⟨old, hold, rfl⟩
  · rcases List.mem_append.mp h with hold | hnew
    · exact Or.inr ⟨entry, hold, rfl⟩
    · rw [List.mem_singleton.mp hnew]
      exact Or.inl rfl

/-- The calls of `_best_effort_sonarr_refresh`. -/
def sonarrRefreshEvents (services : Services) (refreshOk : Nat → Bool)
    (refresh : List (Nat × List Nat)) : List Event :=
  refresh.filterMap fun entry =>
    (services.sonarrClientsOrMain.lookup entry.1).map fun client =>
      ⟨[], .sonarr client (.ofConfig entry.1) (.refreshSeries (entry.2.insertionSort (· ≤ ·))),
        refreshOk entry.1⟩

@[simp] theorem succeeds_sonarrRefreshEvents {kind : Call → Bool} {covers : ReclaimCandidate → Prop}
    {services : Services} {refreshOk : Nat → Bool} {refresh : List (Nat × List Nat)} :
    ¬Succeeds kind covers (sonarrRefreshEvents services refreshOk refresh) := by
  rintro ⟨e, he, -, -, c, hc, -⟩
  obtain ⟨entry, -, hentry⟩ := List.mem_filterMap.mp he
  obtain ⟨client, -, rfl⟩ := Option.map_eq_some_iff.mp hentry
  simp at hc

end MediaMasterr.Deletion
