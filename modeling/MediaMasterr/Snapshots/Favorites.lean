import Mathlib.Data.List.Nodup
import MediaMasterr.Database.Tables
import MediaMasterr.Foundations.Dict
import MediaMasterr.Foundations.PythonText
import MediaMasterr.Foundations.Refreshes

/-! # Favorites snapshot

What users have marked as favorites on the media servers is kept in `media_favorites`,
one row per server, user and title, and is replaced server by server. Favorites veto
deletions, so a server or a Plex user that cannot be read must keep the rows it had.
A set of rows that breaks the table's unique key raises at the commit, outside of the
handler of a failed fetch, and ends the whole refresh. -/

namespace MediaMasterr.Snapshots
open Database Foundations Foundations.PythonText Foundations.Refreshes

structure FavoriteRow where
  mediaType : MediaType
  tmdbId : Nat
  username : String
  usernameNormalized : String
  sourceService : Service
  sourceServiceConfigId : Nat
  deriving DecidableEq, Repr

/-- The columns of `uq_media_favorites_identity`. -/
def FavoriteRow.identity (row : FavoriteRow) : MediaType × Nat × String × Service × Nat :=
  (row.mediaType, row.tmdbId, row.usernameNormalized, row.sourceService,
    row.sourceServiceConfigId)

/-- The table `media_favorites`. -/
structure Favorites where
  rows : List FavoriteRow
  identities_nodup : (rows.map FavoriteRow.identity).Nodup

structure ServiceConfig where
  id : Nat
  serviceType : Service
  baseUrl : Option String := none
  apiKey : Option String := none
  deriving DecidableEq, Repr

/-- The servers that `refresh_snapshot` is called with or has selected. -/
structure ConfiguredServers where
  configs : List ServiceConfig
  ids_nodup : (configs.map ServiceConfig.id).Nodup

structure MediaUserIdentity where
  id : Nat
  sourceService : Service
  sourceServiceConfigId : Nat
  username : String
  userId : Option Nat := none
  plexAuthToken : Option String := none
  deriving DecidableEq, Repr

/-- A set of TMDB ids, in the order in which it is walked. -/
abbrev TmdbIds := {ids : List Nat // ids.Nodup}

/-- What the refresh gets to see: the answers of the servers, where nothing is an exception,
and the linked identities. A token that does not decrypt is taken as it is. -/
structure FavoritesWorld where
  tables : CaseTables
  favoriteTmdbIdsByUser : ServiceConfig → MediaType → Option (Dict String TmdbIds)
  identities : List MediaUserIdentity
  ferDecrypt : String → Option String
  watchlist : MediaUserIdentity → String → Option (MediaType → TmdbIds)

variable (world : FavoritesWorld)

def normalizeUsername (value : String) : String := world.tables.lower (strip value)

def buildFavoriteRows (mediaType : MediaType) (sourceService : Service)
    (sourceServiceConfigId : Nat) (usernameToTmdb : List (String × TmdbIds)) :
    List FavoriteRow :=
  usernameToTmdb.flatMap fun entry =>
    if normalizeUsername world entry.1 = "" then []
    else entry.2.val.map fun tmdbId =>
      { mediaType, tmdbId, username := strip entry.1
        usernameNormalized := normalizeUsername world entry.1
        sourceService, sourceServiceConfigId }

/-- Whether `_build_media_service_from_config` gives a client: Emby or Jellyfin, with a URL and
a key. -/
def buildsMediaService (config : ServiceConfig) : Bool :=
  (config.baseUrl.getD "" != "" && config.apiKey.getD "" != "") &&
    (config.serviceType == .jellyfin || config.serviceType == .emby)

/-- The rows of a server. -/
def FavoriteRow.ofServer (config : ServiceConfig) (row : FavoriteRow) : Bool :=
  row.sourceService == config.serviceType && row.sourceServiceConfigId == config.id

def Favorites.rowsOf (config : ServiceConfig) (favorites : Favorites) : List FavoriteRow :=
  favorites.rows.filter (·.ofServer config)

/-- A server's rows are deleted and the new ones added and committed; the unique key may
refuse. -/
def Favorites.replace (favorites : Favorites) (config : ServiceConfig)
    (rows : List FavoriteRow) : Option Favorites :=
  if h : ((favorites.rows.filter (!·.ofServer config) ++ rows).map
      FavoriteRow.identity).Nodup then
    some ⟨favorites.rows.filter (!·.ofServer config) ++ rows, h⟩
  else none

/-! ## Emby and Jellyfin -/

/-- Both maps of a server, movies first. -/
def fetchedMaps (config : ServiceConfig) : Option (Dict String TmdbIds × Dict String TmdbIds) :=
  if buildsMediaService config then do
    let movieMap ← world.favoriteTmdbIdsByUser config .movie
    let seriesMap ← world.favoriteTmdbIdsByUser config .series
    return (movieMap, seriesMap)
  else none

def builtRows (config : ServiceConfig) (maps : Dict String TmdbIds × Dict String TmdbIds) :
    List FavoriteRow :=
  buildFavoriteRows world .movie config.serviceType config.id maps.1.entries ++
    buildFavoriteRows world .series config.serviceType config.id maps.2.entries

/-- The body of the loop over Emby and Jellyfin servers, and whether the source counts as
refreshed. -/
def refreshServer (config : ServiceConfig) (favorites : Favorites) :
    Option (Favorites × Bool) :=
  match fetchedMaps world config with
  | none => some (favorites, false)
  | some maps => (favorites.replace config (builtRows world config maps)).map (·, true)

/-! ## Plex -/

def linkedIdentities (config : ServiceConfig) : List MediaUserIdentity :=
  world.identities.filter fun identity =>
    identity.sourceService == .plex && identity.sourceServiceConfigId == config.id &&
      identity.userId.isSome && identity.plexAuthToken.isSome

/-- `user_token`, when there is one. -/
def userToken (identity : MediaUserIdentity) : Option String :=
  let rawToken := strip (identity.plexAuthToken.getD "")
  if rawToken = "" then none
  else
    let token := strip ((world.ferDecrypt rawToken).getD rawToken)
    if token = "" then none else some token

/-- The name of a linked user and what the fetch of the watchlist came to; a user without a name
or a token is passed over. -/
def attempt (identity : MediaUserIdentity) : Option (String × Option (MediaType → TmdbIds)) :=
  let username := strip identity.username
  if normalizeUsername world username = "" then none
  else (userToken world identity).map fun token => (username, world.watchlist identity token)

/-- `rows`, `failed_usernames` and `successful_users`. -/
structure Gathered where
  rows : List FavoriteRow := []
  failedUsernames : List String := []
  successfulUsers : Nat := 0

def gatherIdentity (config : ServiceConfig) (gathered : Gathered)
    (identity : MediaUserIdentity) : Gathered :=
  match attempt world identity with
  | none => gathered
  | some (username, none) =>
    { gathered with
      failedUsernames := gathered.failedUsernames.insert (normalizeUsername world username) }
  | some (username, some watchlist) =>
    { gathered with
      rows := gathered.rows ++
        buildFavoriteRows world .movie .plex config.id [(username, watchlist .movie)] ++
        buildFavoriteRows world .series .plex config.id [(username, watchlist .series)]
      successfulUsers := gathered.successfulUsers + 1 }

/-- `_refresh_plex_watchlist_snapshot_for_config`. -/
def refreshPlexWatchlistSnapshotForConfig (config : ServiceConfig) (favorites : Favorites) :
    Option (Favorites × Bool) :=
  if linkedIdentities world config = [] then (favorites.replace config []).map (·, true)
  else
    let gathered := (linkedIdentities world config).foldl (gatherIdentity world config) {}
    if gathered.successfulUsers = 0 then
      if gathered.failedUsernames ≠ [] then some (favorites, false)
      else (favorites.replace config []).map (·, true)
    else
      let staleRows := (favorites.rowsOf config).filter fun row =>
        gathered.failedUsernames.contains row.usernameNormalized
      (favorites.replace config (gathered.rows ++ staleRows)).map (·, true)

/-! ## The whole snapshot -/

namespace ConfiguredServers

variable (servers : ConfiguredServers)

def supportedEmbyOrJellyfin : List ServiceConfig :=
  servers.configs.filter fun config =>
    config.serviceType == .emby || config.serviceType == .jellyfin

def supportedPlex : List ServiceConfig := servers.configs.filter (·.serviceType == .plex)

/-- The servers in the order of their turns. -/
def supported : List ServiceConfig := servers.supportedEmbyOrJellyfin ++ servers.supportedPlex

end ConfiguredServers

/-- A server's turn, in the loop over Emby and Jellyfin servers or the one over Plex servers, and
`refreshed_sources`. -/
def refreshTurn (config : ServiceConfig) (state : Favorites × Nat) : Option (Favorites × Nat) :=
  (if config.serviceType = .plex then
      refreshPlexWatchlistSnapshotForConfig world config state.1
    else refreshServer world config state.1).map fun result =>
    (result.1, if result.2 then state.2 + 1 else state.2)

/-- The table that is left, and whether the refresh reports success. -/
def refreshSnapshot (servers : ConfiguredServers) (favorites : Favorites) : Favorites × Bool :=
  if servers.supported = [] then (⟨[], List.nodup_nil⟩, true)
  else
    let run := refreshAll (refreshTurn world) servers.supported (favorites, 0)
    (run.1.1, run.2 && run.1.2 != 0)

/-! ## Rows that are built -/

variable {world}

theorem mem_buildFavoriteRows {mediaType : MediaType} {service : Service} {id : Nat}
    {entries : List (String × TmdbIds)} {row : FavoriteRow} :
    row ∈ buildFavoriteRows world mediaType service id entries ↔
      ∃ entry ∈ entries, normalizeUsername world entry.1 ≠ "" ∧ ∃ tmdbId ∈ entry.2.val,
        row = { mediaType, tmdbId, username := strip entry.1
                usernameNormalized := normalizeUsername world entry.1
                sourceService := service, sourceServiceConfigId := id } := by
  rw [buildFavoriteRows, List.mem_flatMap]
  refine exists_congr fun entry => and_congr_right fun _ => ?_
  split_ifs with hblank
  · simp [hblank]
  · simp [hblank, @eq_comm _ _ row]

/-- Two users of a server whose names are the same up to blanks and case have a title in
common. -/
def SharesTitle (world : FavoritesWorld) (a b : String × TmdbIds) : Prop :=
  normalizeUsername world a.1 ≠ "" ∧ normalizeUsername world a.1 = normalizeUsername world b.1 ∧
    ∃ id ∈ a.2.val, id ∈ b.2.val

theorem nodup_identities_buildFavoriteRows {mediaType : MediaType} {service : Service} {id : Nat}
    {entries : List (String × TmdbIds)} :
    ((buildFavoriteRows world mediaType service id entries).map FavoriteRow.identity).Nodup ↔
      entries.Pairwise fun a b => ¬SharesTitle world a b := by
  induction entries with
  | nil => simp [buildFavoriteRows]
  | cons entry entries ih =>
    have hcons : buildFavoriteRows world mediaType service id (entry :: entries) =
        buildFavoriteRows world mediaType service id [entry] ++
          buildFavoriteRows world mediaType service id entries := by
      simp [buildFavoriteRows]
    have hfirst : ((buildFavoriteRows world mediaType service id [entry]).map
        FavoriteRow.identity).Nodup := by
      rw [buildFavoriteRows, List.flatMap_singleton]
      split_ifs
      · exact List.nodup_nil
      · rw [List.map_map]
        refine List.Nodup.map_on ?_ entry.2.property
        intro a _ b _ hab
        simpa [FavoriteRow.identity] using hab
    rw [hcons, List.map_append, List.nodup_append', List.pairwise_cons, ih,
      and_iff_right hfirst, and_comm]
    refine and_congr_left fun _ => ?_
    constructor
    · rintro hdisjoint other hother ⟨hname, hsame, tmdbId, hmine, htheirs⟩
      refine hdisjoint (List.mem_map_of_mem
        (mem_buildFavoriteRows.mpr ⟨entry, by simp, hname, tmdbId, hmine, rfl⟩))
        (List.mem_map.mpr ⟨_, mem_buildFavoriteRows.mpr
          ⟨other, hother, hsame ▸ hname, tmdbId, htheirs, rfl⟩, ?_⟩)
      simp [FavoriteRow.identity, hsame]
    · intro hapart identity hmine htheirs
      obtain ⟨row, hrow, rfl⟩ := List.mem_map.mp hmine
      obtain ⟨row', hrow', hidentity⟩ := List.mem_map.mp htheirs
      obtain ⟨entry₁, hentry₁, hname, tmdbId, hid, rfl⟩ := mem_buildFavoriteRows.mp hrow
      obtain ⟨other, hother, -, tmdbId', hid', rfl⟩ := mem_buildFavoriteRows.mp hrow'
      obtain rfl := List.mem_singleton.mp hentry₁
      simp only [FavoriteRow.identity, Prod.mk.injEq, true_and, and_true] at hidentity
      obtain ⟨rfl, hsame⟩ := hidentity
      exact hapart other hother ⟨hname, hsame.symm, tmdbId', hid, hid'⟩

/-! ## Rows that are replaced -/

namespace Favorites

variable {favorites favorites' : Favorites} {config config' : ServiceConfig}
  {rows : List FavoriteRow}

theorem rowsOf_replace (hrows : ∀ row ∈ rows, row.ofServer config) :
    (favorites.replace config rows).map (rowsOf config) =
      if (rows.map FavoriteRow.identity).Nodup then some rows else none := by
  have hkept : (favorites.rows.filter (!·.ofServer config)).filter (·.ofServer config) = [] := by
    simp
  have hnew : rows.filter (·.ofServer config) = rows := List.filter_eq_self.mpr hrows
  have hunique : ((favorites.rows.filter (!·.ofServer config) ++ rows).map
      FavoriteRow.identity).Nodup ↔ (rows.map FavoriteRow.identity).Nodup := by
    rw [List.map_append, List.nodup_append']
    refine ⟨fun h => h.2.1, fun h => ⟨?_, h, ?_⟩⟩
    · exact favorites.identities_nodup.sublist (List.filter_sublist.map _)
    · intro identity hold hadded
      obtain ⟨row, hrow, rfl⟩ := List.mem_map.mp hold
      obtain ⟨row', hrow', hidentity⟩ := List.mem_map.mp hadded
      have hother := (List.mem_filter.mp hrow).2
      have hown := hrows row' hrow'
      simp only [FavoriteRow.identity, Prod.mk.injEq] at hidentity
      simp only [FavoriteRow.ofServer, hidentity.2.2.2.1, hidentity.2.2.2.2] at hown
      simp [FavoriteRow.ofServer, hown] at hother
  unfold replace
  by_cases hnodup : (rows.map FavoriteRow.identity).Nodup
  · rw [dif_pos (hunique.mpr hnodup), if_pos hnodup, Option.map_some, rowsOf, List.filter_append,
      hkept, hnew, List.nil_append]
  · rw [dif_neg (mt hunique.mp hnodup), if_neg hnodup, Option.map_none]

/-- Rows that are not the server's are left alone. -/
theorem filter_replace {p : FavoriteRow → Bool} (hp : ∀ row, row.ofServer config → p row = false)
    (hrows : ∀ row ∈ rows, row.ofServer config)
    (h : favorites.replace config rows = some favorites') :
    favorites'.rows.filter p = favorites.rows.filter p := by
  unfold replace at h
  split_ifs at h with hnodup
  obtain rfl := Option.some.inj h
  have hnew : rows.filter p = [] :=
    List.filter_eq_nil_iff.mpr fun row hrow => by simp [hp row (hrows row hrow)]
  rw [List.filter_append, hnew, List.append_nil, List.filter_filter]
  refine List.filter_congr fun row _ => ?_
  cases hserver : row.ofServer config
  · simp
  · simp [hp row hserver]

theorem mem_rowsOf {row : FavoriteRow} :
    row ∈ favorites.rowsOf config ↔ row ∈ favorites.rows ∧ row.ofServer config = true :=
  List.mem_filter

theorem nodup_identities_rowsOf :
    ((favorites.rowsOf config).map FavoriteRow.identity).Nodup :=
  favorites.identities_nodup.sublist (List.filter_sublist.map _)

end Favorites

/-! ## Fetched favorites and failed users -/

variable (world) in
/-- What was read of some identities' watchlists. -/
def watched (identities : List MediaUserIdentity) (mediaType : MediaType) :
    List (String × TmdbIds) :=
  identities.filterMap fun identity =>
    (attempt world identity).bind fun tried => tried.2.map fun watchlist =>
      (tried.1, watchlist mediaType)

variable (world) in
/-- The users and titles that were read of a server; no user of a server that failed. -/
def listed (config : ServiceConfig) (mediaType : MediaType) : List (String × TmdbIds) :=
  if config.serviceType = .plex then
    watched world (linkedIdentities world config) mediaType
  else
    match fetchedMaps world config with
    | none => []
    | some maps =>
      match mediaType with
      | .movie => maps.1.entries
      | .series => maps.2.entries

variable (world) in
/-- The fetch for a user failed: the server's, or a watchlist of a Plex user of that name. -/
def Failed (config : ServiceConfig) (name : String) : Prop :=
  if config.serviceType = .plex then
    ∃ identity ∈ linkedIdentities world config, ∃ username,
      attempt world identity = some (username, none) ∧ normalizeUsername world username = name
  else fetchedMaps world config = none

variable (world) in
/-- Every fetch for a user, and for a Plex user at least one, succeeded. -/
def Succeeded (config : ServiceConfig) (name : String) : Prop :=
  ¬Failed world config name ∧ (config.serviceType = .plex →
    ∃ identity ∈ linkedIdentities world config, ∃ username watchlist,
      attempt world identity = some (username, some watchlist) ∧
        normalizeUsername world username = name)

variable (world) in
def Fetched (config : ServiceConfig) (mediaType : MediaType) (tmdbId : Nat) (name : String) :
    Prop :=
  name ≠ "" ∧ ∃ entry ∈ listed world config mediaType,
    normalizeUsername world entry.1 = name ∧ tmdbId ∈ entry.2.val

variable (world) in
/-- The rows of all that was read of a server. -/
def freshRows (config : ServiceConfig) : List FavoriteRow :=
  buildFavoriteRows world .movie config.serviceType config.id (listed world config .movie) ++
    buildFavoriteRows world .series config.serviceType config.id (listed world config .series)

theorem ofServer_of_mem_freshRows {config : ServiceConfig} {row : FavoriteRow}
    (h : row ∈ freshRows world config) : row.ofServer config := by
  rcases List.mem_append.mp h with h | h <;>
  · obtain ⟨_, _, _, _, _, rfl⟩ := mem_buildFavoriteRows.mp h
    simp [FavoriteRow.ofServer]

theorem exists_mem_freshRows {config : ServiceConfig} {mediaType : MediaType} {tmdbId : Nat}
    {name : String} :
    (∃ row ∈ freshRows world config, row.mediaType = mediaType ∧ row.tmdbId = tmdbId ∧
      row.usernameNormalized = name) ↔ Fetched world config mediaType tmdbId name := by
  constructor
  · rintro ⟨row, hrow, rfl, rfl, rfl⟩
    rcases List.mem_append.mp hrow with hrow | hrow <;>
    · obtain ⟨entry, hentry, hname, id, hid, rfl⟩ := mem_buildFavoriteRows.mp hrow
      exact ⟨hname, entry, hentry, rfl, hid⟩
  · rintro ⟨hname, entry, hentry, rfl, hid⟩
    refine ⟨{ mediaType, tmdbId, username := strip entry.1
              usernameNormalized := normalizeUsername world entry.1
              sourceService := config.serviceType, sourceServiceConfigId := config.id },
      ?_, rfl, rfl, rfl⟩
    cases mediaType
    · exact List.mem_append_left _ (mem_buildFavoriteRows.mpr ⟨entry, hentry, hname, _, hid, rfl⟩)
    · exact List.mem_append_right _ (mem_buildFavoriteRows.mpr ⟨entry, hentry, hname, _, hid, rfl⟩)

theorem nodup_identities_freshRows {config : ServiceConfig} :
    ((freshRows world config).map FavoriteRow.identity).Nodup ↔
      ∀ mediaType, (listed world config mediaType).Pairwise fun a b => ¬SharesTitle world a b := by
  rw [freshRows, List.map_append, List.nodup_append', nodup_identities_buildFavoriteRows,
    nodup_identities_buildFavoriteRows]
  constructor
  · rintro ⟨hmovies, hseries, -⟩ mediaType
    cases mediaType
    · exact hmovies
    · exact hseries
  · intro h
    refine ⟨h .movie, h .series, ?_⟩
    intro identity hmovie hseries
    obtain ⟨row, hrow, rfl⟩ := List.mem_map.mp hmovie
    obtain ⟨row', hrow', hidentity⟩ := List.mem_map.mp hseries
    obtain ⟨_, _, _, _, _, rfl⟩ := mem_buildFavoriteRows.mp hrow
    obtain ⟨_, _, _, _, _, rfl⟩ := mem_buildFavoriteRows.mp hrow'
    simp [FavoriteRow.identity] at hidentity

/-! ## What a turn makes of a server's rows -/

section Gathering

variable {config : ServiceConfig} {identities : List MediaUserIdentity}

theorem rows_gatherIdentity {gathered : Gathered} {identity : MediaUserIdentity} :
    (gatherIdentity world config gathered identity).rows = gathered.rows ++
      buildFavoriteRows world .movie .plex config.id (watched world [identity] .movie) ++
      buildFavoriteRows world .series .plex config.id (watched world [identity] .series) := by
  unfold gatherIdentity
  simp only [watched, List.filterMap_cons, List.filterMap_nil]
  rcases attempt world identity with _ | ⟨username, _ | watchlist⟩ <;> simp [buildFavoriteRows]

theorem mem_failedUsernames_gatherIdentity {gathered : Gathered} {identity : MediaUserIdentity}
    {name : String} :
    name ∈ (gatherIdentity world config gathered identity).failedUsernames ↔
      name ∈ gathered.failedUsernames ∨ ∃ username,
        attempt world identity = some (username, none) ∧
          normalizeUsername world username = name := by
  unfold gatherIdentity
  rcases attempt world identity with _ | ⟨username, _ | watchlist⟩
  · simp
  · simp [or_comm, @eq_comm _ name]
  · simp

theorem successfulUsers_gatherIdentity {gathered : Gathered} {identity : MediaUserIdentity} :
    (gatherIdentity world config gathered identity).successfulUsers ≠ 0 ↔
      gathered.successfulUsers ≠ 0 ∨ ∃ username watchlist,
        attempt world identity = some (username, some watchlist) := by
  unfold gatherIdentity
  rcases attempt world identity with _ | ⟨username, _ | watchlist⟩ <;> simp

theorem watched_concat {identity : MediaUserIdentity} {mediaType : MediaType} :
    watched world (identities ++ [identity]) mediaType =
      watched world identities mediaType ++ watched world [identity] mediaType :=
  List.filterMap_append

theorem buildFavoriteRows_append {mediaType : MediaType} {service : Service} {id : Nat}
    {entries entries' : List (String × TmdbIds)} :
    buildFavoriteRows world mediaType service id (entries ++ entries') =
      buildFavoriteRows world mediaType service id entries ++
        buildFavoriteRows world mediaType service id entries' :=
  List.flatMap_append

theorem perm_rows_gathered :
    (identities.foldl (gatherIdentity world config) {}).rows.Perm
      (buildFavoriteRows world .movie .plex config.id (watched world identities .movie) ++
        buildFavoriteRows world .series .plex config.id (watched world identities .series)) := by
  induction identities using List.reverseRecOn with
  | nil => exact List.Perm.refl _
  | append_singleton identities identity ih =>
    rw [List.foldl_concat, rows_gatherIdentity, watched_concat, watched_concat,
      buildFavoriteRows_append, buildFavoriteRows_append]
    refine ((ih.append_right _).append_right _).trans ?_
    simp only [List.append_assoc]
    refine List.Perm.append_left _ ?_
    rw [← List.append_assoc, ← List.append_assoc]
    exact List.perm_append_comm.append_right _

theorem mem_failedUsernames_gathered {name : String} :
    name ∈ (identities.foldl (gatherIdentity world config) {}).failedUsernames ↔
      ∃ identity ∈ identities, ∃ username, attempt world identity = some (username, none) ∧
        normalizeUsername world username = name := by
  induction identities using List.reverseRecOn with
  | nil => simp
  | append_singleton identities identity ih =>
    rw [List.foldl_concat, mem_failedUsernames_gatherIdentity, ih]
    simp [or_and_right, exists_or]

theorem successfulUsers_gathered :
    (identities.foldl (gatherIdentity world config) {}).successfulUsers ≠ 0 ↔
      ∃ identity ∈ identities, ∃ username watchlist,
        attempt world identity = some (username, some watchlist) := by
  induction identities using List.reverseRecOn with
  | nil => simp
  | append_singleton identities identity ih =>
    rw [List.foldl_concat, successfulUsers_gatherIdentity, ih]
    simp [or_and_right, exists_or]

end Gathering

section Turns

variable {config config' : ServiceConfig} {state state' : Favorites × Nat}
  {part : List FavoriteRow}

variable (world) in
/-- The rows with which a turn leaves a server, of those that it had, unless it raises. -/
def renewedRows (config : ServiceConfig) (part : List FavoriteRow) : List FavoriteRow :=
  if config.serviceType = .plex then
    let gathered := (linkedIdentities world config).foldl (gatherIdentity world config) {}
    if gathered.successfulUsers = 0 then
      if gathered.failedUsernames ≠ [] then part else []
    else
      gathered.rows ++ part.filter fun row =>
        gathered.failedUsernames.contains row.usernameNormalized
  else
    match fetchedMaps world config with
    | none => part
    | some maps => builtRows world config maps

variable (world) in
/-- A server that was read leaves what was read, and of a Plex user whose fetch failed the rows
there were; a server that was not read leaves all of its rows, or none without users. -/
theorem renewedRows_cases (config : ServiceConfig) (part : List FavoriteRow) :
    ((∀ mediaType, listed world config mediaType = []) ∧
      (∀ name, ¬Succeeded world config name) ∧
      (renewedRows world config part = part ∨
        renewedRows world config part = [] ∧ ∀ name, ¬Failed world config name)) ∨
    ∃ stale : List FavoriteRow, (renewedRows world config part).Perm
        (freshRows world config ++ stale) ∧ stale.Sublist part ∧
      ∀ row, row ∈ stale ↔ row ∈ part ∧ Failed world config row.usernameNormalized := by
  by_cases hplex : config.serviceType = .plex
  · simp only [renewedRows, listed, Succeeded, Failed, freshRows, hplex, if_true]
    by_cases hsuccess : ∃ identity ∈ linkedIdentities world config, ∃ username watchlist,
        attempt world identity = some (username, some watchlist)
    · right
      rw [if_neg (successfulUsers_gathered.mpr hsuccess)]
      refine ⟨_, perm_rows_gathered.append_right _, List.filter_sublist, fun row => ?_⟩
      rw [List.mem_filter, List.contains_iff_mem, mem_failedUsernames_gathered]
    · left
      have hnone : ∀ identity ∈ linkedIdentities world config,
          attempt world identity = none ∨ ∃ username,
            attempt world identity = some (username, none) := by
        intro identity hidentity
        rcases htried : attempt world identity with _ | ⟨username, _ | watchlist⟩
        · exact Or.inl rfl
        · exact Or.inr ⟨username, rfl⟩
        · exact absurd ⟨identity, hidentity, username, watchlist, htried⟩ hsuccess
      refine ⟨fun mediaType => ?_, fun name h => ?_, ?_⟩
      · refine List.filterMap_eq_nil_iff.mpr fun identity hidentity => ?_
        rcases hnone identity hidentity with h | ⟨username, h⟩ <;> rw [h] <;> rfl
      · obtain ⟨identity, hidentity, username, watchlist, htried, -⟩ := h.2 trivial
        exact hsuccess ⟨identity, hidentity, username, watchlist, htried⟩
      · rw [if_pos (by_contra fun h => hsuccess (successfulUsers_gathered.mp h))]
        split_ifs with hfailed
        · exact Or.inl rfl
        · refine Or.inr ⟨rfl, fun name h => ?_⟩
          exact hfailed (List.ne_nil_of_mem (mem_failedUsernames_gathered.mpr h))
  · simp only [renewedRows, listed, Succeeded, Failed, freshRows, hplex, if_false]
    rcases hmaps : fetchedMaps world config with _ | maps
    · left
      exact ⟨fun _ => rfl, fun _ h => h.1 rfl, Or.inl rfl⟩
    · right
      refine ⟨[], ?_, List.nil_sublist _, fun row => ?_⟩
      · rw [List.append_nil]
        exact List.Perm.refl _
      · simp

theorem ofServer_of_mem_renewedRows (hpart : ∀ row ∈ part, row.ofServer config) :
    ∀ row ∈ renewedRows world config part, row.ofServer config := by
  intro row hrow
  rcases renewedRows_cases world config part with ⟨-, -, hkept | ⟨hgone, -⟩⟩ |
    ⟨stale, hperm, hsub, -⟩
  · exact hpart row (hkept ▸ hrow)
  · rw [hgone] at hrow
    exact absurd hrow List.not_mem_nil
  · rcases List.mem_append.mp (hperm.mem_iff.mp hrow) with hfresh | hstale
    · exact ofServer_of_mem_freshRows hfresh
    · exact hpart row (hsub.subset hstale)

variable (world config state) in
/-- A turn leaves the table alone, or replaces the server's rows. -/
theorem refreshTurn_cases :
    (refreshTurn world config state).map Prod.fst = some state.1 ∧
        renewedRows world config (state.1.rowsOf config) = state.1.rowsOf config ∨
    (refreshTurn world config state).map Prod.fst =
      state.1.replace config (renewedRows world config (state.1.rowsOf config)) := by
  have hmap : ∀ result : Option Favorites,
      ((result.map fun favorites => (favorites, true)).map fun result =>
        (result.1, if result.2 then state.2 + 1 else state.2)).map Prod.fst = result := by
    rintro (_ | favorites) <;> rfl
  unfold refreshTurn renewedRows
  by_cases hplex : config.serviceType = .plex
  · simp only [hplex, if_true, refreshPlexWatchlistSnapshotForConfig]
    by_cases hnone : linkedIdentities world config = []
    · right
      rw [if_pos hnone, hmap, hnone]
      rfl
    · rw [if_neg hnone]
      split_ifs
      · exact Or.inl ⟨rfl, rfl⟩
      · exact Or.inr (hmap _)
      · exact Or.inr (hmap _)
  · simp only [hplex, if_false, refreshServer]
    split
    · exact Or.inl ⟨rfl, rfl⟩
    · exact Or.inr (hmap _)

variable (world) in
def renew (config : ServiceConfig) (part : List FavoriteRow) : Option (List FavoriteRow) :=
  if ((renewedRows world config part).map FavoriteRow.identity).Nodup then
    some (renewedRows world config part)
  else none

theorem rowsOf_refreshTurn :
    (refreshTurn world config state).map (fun state => state.1.rowsOf config) =
      renew world config (state.1.rowsOf config) := by
  have hmap : (refreshTurn world config state).map (fun state => state.1.rowsOf config) =
      ((refreshTurn world config state).map Prod.fst).map (Favorites.rowsOf config) := by
    rw [Option.map_map]
    rfl
  rcases refreshTurn_cases world config state with
    ⟨hsame, hkept⟩ | hreplaced
  · rw [hmap, hsame, renew, hkept, if_pos Favorites.nodup_identities_rowsOf, Option.map_some]
  · rw [hmap, hreplaced, renew]
    exact Favorites.rowsOf_replace
      (ofServer_of_mem_renewedRows fun row hrow => (Favorites.mem_rowsOf.mp hrow).2)

theorem filter_refreshTurn {p : FavoriteRow → Bool}
    (hp : ∀ row, row.ofServer config → p row = false)
    (h : refreshTurn world config state = some state') :
    state'.1.rows.filter p = state.1.rows.filter p := by
  have hfst : (refreshTurn world config state).map Prod.fst = some state'.1 := by rw [h]; rfl
  rcases refreshTurn_cases world config state with
    ⟨hsame, -⟩ | hreplaced
  · rw [hsame] at hfst
    rw [Option.some.inj hfst]
  · exact Favorites.filter_replace hp
      (ofServer_of_mem_renewedRows fun row hrow => (Favorites.mem_rowsOf.mp hrow).2)
      (hreplaced.symm.trans hfst)

end Turns

end MediaMasterr.Snapshots
