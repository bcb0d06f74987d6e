import Mathlib.Data.Int.ConditionallyCompleteOrder
import Mathlib.Order.Lattice.Nat
import Mathlib.Order.WithBot
import MediaMasterr.Playback.History
import MediaMasterr.Snapshots.Favorites

/-! # Watch snapshot

Who has watched what last, per server, user and title and per user and episode. Emby and
Jellyfin are read in full each time. Plex is read from a cursor on: the latest view that was
seen, less a day, and what is read is merged into the stored rows by the latest view; every
seven days, or without a cursor, it is read in full as well. -/

namespace MediaMasterr.Snapshots.WatchUsers

open MediaMasterr.Database MediaMasterr.Foundations MediaMasterr.Foundations.PythonText
open MediaMasterr.Foundations.Refreshes MediaMasterr.Playback

/-! ## Latest views by key -/

/-- The columns of a stored row beside its key; times are instants in microseconds. -/
structure Watched where
  watchUserKey : String
  lastWatchedAt : Int
  playCount : Option Nat := none
  deriving DecidableEq, Repr

section Latest

variable {κ : Type*} [DecidableEq κ]

/-- An item is taken when there is none of its key, or an older one. -/
def keepLatest (merged : Dict κ Watched) (item : κ × Watched) : Dict κ Watched :=
  match merged.get? item.1 with
  | none => merged.set item.1 item.2
  | some current =>
    if current.lastWatchedAt < item.2.lastWatchedAt then merged.set item.1 item.2 else merged

/-- The last view of a key; `⊥` when there is no row. -/
def lastView (rows : Dict κ Watched) (k : κ) : WithBot Int :=
  match rows.get? k with
  | none => ⊥
  | some row => (row.lastWatchedAt : WithBot Int)

variable {rows merged : Dict κ Watched} {items : List (κ × Watched)} {k : κ} {b : WithBot Int}

theorem lastView_of_none (h : rows.get? k = none) : lastView rows k = ⊥ := by
  rw [lastView, h]

theorem lastView_of_some {row : Watched} (h : rows.get? k = some row) :
    lastView rows k = (row.lastWatchedAt : WithBot Int) := by
  rw [lastView, h]

theorem lastView_eq_bot_iff : lastView rows k = ⊥ ↔ k ∉ rows.keys := by
  rw [Dict.mem_keys_iff]
  cases hrow : rows.get? k with
  | none => simp [lastView_of_none hrow]
  | some row => simp [lastView_of_some hrow]

@[simp] theorem lastView_empty : lastView (∅ : Dict κ Watched) k = ⊥ := rfl

theorem lastView_le_iff : lastView rows k ≤ b ↔
    ∀ row, rows.get? k = some row → (row.lastWatchedAt : WithBot Int) ≤ b := by
  cases hrow : rows.get? k with
  | none => simp [lastView_of_none hrow]
  | some row => simp [lastView_of_some hrow]

theorem lastView_set {row : Watched} {k' : κ} : lastView (rows.set k' row) k =
    if k = k' then (row.lastWatchedAt : WithBot Int) else lastView rows k := by
  have hget : (rows.set k' row).get? k = if k = k' then some row else rows.get? k := Dict.get?_set
  by_cases hk : k = k'
  · rw [if_pos hk] at hget ⊢
    exact lastView_of_some hget
  · rw [if_neg hk] at hget ⊢
    rw [lastView, lastView, hget]

theorem lastView_keepLatest {item : κ × Watched} : lastView (keepLatest merged item) k =
    if k = item.1 then lastView merged k ⊔ (item.2.lastWatchedAt : WithBot Int)
    else lastView merged k := by
  unfold keepLatest
  split
  · rename_i hnone
    rw [lastView_set]
    split_ifs with hk
    · rw [hk, lastView_of_none hnone, bot_sup_eq]
    · rfl
  · rename_i current hcurrent
    have hlast := lastView_of_some hcurrent
    split_ifs with hnewer hk hk
    · rw [lastView_set, if_pos hk, hk, hlast]
      exact (sup_eq_right.mpr (WithBot.coe_le_coe.mpr hnewer.le)).symm
    · rw [lastView_set, if_neg hk]
    · rw [hk, hlast]
      exact (sup_eq_left.mpr (WithBot.coe_le_coe.mpr (not_lt.mp hnewer))).symm
    · rfl

theorem lastView_foldl_le_iff : lastView (items.foldl keepLatest merged) k ≤ b ↔
    lastView merged k ≤ b ∧
      ∀ item ∈ items, item.1 = k → (item.2.lastWatchedAt : WithBot Int) ≤ b := by
  induction items generalizing merged with
  | nil => simp
  | cons item items ih =>
    rw [List.foldl_cons, ih, lastView_keepLatest, List.forall_mem_cons]
    split_ifs with hk
    · rw [sup_le_iff, and_assoc]
      simp [hk]
    · simp [Ne.symm hk]

/-- Rows that are merged into the stored ones. -/
def mergeRows (existing rows : Dict κ Watched) : Dict κ Watched :=
  rows.entries.foldl keepLatest existing

theorem lastView_mergeRows {existing : Dict κ Watched} :
    lastView (mergeRows existing rows) k = lastView existing k ⊔ lastView rows k := by
  refine eq_of_forall_ge_iff fun b => ?_
  rw [mergeRows, lastView_foldl_le_iff, sup_le_iff, @lastView_le_iff _ _ rows]
  refine and_congr_right fun _ => ⟨fun h row hrow => ?_, fun h item hitem hkey => ?_⟩
  · exact h (k, row) (Dict.get?_eq_some_iff.mp hrow) rfl
  · subst hkey
    exact h item.2 (Dict.get?_eq_some_iff.mpr hitem)

end Latest

/-! ## Rows of a batch -/

structure MediaWatchSnapshot where
  mediaType : MediaType
  tmdbId : Nat
  watchUserKey : String
  lastWatchedAt : Int
  playCount : Option Nat := none
  sourceItemId : Option String := none
  deriving DecidableEq, Repr

/-- Media type, TMDB id and normalized user. -/
abbrev WatchKey := MediaType × Nat × String

/-- TMDB id of the series, season number, episode number and normalized user. -/
abbrev EpisodeKey := Nat × Nat × Nat × String

variable (tables : CaseTables)

def normalizeUserKey (value : String) : String := tables.lower (strip value)

def MediaWatchSnapshot.watched (snapshot : MediaWatchSnapshot) : Watched where
  watchUserKey := strip snapshot.watchUserKey
  lastWatchedAt := snapshot.lastWatchedAt
  playCount := snapshot.playCount

def watchKey (snapshot : MediaWatchSnapshot) : Option WatchKey :=
  let normalized := normalizeUserKey tables snapshot.watchUserKey
  if normalized = "" then none else some (snapshot.mediaType, snapshot.tmdbId, normalized)

def buildWatchRows (snapshots : List MediaWatchSnapshot) : Dict WatchKey Watched :=
  (snapshots.filterMap fun snapshot =>
    (watchKey tables snapshot).map (·, snapshot.watched)).foldl keepLatest ∅

/-- The column in which a service has its id of an episode. -/
def idColumn (service : Service) (episode : Episode) : Option String :=
  match service with
  | .plex => episode.plexRatingKey
  | .jellyfin => episode.jellyfinEpisodeId
  | .emby => episode.embyEpisodeId
  | _ => none

/-- The episodes of a series that come with an id. -/
def isDetailed (snapshot : MediaWatchSnapshot) : Bool :=
  snapshot.mediaType == .series && snapshot.sourceItemId.getD "" != ""

variable (service : Service) (db : Tables)

/-- Series, season and episode number of some ids. -/
def coordinates (sourceIds : List String) : Dict String (Nat × Nat × Nat) :=
  Dict.build (fun row : (Episode × Season) × Series => idColumn service row.1.1)
    (fun row => (row.2.tmdbId, row.1.2.seasonNumber, row.1.1.episodeNumber))
    ((identityRows db).filter fun row => (idColumn service row.1.1).any sourceIds.contains)

def buildEpisodeWatchRows (snapshots : List MediaWatchSnapshot) : Dict EpisodeKey Watched :=
  let detailed := snapshots.filter isDetailed
  let found := coordinates service db (detailed.map fun snapshot => snapshot.sourceItemId.getD "")
  (detailed.filterMap fun snapshot =>
    (found.get? (snapshot.sourceItemId.getD "")).bind fun coordinate =>
      let normalized := normalizeUserKey tables snapshot.watchUserKey
      if normalized = "" then none
      else some ((coordinate.1, coordinate.2.1, coordinate.2.2, normalized),
        snapshot.watched)).foldl keepLatest ∅

/-- The episode and user of a snapshot, as the tables have the episode. -/
def episodeKey (snapshot : MediaWatchSnapshot) : Option EpisodeKey :=
  if isDetailed snapshot then
    ((identityRows db).reverse.find? fun row =>
        idColumn service row.1.1 = some (snapshot.sourceItemId.getD "")).bind fun row =>
      let normalized := normalizeUserKey tables snapshot.watchUserKey
      if normalized = "" then none
      else some (row.2.tmdbId, row.1.2.seasonNumber, row.1.1.episodeNumber, normalized)
  else none

variable {tables service db} {snapshots : List MediaWatchSnapshot} {snapshot : MediaWatchSnapshot}

theorem lastView_buildWatchRows_le_iff {k : WatchKey} {b : WithBot Int} :
    lastView (buildWatchRows tables snapshots) k ≤ b ↔
      ∀ snapshot ∈ snapshots, watchKey tables snapshot = some k →
        (snapshot.lastWatchedAt : WithBot Int) ≤ b := by
  rw [buildWatchRows, lastView_foldl_le_iff, lastView_empty, and_iff_right bot_le]
  constructor
  · intro h snapshot hmem hkey
    exact h (k, snapshot.watched) (List.mem_filterMap.mpr ⟨snapshot, hmem, by simp [hkey]⟩) rfl
  · rintro h item hitem rfl
    obtain ⟨snapshot, hmem, hitem⟩ := List.mem_filterMap.mp hitem
    obtain ⟨k, hkey, rfl⟩ := Option.map_eq_some_iff.mp hitem
    exact h snapshot hmem hkey

theorem get?_coordinates {sourceIds : List String} {id : String} (hid : id ∈ sourceIds) :
    (coordinates service db sourceIds).get? id =
      ((identityRows db).reverse.find? fun row => idColumn service row.1.1 = some id).map
        fun row => (row.2.tmdbId, row.1.2.seasonNumber, row.1.1.episodeNumber) := by
  rw [coordinates, Dict.get?_build, ← List.filter_reverse, List.find?_filter]
  refine congrArg (Option.map _) (congrArg (List.find? · _) ?_)
  funext row
  by_cases hrow : idColumn service row.1.1 = some id
  · simp [hrow, hid]
  · simp [hrow]

theorem lastView_buildEpisodeWatchRows_le_iff {k : EpisodeKey} {b : WithBot Int} :
    lastView (buildEpisodeWatchRows tables service db snapshots) k ≤ b ↔
      ∀ snapshot ∈ snapshots, episodeKey tables service db snapshot = some k →
        (snapshot.lastWatchedAt : WithBot Int) ≤ b := by
  rw [buildEpisodeWatchRows, lastView_foldl_le_iff, lastView_empty, and_iff_right bot_le]
  have hitem : ∀ snapshot ∈ snapshots.filter isDetailed,
      ((coordinates service db ((snapshots.filter isDetailed).map fun snapshot =>
          snapshot.sourceItemId.getD "")).get? (snapshot.sourceItemId.getD "")).bind
        (fun coordinate =>
          let normalized := normalizeUserKey tables snapshot.watchUserKey
          if normalized = "" then none
          else some ((coordinate.1, coordinate.2.1, coordinate.2.2, normalized),
            snapshot.watched)) =
        (episodeKey tables service db snapshot).map (·, snapshot.watched) := by
    intro snapshot hmem
    rw [get?_coordinates (List.mem_map_of_mem hmem), episodeKey,
      if_pos (List.mem_filter.mp hmem).2]
    rcases (identityRows db).reverse.find? _ with _ | row
    · rfl
    · simp only [Option.map_some, Option.bind_some]
      split_ifs <;> rfl
  constructor
  · intro h snapshot hmem hkey
    have hdetailed : isDetailed snapshot := by
      by_contra hno
      rw [episodeKey, if_neg hno] at hkey
      cases hkey
    have hmem' := List.mem_filter.mpr ⟨hmem, hdetailed⟩
    exact h (k, snapshot.watched) (List.mem_filterMap.mpr
      ⟨snapshot, hmem', by rw [hitem snapshot hmem', hkey]; rfl⟩) rfl
  · rintro h item hmem' rfl
    obtain ⟨snapshot, hmem, hsnapshot⟩ := List.mem_filterMap.mp hmem'
    rw [hitem snapshot hmem] at hsnapshot
    obtain ⟨k, hkey, rfl⟩ := Option.map_eq_some_iff.mp hsnapshot
    exact h snapshot (List.mem_filter.mp hmem).1 hkey

/-! ## One server -/

/-- What is kept in the settings of a Plex server under `watch_snapshot_sync`. -/
structure SyncState where
  plexLastViewedAt : Option Int := none
  plexLastFullSyncAt : Option Int := none
  formatVersion : Option Nat := none
  deriving DecidableEq, Repr

/-- The rows of a server in both tables, and its sync state. -/
structure ServerState where
  watchUsers : Dict WatchKey Watched := ∅
  watchUserEpisodes : Dict EpisodeKey Watched := ∅
  syncState : SyncState := {}

/-- A day in microseconds, the overlap window. -/
def plexOverlapWindow : Int := 86400000000

def plexFullRebuildInterval : Int := 7 * plexOverlapWindow

/-- `_plex_sync_state_requires_full_rebuild`. -/
def SyncState.requiresFullRebuild (state : SyncState) (now : Int) : Bool :=
  state.formatVersion != some 3 || state.plexLastViewedAt.isNone ||
    state.plexLastFullSyncAt.all (· + plexFullRebuildInterval ≤ now)

/-- `history_cutoff`; a full rebuild has none. -/
def SyncState.historyCutoff (state : SyncState) (now : Int) : Option Int :=
  if state.requiresFullRebuild now then none
  else state.plexLastViewedAt.map (· - plexOverlapWindow)

/-- The state that goes with what was read, of which the latest view is given. -/
def SyncState.next (state : SyncState) (now : Int) (maxViewedAt : Option Int) : SyncState where
  plexLastViewedAt :=
    match maxViewedAt with
    | none => state.plexLastViewedAt
    | some viewed =>
      if state.plexLastViewedAt.all (· < viewed) then some viewed else state.plexLastViewedAt
  plexLastFullSyncAt :=
    if state.requiresFullRebuild now then some now else state.plexLastFullSyncAt
  formatVersion := if state.requiresFullRebuild now then some 3 else state.formatVersion

/-- A view in Plex, and when the server's history starts to list it: within a day. -/
structure PlexEvent where
  snapshot : MediaWatchSnapshot
  visibleAt : Int
  viewed_le : snapshot.lastWatchedAt ≤ visibleAt
  visible_le : visibleAt ≤ snapshot.lastWatchedAt + plexOverlapWindow

abbrev PlexEvent.viewedAt (event : PlexEvent) : Int := event.snapshot.lastWatchedAt

/-- The events that are listed at a time. -/
def visible (history : List PlexEvent) (now : Int) : List PlexEvent :=
  history.filter (·.visibleAt ≤ now)

/-- What the history answers: the listed events at or after the cutoff. -/
def fetched (history : List PlexEvent) (now : Int) (cutoff : Option Int) : List PlexEvent :=
  (visible history now).filter fun event => cutoff.all (· ≤ event.viewedAt)

variable (tables db)

/-- The turn of a Plex server. -/
def refreshPlex (history : List PlexEvent) (now : Int) (server : ServerState) : ServerState :=
  let events := fetched history now (server.syncState.historyCutoff now)
  let rows := buildWatchRows tables (events.map PlexEvent.snapshot)
  let episodeRows := buildEpisodeWatchRows tables .plex db (events.map PlexEvent.snapshot)
  if server.syncState.requiresFullRebuild now then
    { watchUsers := rows
      watchUserEpisodes := episodeRows
      syncState := server.syncState.next now (events.map PlexEvent.viewedAt).max? }
  else
    { watchUsers :=
        if rows.entries.isEmpty then server.watchUsers else mergeRows server.watchUsers rows
      watchUserEpisodes :=
        if episodeRows.entries.isEmpty then server.watchUserEpisodes
        else mergeRows server.watchUserEpisodes episodeRows
      syncState := server.syncState.next now (events.map PlexEvent.viewedAt).max? }

/-- The turn of an Emby or Jellyfin server. -/
def refreshInFull (service : Service) (snapshots : List MediaWatchSnapshot)
    (server : ServerState) : ServerState :=
  { server with
    watchUsers := buildWatchRows tables snapshots
    watchUserEpisodes := buildEpisodeWatchRows tables service db snapshots }

/-! ## All servers -/

/-- The service and id by which the rows of a server are known. -/
abbrev ServerKey := Service × Nat

def serverKey (config : ServiceConfig) : ServerKey := (config.serviceType, config.id)

/-- What a call of the refresh meets: the servers it is for, the services with a client, the
servers whose fetch or whose commit raises, and what Emby and Jellyfin servers answer. -/
structure WatchCall where
  servers : ConfiguredServers
  hasClient : Service → Bool := fun _ => true
  fetchRaises : ServiceConfig → Bool := fun _ => false
  commitRaises : ServiceConfig → Bool := fun _ => false
  snapshots : ServiceConfig → List MediaWatchSnapshot := fun _ => []

def WatchCall.supported (call : WatchCall) : List ServiceConfig :=
  call.servers.configs.filter fun config =>
    config.serviceType == .plex || config.serviceType == .jellyfin || config.serviceType == .emby

variable (histories : ServerKey → List PlexEvent) (now : Int) (call : WatchCall)

/-- A server's turn, and whether it counts as refreshed. -/
def refreshServer (config : ServiceConfig) (server : ServerState) : Option (ServerState × Bool) :=
  if !call.hasClient config.serviceType || call.fetchRaises config then some (server, false)
  else if call.commitRaises config then none
  else if config.serviceType = .plex then
    some (refreshPlex tables db (histories (serverKey config)) now server, true)
  else some (refreshInFull tables db config.serviceType (call.snapshots config) server, true)

/-- All servers, and those that have been refreshed. -/
abbrev Refreshed := (ServerKey → ServerState) × List ServerKey

def refreshTurn (config : ServiceConfig) (state : Refreshed) : Option Refreshed :=
  (refreshServer tables db histories now call config (state.1 (serverKey config))).map fun result =>
    (Function.update state.1 (serverKey config) result.1,
      if result.2 then state.2 ++ [serverKey config] else state.2)

/-- The rows of all servers are deleted; their settings stay. -/
def deleteAll (servers : ServerKey → ServerState) : ServerKey → ServerState := fun key =>
  { syncState := (servers key).syncState }

/-- The servers afterwards, those that have been refreshed, and whether the call reports success. -/
def refreshSnapshot (servers : ServerKey → ServerState) : Refreshed × Bool :=
  if call.supported = [] then ((deleteAll servers, []), true)
  else
    let run := refreshAll (refreshTurn tables db histories now call) call.supported (servers, [])
    (run.1, run.2 && !run.1.2.isEmpty)

section Turns

variable {tables db histories now call} {key : ServerKey} {servers : ServerKey → ServerState}
  {config : ServiceConfig} {pre post : List ServiceConfig}

/-- A server that has a turn is read and stored. -/
def Reads (call : WatchCall) (config : ServiceConfig) : Prop :=
  call.hasClient config.serviceType = true ∧ call.fetchRaises config = false ∧
    call.commitRaises config = false

/-- Nothing raises in the turn of a server. -/
def Completes (call : WatchCall) (config : ServiceConfig) : Prop :=
  call.hasClient config.serviceType = true → call.fetchRaises config = false →
    call.commitRaises config = false

instance : Decidable (Reads call config) := inferInstanceAs (Decidable (_ ∧ _))

instance : Decidable (Completes call config) := inferInstanceAs (Decidable (_ → _))

/-- The server is read, and no server before it raises. -/
def IsRefreshed (call : WatchCall) (key : ServerKey) : Prop :=
  (∃ config ∈ call.supported, serverKey config = key ∧ Reads call config) ∧
    ∀ config ∈ call.supported.takeWhile (serverKey · != key), Completes call config

instance : Decidable (IsRefreshed call key) := inferInstanceAs (Decidable (_ ∧ _))

theorem isSome_refreshServer_iff {server : ServerState} :
    (refreshServer tables db histories now call config server).isSome ↔ Completes call config := by
  unfold refreshServer Completes
  cases call.hasClient config.serviceType <;> cases call.fetchRaises config <;>
    cases call.commitRaises config <;> simp
  all_goals split_ifs <;> simp

theorem refreshServer_of_reads (hplex : config.serviceType = .plex) (h : Reads call config)
    {server : ServerState} : refreshServer tables db histories now call config server =
      some (refreshPlex tables db (histories (serverKey config)) now server, true) := by
  unfold refreshServer
  rw [h.1, h.2.1, h.2.2]
  simp [hplex]

theorem refreshServer_of_not_reads (h : ¬Reads call config) {server : ServerState} :
    refreshServer tables db histories now call config server = some (server, false) ∨
      refreshServer tables db histories now call config server = none := by
  unfold refreshServer
  unfold Reads at h
  split_ifs with hskip hcommit
  · exact Or.inl rfl
  · exact Or.inr rfl
  · simp_all
  · simp_all

theorem pairwise_serverKey_supported :
    call.supported.Pairwise fun a b => serverKey a ≠ serverKey b := by
  refine ((List.pairwise_map.mp call.servers.ids_nodup).filter _).imp fun hid hkey => hid ?_
  exact congrArg Prod.snd hkey

/-- A server's state and whether it has been refreshed. -/
def part (config : ServiceConfig) (state : Refreshed) : ServerState × Bool :=
  (state.1 (serverKey config), state.2.contains (serverKey config))

variable (tables db histories now call) in
/-- What a turn makes of the server's own part. -/
def renewPart (config : ServiceConfig) (own : ServerState × Bool) : Option (ServerState × Bool) :=
  (refreshServer tables db histories now call config own.1).map fun result =>
    (result.1, result.2 || own.2)

theorem part_refreshTurn (config : ServiceConfig) (state : Refreshed) :
    (refreshTurn tables db histories now call config state).map (part config) =
      renewPart tables db histories now call config (part config state) := by
  unfold refreshTurn renewPart part
  rw [Option.map_map]
  refine congrArg (Option.map · _) ?_
  funext result
  rcases result with ⟨server, _ | _⟩ <;> simp

theorem foreign_refreshTurn {config' : ServiceConfig} (h : serverKey config ≠ serverKey config') :
    Foreign (refreshTurn tables db histories now call) part config config' := by
  intro state state' hturn
  obtain ⟨result, -, rfl⟩ := Option.map_eq_some_iff.mp hturn
  simp only [part, Function.update_of_ne (Ne.symm h)]
  split_ifs <;> simp [Ne.symm h]

variable (tables db histories now servers) in
theorem part_run (hsplit : call.supported = pre ++ config :: post) :
    part config (refreshAll (refreshTurn tables db histories now call) call.supported
        (servers, [])).1 =
      if ∀ config' ∈ pre, Completes call config' then
        ((refreshServer tables db histories now call config (servers (serverKey config))).getD
          (servers (serverKey config), false))
      else (servers (serverKey config), false) := by
  have hforeign : (pre ++ config :: post).Pairwise fun a b =>
      Foreign (refreshTurn tables db histories now call) part a b ∧
      Foreign (refreshTurn tables db histories now call) part b a := by
    rw [← hsplit]
    exact pairwise_serverKey_supported.imp fun h =>
      ⟨foreign_refreshTurn h, foreign_refreshTurn (Ne.symm h)⟩
  have hpart : ∀ config, part config (servers, []) = (servers (serverKey config), false) := by
    intro config
    simp [part]
  rw [hsplit, part_refreshAll part_refreshTurn hforeign]
  simp only [hpart, renewPart, Option.isSome_map, isSome_refreshServer_iff, Bool.or_false]
  split_ifs
  · rcases refreshServer tables db histories now call config (servers (serverKey config)) with
      _ | result <;> rfl
  · rfl

theorem eq_of_serverKey_eq {config' : ServiceConfig} (h : config ∈ call.supported)
    (h' : config' ∈ call.supported) (hkey : serverKey config' = serverKey config) :
    config' = config :=
  List.inj_on_of_nodup_map call.servers.ids_nodup (List.mem_filter.mp h').1 (List.mem_filter.mp h).1
    (congrArg Prod.snd hkey)

/-- The servers up to one of them. -/
theorem exists_split_supported (h : config ∈ call.supported) : ∃ post, call.supported =
    call.supported.takeWhile (serverKey · != serverKey config) ++ config :: post := by
  cases hrest : call.supported.dropWhile (serverKey · != serverKey config) with
  | nil =>
    have hall := List.dropWhile_eq_nil_iff.mp hrest config h
    simp at hall
  | cons first post =>
    have hhead := List.head?_dropWhile_not (serverKey · != serverKey config) call.supported
    have hmem : first ∈ call.supported :=
      (List.dropWhile_sublist _).subset (hrest ▸ List.mem_cons_self)
    rw [hrest] at hhead
    obtain rfl : first = config := eq_of_serverKey_eq h hmem (by simpa using hhead)
    exact ⟨post, by rw [← hrest, List.takeWhile_append_dropWhile]⟩

theorem isRefreshed_serverKey_iff (h : config ∈ call.supported) :
    IsRefreshed call (serverKey config) ↔ Reads call config ∧
      ∀ config' ∈ call.supported.takeWhile (serverKey · != serverKey config),
        Completes call config' := by
  refine and_congr_left fun _ => ⟨?_, fun hreads => ⟨config, h, rfl, hreads⟩⟩
  rintro ⟨config', hconfig', hkey, hreads⟩
  exact eq_of_serverKey_eq h hconfig' hkey ▸ hreads

variable (tables db histories now servers) in
/-- A Plex server's part of a run. -/
theorem part_run_cases (h : config ∈ call.supported) (hplex : config.serviceType = .plex) :
    part config (refreshAll (refreshTurn tables db histories now call) call.supported
        (servers, [])).1 =
      if IsRefreshed call (serverKey config) then
        (refreshPlex tables db (histories (serverKey config)) now (servers (serverKey config)),
          true)
      else (servers (serverKey config), false) := by
  obtain ⟨post, hsplit⟩ := exists_split_supported h
  rw [part_run tables db histories now servers hsplit]
  simp only [isRefreshed_serverKey_iff h]
  by_cases hpre : ∀ config' ∈ call.supported.takeWhile (serverKey · != serverKey config),
      Completes call config'
  · rw [if_pos hpre]
    by_cases hreads : Reads call config
    · rw [if_pos ⟨hreads, hpre⟩, refreshServer_of_reads hplex hreads, Option.getD_some]
    · rw [if_neg fun h => hreads h.1]
      rcases refreshServer_of_not_reads hreads with hsame | hraised
      · rw [hsame, Option.getD_some]
      · rw [hraised, Option.getD_none]
  · rw [if_neg hpre, if_neg fun h => hpre h.2]

variable (tables db histories now servers) in
/-- A Plex server after a call for which there are servers. -/
theorem refreshSnapshot_spec (hsupported : call.supported ≠ []) (hplex : key.1 = .plex) :
    (key ∈ (refreshSnapshot tables db histories now call servers).1.2 ↔ IsRefreshed call key) ∧
      (refreshSnapshot tables db histories now call servers).1.1 key =
        if IsRefreshed call key then refreshPlex tables db (histories key) now (servers key)
        else servers key := by
  rw [refreshSnapshot, if_neg hsupported]
  by_cases hmem : ∃ config ∈ call.supported, serverKey config = key
  · obtain ⟨config, hconfig, rfl⟩ := hmem
    have hpart := part_run_cases tables db histories now servers hconfig hplex
    by_cases hrefreshed : IsRefreshed call (serverKey config)
    · rw [if_pos hrefreshed] at hpart ⊢
      refine ⟨iff_of_true ?_ hrefreshed, congrArg Prod.fst hpart⟩
      exact List.contains_iff_mem.mp (congrArg Prod.snd hpart)
    · rw [if_neg hrefreshed] at hpart ⊢
      refine ⟨iff_of_false (fun hin => ?_) hrefreshed, congrArg Prod.fst hpart⟩
      exact Bool.noConfusion ((List.contains_iff_mem.mpr hin).symm.trans (congrArg Prod.snd hpart))
  · have hother : ∀ config ∈ call.supported, serverKey config ≠ key := fun config hconfig hkey =>
      hmem ⟨config, hconfig, hkey⟩
    have hrefreshed : ¬IsRefreshed call key := by
      rintro ⟨⟨config, hconfig, hkey, -⟩, -⟩
      exact hother config hconfig hkey
    have hturn : ∀ config ∈ call.supported, ∀ state state' : Refreshed,
        refreshTurn tables db histories now call config state = some state' →
          (state'.1 key, state'.2.contains key) = (state.1 key, state.2.contains key) := by
      intro config hconfig state state' hturn
      obtain ⟨result, -, rfl⟩ := Option.map_eq_some_iff.mp hturn
      have hne := Ne.symm (hother config hconfig)
      simp only [Function.update_of_ne hne]
      split_ifs <;> simp [hne]
    have hkept := refreshAll_keeps (f := fun state : Refreshed =>
      (state.1 key, state.2.contains key)) (s := (servers, [])) hturn
    rw [if_neg hrefreshed]
    refine ⟨iff_of_false (fun hin => ?_) hrefreshed, congrArg Prod.fst hkept⟩
    exact Bool.noConfusion ((List.contains_iff_mem.mpr hin).symm.trans (congrArg Prod.snd hkept))

end Turns

end MediaMasterr.Snapshots.WatchUsers
