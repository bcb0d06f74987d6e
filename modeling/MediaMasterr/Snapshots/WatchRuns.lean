import MediaMasterr.Foundations.Runs
import MediaMasterr.Snapshots.WatchUsers

/-! # Runs of watch refreshes

Calls of the refresh, any of which may fail, with changes of the episodes in between. A view
is listed within a day of its time, which is the overlap with which a Plex server is read, so
no view of a title is missed. A view of an episode is: an episode that becomes known when the
view lies before the cutoff, or that is known under other numbers, is only seen by the next
full rebuild. A call without any server deletes all rows but keeps the cursors, and the views
before a cursor stay lost as long. -/

namespace MediaMasterr.Snapshots.WatchUsers

open MediaMasterr.Database MediaMasterr.Foundations MediaMasterr.Foundations.PythonText

variable (tables : CaseTables) (histories : ServerKey → List PlexEvent)

structure WatchState where
  clock : Int
  db : Tables
  servers : ServerKey → ServerState
  /-- The tables and the time of the last refresh of a server; no code reads it. -/
  lastRefresh : ServerKey → Option (Tables × Int)

inductive WatchEvent where
  | refresh (elapsed : Nat) (call : WatchCall)
  | episodes (db : Tables)

namespace WatchState

/-- Nothing has been refreshed yet. -/
def start (clock : Int) (db : Tables) : WatchState where
  clock := clock
  db := db
  servers := fun _ => {}
  lastRefresh := fun _ => none

/-- A call some time after the last event. -/
def afterCall (state : WatchState) (elapsed : Nat) (call : WatchCall) : Refreshed :=
  (refreshSnapshot tables state.db histories (state.clock + elapsed) call state.servers).1

def step (state : WatchState) (event : WatchEvent) : WatchState :=
  match event with
  | .refresh elapsed call =>
    { clock := state.clock + elapsed
      db := state.db
      servers := (state.afterCall tables histories elapsed call).1
      lastRefresh := fun key =>
        if (state.afterCall tables histories elapsed call).2.contains key then
          some (state.db, state.clock + elapsed)
        else state.lastRefresh key }
  | .episodes db => { state with db }

variable {tables histories}

theorem lastRefresh_step_refresh {state : WatchState} {elapsed : Nat} {call : WatchCall}
    {key : ServerKey} : (state.step tables histories (.refresh elapsed call)).lastRefresh key =
      if (state.afterCall tables histories elapsed call).2.contains key then
        some (state.db, state.clock + elapsed)
      else state.lastRefresh key := rfl

end WatchState

/-! ## What is asked -/

/-- The stored last views are those that a full rebuild would store. -/
def MatchesRebuild (db : Tables) (history : List PlexEvent) (now : Int) (server : ServerState) :
    Prop :=
  (∀ k, lastView server.watchUsers k =
    lastView (buildWatchRows tables ((visible history now).map PlexEvent.snapshot)) k) ∧
  ∀ k, lastView server.watchUserEpisodes k =
    lastView (buildEpisodeWatchRows tables .plex db
      ((visible history now).map PlexEvent.snapshot)) k

/-- No stored entry is lost. -/
def LosesNothing (before after : ServerState) : Prop :=
  (∀ k ∈ before.watchUsers.keys, k ∈ after.watchUsers.keys) ∧
    ∀ k ∈ before.watchUserEpisodes.keys, k ∈ after.watchUserEpisodes.keys

/-- The episodes that views belong to, between the last refresh of a server and one that reads it
from a cutoff on. -/
structure Steady (history : List PlexEvent) (db' : Tables) (before : Int) (db : Tables)
    (now : Int) (cutoff : Option Int) : Prop where
  /-- What was stored for an episode and user is borne out by a view that belongs there now. -/
  kept : ∀ event ∈ visible history before, ∀ k,
    episodeKey tables .plex db' event.snapshot = some k →
      ∃ other ∈ visible history now, episodeKey tables .plex db other.snapshot = some k ∧
        (cutoff.isSome → event.viewedAt ≤ other.viewedAt)
  /-- A view before the cutoff was stored, or there is one to read for the same episode and
  user. -/
  found : ∀ cut, cutoff = some cut → ∀ event ∈ visible history now, event.viewedAt < cut → ∀ k,
    episodeKey tables .plex db event.snapshot = some k →
      (∃ other ∈ visible history before, episodeKey tables .plex db' other.snapshot = some k ∧
        event.viewedAt ≤ other.viewedAt) ∨
      ∃ other ∈ visible history now, episodeKey tables .plex db other.snapshot = some k ∧
        cut ≤ other.viewedAt

/-- An event loses no entry of a server, and a call that refreshes the server stores what a full
rebuild would. -/
def EventMatches (key : ServerKey) (state : WatchState) (event : WatchEvent) : Prop :=
  LosesNothing (state.servers key) ((state.step tables histories event).servers key) ∧
    ∀ elapsed call, event = .refresh elapsed call →
      key ∈ (state.afterCall tables histories elapsed call).2 →
        MatchesRebuild tables state.db (histories key) (state.clock + elapsed)
          ((state.step tables histories event).servers key)

/-- Every event of a run does. -/
def RunMatches (key : ServerKey) (state : WatchState) (events : List WatchEvent) : Prop :=
  ∀ pre event post, events = pre ++ event :: post →
    EventMatches tables histories key (pre.foldl (WatchState.step tables histories) state) event

/-- A call without servers finds nothing stored of the server, and a call that refreshes it finds
the views of episodes where they were. -/
def SteadyEvent (key : ServerKey) (state : WatchState) : WatchEvent → Prop
  | .refresh elapsed call =>
    (call.supported = [] → (state.servers key).watchUsers.entries = [] ∧
      (state.servers key).watchUserEpisodes.entries = []) ∧
    (IsRefreshed call key → ∀ last, state.lastRefresh key = some last →
      Steady tables (histories key) last.1 last.2 state.db (state.clock + elapsed)
        ((state.servers key).syncState.historyCutoff (state.clock + elapsed)))
  | .episodes _ => True

variable {tables histories}

/-! ## Listed views -/

section Listed

variable {history : List PlexEvent} {now before : Int} {cutoff : Option Int} {event : PlexEvent}

theorem mem_visible : event ∈ visible history now ↔ event ∈ history ∧ event.visibleAt ≤ now := by
  simp [visible]

theorem mem_fetched : event ∈ fetched history now cutoff ↔
    event ∈ visible history now ∧ ∀ cut, cutoff = some cut → cut ≤ event.viewedAt := by
  rw [fetched, List.mem_filter]
  cases cutoff <;> simp

theorem visible_mono (h : before ≤ now) (hevent : event ∈ visible history before) :
    event ∈ visible history now := by
  rw [mem_visible] at hevent ⊢
  exact ⟨hevent.1, hevent.2.trans h⟩

theorem viewedAt_le (h : event ∈ visible history now) : event.viewedAt ≤ now :=
  event.viewed_le.trans (mem_visible.mp h).2

/-- A view that lies before the overlap was listed by the time of the cursor. -/
theorem mem_visible_of_lt (h : event ∈ visible history now) {cut : Int}
    (hcut : cut ≤ before - plexOverlapWindow) (hviewed : event.viewedAt < cut) :
    event ∈ visible history before := by
  rw [mem_visible] at h ⊢
  have hlisted := event.visible_le
  have hviewed : event.snapshot.lastWatchedAt < cut := hviewed
  exact ⟨h.1, by omega⟩

/-- Episodes that have not changed are steady. -/
theorem steady_of_unchanged (db : Tables) (hbefore : before ≤ now)
    (hcutoff : ∀ cut, cutoff = some cut → cut ≤ before - plexOverlapWindow) :
    Steady tables history db before db now cutoff where
  kept event hevent _ hkey := ⟨event, visible_mono hbefore hevent, hkey, fun _ => le_refl _⟩
  found cut hcut event hevent hviewed _ hkey :=
    Or.inl ⟨event, mem_visible_of_lt hevent (hcutoff cut hcut) hviewed, hkey, le_refl _⟩

variable {db : Tables} {b : WithBot Int}

theorem lastView_watchRows_le_iff {events : List PlexEvent} {k : WatchKey} :
    lastView (buildWatchRows tables (events.map PlexEvent.snapshot)) k ≤ b ↔
      ∀ event ∈ events, watchKey tables event.snapshot = some k →
        (event.viewedAt : WithBot Int) ≤ b := by
  rw [lastView_buildWatchRows_le_iff, List.forall_mem_map]

theorem lastView_episodeRows_le_iff {events : List PlexEvent} {k : EpisodeKey} :
    lastView (buildEpisodeWatchRows tables .plex db (events.map PlexEvent.snapshot)) k ≤ b ↔
      ∀ event ∈ events, episodeKey tables .plex db event.snapshot = some k →
        (event.viewedAt : WithBot Int) ≤ b := by
  rw [lastView_buildEpisodeWatchRows_le_iff, List.forall_mem_map]

end Listed

/-! ## A turn -/

section Turn

variable {history : List PlexEvent} {now before : Int} {db db' : Tables} {server : ServerState}

/-- An empty batch need not be merged. -/
theorem ite_mergeRows {κ : Type*} [DecidableEq κ] (existing rows : Dict κ Watched) :
    (if rows.entries.isEmpty then existing else mergeRows existing rows) =
      mergeRows existing rows := by
  split_ifs with hempty
  · rw [mergeRows, List.isEmpty_iff.mp hempty, List.foldl_nil]
  · rfl

theorem historyCutoff_of_full (h : server.syncState.requiresFullRebuild now = true) :
    server.syncState.historyCutoff now = none := if_pos h

theorem fetched_none : fetched history now none = visible history now :=
  List.filter_eq_self.mpr fun _ _ => rfl

/-- A full rebuild stores what a full rebuild stores. -/
theorem matchesRebuild_of_full (h : server.syncState.requiresFullRebuild now = true) :
    MatchesRebuild tables db history now (refreshPlex tables db history now server) := by
  unfold refreshPlex
  simp only [h, if_true, historyCutoff_of_full h, fetched_none]
  exact ⟨fun _ => rfl, fun _ => rfl⟩

/-- The cutoff is a day before the cursor. -/
theorem historyCutoff_of_incremental (h : server.syncState.requiresFullRebuild now = false) :
    ∃ viewed, server.syncState.plexLastViewedAt = some viewed ∧
      server.syncState.historyCutoff now = some (viewed - plexOverlapWindow) := by
  cases hviewed : server.syncState.plexLastViewedAt with
  | none => simp [SyncState.requiresFullRebuild, hviewed] at h
  | some viewed => exact ⟨viewed, rfl, by simp [SyncState.historyCutoff, h, hviewed]⟩

variable (tables db history) in
/-- An incremental turn raises the stored last views to those that were read. -/
theorem lastView_refreshPlex (h : server.syncState.requiresFullRebuild now = false) :
    (∀ k, lastView (refreshPlex tables db history now server).watchUsers k =
      lastView server.watchUsers k ⊔ lastView (buildWatchRows tables
        ((fetched history now (server.syncState.historyCutoff now)).map PlexEvent.snapshot)) k) ∧
    ∀ k, lastView (refreshPlex tables db history now server).watchUserEpisodes k =
      lastView server.watchUserEpisodes k ⊔ lastView (buildEpisodeWatchRows tables .plex db
        ((fetched history now (server.syncState.historyCutoff now)).map PlexEvent.snapshot)) k := by
  unfold refreshPlex
  simp only [h, Bool.false_eq_true, if_false, ite_mergeRows, lastView_mergeRows, implies_true,
    and_self]

/-- An incremental turn stores what a full rebuild stores, when the last turn has and the episodes
are steady. -/
theorem matchesRebuild_of_incremental (h : server.syncState.requiresFullRebuild now = false)
    (hbefore : before ≤ now) (hmatches : MatchesRebuild tables db' history before server)
    (hcursor : ∀ viewed, server.syncState.plexLastViewedAt = some viewed → viewed ≤ before)
    (hsteady : Steady tables history db' before db now (server.syncState.historyCutoff now)) :
    MatchesRebuild tables db history now (refreshPlex tables db history now server) := by
  obtain ⟨hwatch, hepisodes⟩ := lastView_refreshPlex tables history db h
  obtain ⟨viewed, hviewed, hcutoff⟩ := historyCutoff_of_incremental h
  have hcut : viewed - plexOverlapWindow ≤ before - plexOverlapWindow := by
    have := hcursor viewed hviewed
    omega
  rw [hcutoff] at hwatch hepisodes hsteady
  have hold : ∀ event ∈ visible history now, event ∉ fetched history now
      (some (viewed - plexOverlapWindow)) → event.viewedAt < viewed - plexOverlapWindow := by
    intro event hevent hskipped
    by_contra hnew
    refine hskipped (mem_fetched.mpr ⟨hevent, fun cut hcut => ?_⟩)
    obtain rfl := Option.some.inj hcut
    exact not_lt.mp hnew
  constructor
  · intro k
    rw [hwatch, hmatches.1]
    refine eq_of_forall_ge_iff fun b => ?_
    simp only [sup_le_iff, lastView_watchRows_le_iff]
    constructor
    · rintro ⟨hstored, hread⟩ event hevent hkey
      by_cases hfetched : event ∈ fetched history now (some (viewed - plexOverlapWindow))
      · exact hread event hfetched hkey
      · exact hstored event (mem_visible_of_lt hevent hcut (hold event hevent hfetched)) hkey
    · intro hall
      exact ⟨fun event hevent => hall event (visible_mono hbefore hevent),
        fun event hevent => hall event (mem_fetched.mp hevent).1⟩
  · intro k
    rw [hepisodes, hmatches.2]
    refine eq_of_forall_ge_iff fun b => ?_
    simp only [sup_le_iff, lastView_episodeRows_le_iff]
    constructor
    · rintro ⟨hstored, hread⟩ event hevent hkey
      by_cases hfetched : event ∈ fetched history now (some (viewed - plexOverlapWindow))
      · exact hread event hfetched hkey
      · have hviewed := hold event hevent hfetched
        rcases hsteady.found _ rfl event hevent hviewed k hkey with
          ⟨other, hother, hkey', hle⟩ | ⟨other, hother, hkey', hle⟩
        · exact (WithBot.coe_le_coe.mpr hle).trans (hstored other hother hkey')
        · refine (WithBot.coe_le_coe.mpr (hviewed.le.trans hle)).trans (hread other ?_ hkey')
          refine mem_fetched.mpr ⟨hother, fun cut hcut => ?_⟩
          obtain rfl := Option.some.inj hcut
          exact hle
    · intro hall
      refine ⟨fun event hevent hkey => ?_, fun event hevent => hall event (mem_fetched.mp hevent).1⟩
      obtain ⟨other, hother, hkey', hle⟩ := hsteady.kept event hevent k hkey
      exact (WithBot.coe_le_coe.mpr (hle rfl)).trans (hall other hother hkey')

theorem mem_keys_of_lastView_le {κ : Type*} [DecidableEq κ] {rows rows' : Dict κ Watched} {k : κ}
    (h : lastView rows k ≤ lastView rows' k) (hk : k ∈ rows.keys) : k ∈ rows'.keys := by
  by_contra hgone
  rw [lastView_eq_bot_iff.mpr hgone, le_bot_iff, lastView_eq_bot_iff] at h
  exact h hk

theorem losesNothing_of_incremental (h : server.syncState.requiresFullRebuild now = false) :
    LosesNothing server (refreshPlex tables db history now server) := by
  obtain ⟨hwatch, hepisodes⟩ := lastView_refreshPlex tables history db h
  exact ⟨fun k => mem_keys_of_lastView_le ((hwatch k).symm ▸ le_sup_left),
    fun k => mem_keys_of_lastView_le ((hepisodes k).symm ▸ le_sup_left)⟩

theorem mem_keys_watchRows_iff {events : List PlexEvent} {rows : Dict WatchKey Watched}
    {k : WatchKey} (h : lastView rows k =
      lastView (buildWatchRows tables (events.map PlexEvent.snapshot)) k) :
    k ∈ rows.keys ↔ ∃ event ∈ events, watchKey tables event.snapshot = some k := by
  rw [← not_iff_not, ← lastView_eq_bot_iff, h, ← le_bot_iff, lastView_watchRows_le_iff]
  simp

theorem mem_keys_episodeRows_iff {events : List PlexEvent} {rows : Dict EpisodeKey Watched}
    {k : EpisodeKey} (h : lastView rows k =
      lastView (buildEpisodeWatchRows tables .plex db (events.map PlexEvent.snapshot)) k) :
    k ∈ rows.keys ↔ ∃ event ∈ events, episodeKey tables .plex db event.snapshot = some k := by
  rw [← not_iff_not, ← lastView_eq_bot_iff, h, ← le_bot_iff, lastView_episodeRows_le_iff]
  simp

theorem losesNothing_of_full (h : server.syncState.requiresFullRebuild now = true)
    (hbefore : before ≤ now) (hmatches : MatchesRebuild tables db' history before server)
    {cutoff : Option Int} (hsteady : Steady tables history db' before db now cutoff) :
    LosesNothing server (refreshPlex tables db history now server) := by
  have hafter : MatchesRebuild tables db history now (refreshPlex tables db history now server) :=
    matchesRebuild_of_full h
  constructor
  · intro k hk
    obtain ⟨event, hevent, hkey⟩ := (mem_keys_watchRows_iff (hmatches.1 k)).mp hk
    exact (mem_keys_watchRows_iff (hafter.1 k)).mpr ⟨event, visible_mono hbefore hevent, hkey⟩
  · intro k hk
    obtain ⟨event, hevent, hkey⟩ := (mem_keys_episodeRows_iff (hmatches.2 k)).mp hk
    obtain ⟨other, hother, hkey', -⟩ := hsteady.kept event hevent k hkey
    exact (mem_keys_episodeRows_iff (hafter.2 k)).mpr ⟨other, hother, hkey'⟩

/-- A turn does not move the cursor into the future. -/
theorem cursor_refreshPlex_le (hcursor : ∀ viewed,
      server.syncState.plexLastViewedAt = some viewed → viewed ≤ now) :
    ∀ viewed, (refreshPlex tables db history now server).syncState.plexLastViewedAt = some viewed →
      viewed ≤ now := by
  have hstate : (refreshPlex tables db history now server).syncState = server.syncState.next now
      ((fetched history now (server.syncState.historyCutoff now)).map PlexEvent.viewedAt).max? := by
    unfold refreshPlex
    split_ifs <;> rfl
  intro viewed hviewed
  rw [hstate] at hviewed
  cases hmax : ((fetched history now (server.syncState.historyCutoff now)).map
      PlexEvent.viewedAt).max? with
  | none =>
    simp only [SyncState.next, hmax] at hviewed
    exact hcursor viewed hviewed
  | some latest =>
    simp only [SyncState.next, hmax] at hviewed
    split_ifs at hviewed
    · obtain rfl := Option.some.inj hviewed
      obtain ⟨event, hevent, rfl⟩ := List.mem_map.mp (List.max?_mem hmax)
      exact viewedAt_le (mem_fetched.mp hevent).1
    · exact hcursor viewed hviewed

end Turn

/-! ## Runs -/

section Runs

variable {key : ServerKey} {state : WatchState} {event : WatchEvent}

variable (tables histories) in
/-- What holds of a Plex server between events: it has nothing, or what a full rebuild would have
stored at its last refresh, and its cursor is not after that. -/
def Recorded (key : ServerKey) (state : WatchState) : Prop :=
  match state.lastRefresh key with
  | none => state.servers key = {}
  | some last => last.2 ≤ state.clock ∧
      MatchesRebuild tables last.1 (histories key) last.2 (state.servers key) ∧
      ∀ viewed, (state.servers key).syncState.plexLastViewedAt = some viewed → viewed ≤ last.2

theorem losesNothing_refl (server : ServerState) : LosesNothing server server :=
  ⟨fun _ h => h, fun _ h => h⟩

/-- A turn of the server. -/
theorem refreshPlex_spec {now : Int} (hnow : state.clock ≤ now)
    (hrecorded : Recorded tables histories key state)
    (hsteady : ∀ last, state.lastRefresh key = some last →
      Steady tables (histories key) last.1 last.2 state.db now
        ((state.servers key).syncState.historyCutoff now)) :
    LosesNothing (state.servers key)
        (refreshPlex tables state.db (histories key) now (state.servers key)) ∧
      MatchesRebuild tables state.db (histories key) now
        (refreshPlex tables state.db (histories key) now (state.servers key)) ∧
      ∀ viewed, (refreshPlex tables state.db (histories key) now
        (state.servers key)).syncState.plexLastViewedAt = some viewed → viewed ≤ now := by
  unfold Recorded at hrecorded
  cases hlast : state.lastRefresh key with
  | none =>
    rw [hlast] at hrecorded
    have hfull : (state.servers key).syncState.requiresFullRebuild now = true := by
      rw [hrecorded]
      rfl
    refine ⟨?_, matchesRebuild_of_full hfull, cursor_refreshPlex_le ?_⟩
    · rw [hrecorded]
      exact ⟨fun _ h => absurd h List.not_mem_nil, fun _ h => absurd h List.not_mem_nil⟩
    · intro viewed hviewed
      rw [hrecorded] at hviewed
      cases hviewed
  | some last =>
    rw [hlast] at hrecorded
    obtain ⟨hclock, hmatches, hcursor⟩ := hrecorded
    have hbefore := hclock.trans hnow
    refine ⟨?_, ?_, cursor_refreshPlex_le fun viewed h => (hcursor viewed h).trans hbefore⟩
    · cases hfull : (state.servers key).syncState.requiresFullRebuild now
      · exact losesNothing_of_incremental hfull
      · exact losesNothing_of_full hfull hbefore hmatches (hsteady last hlast)
    · cases hfull : (state.servers key).syncState.requiresFullRebuild now
      · exact matchesRebuild_of_incremental hfull hbefore hmatches hcursor (hsteady last hlast)
      · exact matchesRebuild_of_full hfull

theorem Recorded.later {state' : WatchState} (h : Recorded tables histories key state)
    (hclock : state.clock ≤ state'.clock) (hservers : state'.servers key = state.servers key)
    (hlast : state'.lastRefresh key = state.lastRefresh key) :
    Recorded tables histories key state' := by
  unfold Recorded at h ⊢
  rw [hlast, hservers]
  cases hrefresh : state.lastRefresh key with
  | none =>
    rw [hrefresh] at h
    exact h
  | some last =>
    rw [hrefresh] at h
    exact ⟨h.1.trans hclock, h.2⟩

/-- A call without servers changes nothing where nothing is stored. -/
theorem deleteAll_of_empty {servers : ServerKey → ServerState}
    (hwatch : (servers key).watchUsers.entries = [])
    (hepisodes : (servers key).watchUserEpisodes.entries = []) :
    deleteAll servers key = servers key := by
  unfold deleteAll
  rcases hserver : servers key with ⟨⟨watch, _⟩, ⟨episodes, _⟩, syncState⟩
  rw [hserver] at hwatch hepisodes
  obtain rfl : watch = [] := hwatch
  obtain rfl : episodes = [] := hepisodes
  rfl

/-- What an event leaves. -/
theorem step_spec (hplex : key.1 = .plex) (hrecorded : Recorded tables histories key state)
    (hsteady : SteadyEvent tables histories key state event) :
    Recorded tables histories key (state.step tables histories event) ∧
      EventMatches tables histories key state event := by
  cases event with
  | episodes db => exact ⟨hrecorded, losesNothing_refl _, fun _ _ h => by cases h⟩
  | refresh elapsed call =>
    have hclock : state.clock ≤ state.clock + elapsed := by omega
    by_cases hsupported : call.supported = []
    · obtain ⟨hwatch, hepisodes⟩ := hsteady.1 hsupported
      have hcall : state.afterCall tables histories elapsed call =
          (deleteAll state.servers, []) := by
        rw [WatchState.afterCall, refreshSnapshot, if_pos hsupported]
      have hservers : (state.step tables histories (.refresh elapsed call)).servers key =
          state.servers key := by
        simp only [WatchState.step, hcall]
        exact deleteAll_of_empty hwatch hepisodes
      have hlast : (state.step tables histories (.refresh elapsed call)).lastRefresh key =
          state.lastRefresh key := by
        simp [WatchState.step, hcall]
      refine ⟨hrecorded.later hclock hservers hlast, hservers ▸ losesNothing_refl _, ?_⟩
      rintro elapsed' call' hevent hmem
      obtain ⟨rfl, rfl⟩ := WatchEvent.refresh.inj hevent
      rw [hcall] at hmem
      exact absurd hmem List.not_mem_nil
    · obtain ⟨hmem, hafter⟩ := refreshSnapshot_spec tables state.db histories
        (state.clock + elapsed) state.servers hsupported hplex
      by_cases hrefreshed : IsRefreshed call key
      · rw [if_pos hrefreshed] at hafter
        obtain ⟨hkept, hmatches, hcursor⟩ := refreshPlex_spec hclock hrecorded
          (hsteady.2 hrefreshed)
        rw [← hafter] at hkept hmatches hcursor
        have hlast : (state.step tables histories (.refresh elapsed call)).lastRefresh key =
            some (state.db, state.clock + elapsed) :=
          if_pos (List.contains_iff_mem.mpr (hmem.mpr hrefreshed))
        refine ⟨?_, hkept, ?_⟩
        · unfold Recorded
          rw [hlast]
          exact ⟨le_refl _, hmatches, hcursor⟩
        · rintro elapsed' call' hevent -
          obtain ⟨rfl, rfl⟩ := WatchEvent.refresh.inj hevent
          exact hmatches
      · rw [if_neg hrefreshed] at hafter
        have hlast : (state.step tables histories (.refresh elapsed call)).lastRefresh key =
            state.lastRefresh key :=
          if_neg fun hin => hrefreshed (hmem.mp (List.contains_iff_mem.mp hin))
        refine ⟨hrecorded.later hclock hafter hlast, hafter.symm ▸ losesNothing_refl _, ?_⟩
        rintro elapsed' call' hevent hin
        obtain ⟨rfl, rfl⟩ := WatchEvent.refresh.inj hevent
        exact absurd (hmem.mp hin) hrefreshed

theorem runMatches_of_recorded (hplex : key.1 = .plex)
    (hrecorded : Recorded tables histories key state) {events : List WatchEvent}
    (hsteady : Runs.Meets (fun state event => some (state.step tables histories event))
      (SteadyEvent tables histories key) state events) :
    RunMatches tables histories key state events := by
  rintro pre event post rfl
  have hrun : Runs.run (fun state event => some (state.step tables histories event)) state pre =
      some (pre.foldl (WatchState.step tables histories) state) := Runs.run_total _
  obtain ⟨hpre, hevent⟩ := (Runs.meets_append hrun).mp hsteady
  have hreached : Recorded tables histories key
      (pre.foldl (WatchState.step tables histories) state) := by
    refine Runs.invariant_of_meets (fun s s' event hs hcondition hs' => ?_) hpre hrun hrecorded
    obtain rfl := Option.some.inj hs'
    exact (step_spec hplex hs hcondition).1
  exact (step_spec hplex hreached hevent.1).2

end Runs

/-- In a run of calls and changes of episodes, every call that refreshes a Plex server stores
what a full rebuild would, and no entry is lost, as long as no call without servers finds
entries and the views of episodes stay where they were or are read again. -/
theorem refreshes_match_rebuilds (tables : CaseTables) (histories : ServerKey → List PlexEvent)
    (id : Nat) (clock : Int) (db : Tables) (events : List WatchEvent)
    (hsteady : Runs.Meets (fun state event => some (WatchState.step tables histories state event))
      (SteadyEvent tables histories (.plex, id)) (WatchState.start clock db) events) :
    RunMatches tables histories (.plex, id) (WatchState.start clock db) events :=
  have hstart : Recorded tables histories (.plex, id) (WatchState.start clock db) := rfl
  runMatches_of_recorded rfl hstart hsteady

def plexServer : ServiceConfig := { id := 1, serviceType := .plex }

def plexCall : WatchCall where
  servers := ⟨[plexServer], by decide⟩

/-- A call while no server is configured. -/
def emptyCall : WatchCall where
  servers := ⟨[], by decide⟩

def threeDays : Nat := 259200000000

/-- Ann sees an episode. -/
def annsEpisode : PlexEvent where
  snapshot :=
    { mediaType := .series
      tmdbId := 1399
      watchUserKey := "Ann"
      lastWatchedAt := 0
      sourceItemId := some "e1" }
  visibleAt := 0
  viewed_le := by decide
  visible_le := by decide

/-- Ann sees a film, three days later. -/
def annsFilm : PlexEvent where
  snapshot :=
    { mediaType := .movie
      tmdbId := 603
      watchUserKey := "Ann"
      lastWatchedAt := threeDays }
  visibleAt := threeDays
  viewed_le := by decide
  visible_le := by decide

def annsHistory (_ : ServerKey) : List PlexEvent := [annsEpisode, annsFilm]

def asciiTables : CaseTables where
  lower := asciiLower
  upper := id

/-- The tables with the episode. -/
def episodeKnown : Tables where
  series := [{ id := 1, tmdbId := 1399, title := "Game of Thrones" }]
  seasons := [{ id := 1, seriesId := 1, seasonNumber := 1 }]
  episodes := [{ id := 1, seasonId := 1, episodeNumber := 1, plexRatingKey := some "e1" }]

/-- The episode is known all the time, and there are servers in both calls. -/
theorem refreshes_match_rebuilds_twoCalls :
    lastView (([.refresh 0 plexCall, .refresh threeDays plexCall] : List WatchEvent).foldl
        (WatchState.step asciiTables annsHistory)
        (WatchState.start 0 episodeKnown) |>.servers (.plex, 1)).watchUserEpisodes
      (1399, 1, 1, "ann") = (0 : Int) ∧
    RunMatches asciiTables annsHistory (.plex, 1) (WatchState.start 0 episodeKnown)
      [.refresh 0 plexCall, .refresh threeDays plexCall] := by
  refine ⟨by decide +kernel, refreshes_match_rebuilds asciiTables annsHistory 1 0 episodeKnown _ ?_⟩
  have hsupported : plexCall.supported ≠ [] := by decide
  refine ⟨⟨fun h => absurd h hsupported, fun _ _ h => by cases h⟩, fun state hstate => ?_⟩
  obtain rfl := Option.some.inj hstate
  refine ⟨⟨fun h => absurd h hsupported, fun _ last hlast => ?_⟩, fun _ _ => trivial⟩
  have hread : (((WatchState.start 0 episodeKnown).afterCall asciiTables annsHistory 0
      plexCall).2.contains (Service.plex, 1)) = true := by decide +kernel
  have hknown : ((WatchState.start 0 episodeKnown).step asciiTables annsHistory
      (.refresh 0 plexCall)).lastRefresh (.plex, 1) = some (episodeKnown, 0) :=
    WatchState.lastRefresh_step_refresh.trans (if_pos hread)
  obtain rfl := Option.some.inj (hknown.symm.trans hlast)
  refine steady_of_unchanged episodeKnown (by decide) fun cut hcut => ?_
  have hcutoff : (((WatchState.start 0 episodeKnown).step asciiTables annsHistory
      (.refresh 0 plexCall)).servers (.plex, 1)).syncState.historyCutoff threeDays =
        some (-86400000000) := by decide +kernel
  obtain rfl := Option.some.inj (hcut.symm.trans hcutoff)
  decide

/-- After three days the episode becomes known. -/
def lateEpisode : List WatchEvent :=
  [.refresh 0 plexCall, .refresh threeDays plexCall, .episodes episodeKnown, .refresh 0 plexCall]

/-- After three days there is no server for one call. -/
def gapInServers : List WatchEvent :=
  [.refresh 0 plexCall, .refresh threeDays plexCall, .refresh 0 emptyCall, .refresh 0 plexCall]

/-- In both runs the last call succeeds and misses Ann's episode, and in the second the view of
the series too. -/
theorem not_runMatches_ann :
    ¬RunMatches asciiTables annsHistory (.plex, 1) (WatchState.start 0 {}) lateEpisode ∧
      ¬RunMatches asciiTables annsHistory (.plex, 1) (WatchState.start 0 episodeKnown)
        gapInServers := by
  constructor
  · intro h
    have hsplit : lateEpisode = [.refresh 0 plexCall, .refresh threeDays plexCall,
      .episodes episodeKnown] ++ .refresh 0 plexCall :: [] := rfl
    have hlast := (h _ _ _ hsplit).2 0 plexCall rfl (by decide +kernel)
    exact absurd (hlast.2 (1399, 1, 1, "ann")) (by decide +kernel)
  · intro h
    have hsplit : gapInServers = [.refresh 0 plexCall, .refresh threeDays plexCall,
      .refresh 0 emptyCall] ++ .refresh 0 plexCall :: [] := rfl
    have hlast := (h _ _ _ hsplit).2 0 plexCall rfl (by decide +kernel)
    exact absurd (hlast.1 (.series, 1399, "ann")) (by decide +kernel)

end MediaMasterr.Snapshots.WatchUsers
