import MediaMasterr.Database.Frames
import MediaMasterr.Foundations.Dict
import MediaMasterr.Foundations.Writes

/-! # Episode sync

`_upsert_episodes`: the episode rows of a season take what a server reports. The
server that owns the series also prunes the rows that it does not report. -/

namespace MediaMasterr.Database

/-- The columns by which an episode row is found. -/
def Episode.place (e : Episode) : Nat × Nat × Nat := (e.id, e.seasonId, e.episodeNumber)

/-- The primary and the unique key of episodes. -/
structure EpisodeKeys (rows : List Episode) : Prop where
  ids : (rows.map Episode.id).Nodup
  numbers : (rows.map fun e => (e.seasonId, e.episodeNumber)).Nodup

namespace EpisodeKeys

variable {rows rows' : List Episode}

theorem of_places (h : EpisodeKeys rows)
    (hplaces : rows'.map Episode.place = rows.map Episode.place) : EpisodeKeys rows' := by
  have hids := congrArg (List.map Prod.fst) hplaces
  have hnumbers := congrArg (List.map Prod.snd) hplaces
  rw [List.map_map, List.map_map] at hids hnumbers
  have hids' : rows'.map Episode.id = rows.map Episode.id := hids
  have hnumbers' : (rows'.map fun e => (e.seasonId, e.episodeNumber)) =
      rows.map fun e => (e.seasonId, e.episodeNumber) := hnumbers
  exact ⟨hids' ▸ h.ids, hnumbers' ▸ h.numbers⟩

theorem place_ext (h : EpisodeKeys rows) {p p' : Nat × Nat × Nat}
    (hp : p ∈ rows.map Episode.place) (hp' : p' ∈ rows.map Episode.place) (hid : p.1 = p'.1) :
    p = p' := by
  obtain ⟨row, hrow, rfl⟩ := List.mem_map.mp hp
  obtain ⟨row', hrow', rfl⟩ := List.mem_map.mp hp'
  rw [List.inj_on_of_nodup_map h.ids hrow hrow' hid]

theorem sublist (h : EpisodeKeys rows) (hsub : rows'.Sublist rows) :
    EpisodeKeys rows' :=
  ⟨h.ids.sublist (hsub.map _), h.numbers.sublist (hsub.map _)⟩

end EpisodeKeys

end MediaMasterr.Database

namespace MediaMasterr.Sync

open MediaMasterr.Foundations MediaMasterr.Database

structure AggregatedEpisodeData where
  episodeNumber : Nat
  viewCount : Nat := 0
  name : Option String := none
  airDate : Option Nat := none
  lastViewedAt : Option Nat := none
  size : Option Nat := none
  path : Option String := none
  plexRatingKey : Option String := none
  jellyfinEpisodeId : Option String := none
  embyEpisodeId : Option String := none
  deriving DecidableEq, Repr

/-- The later of two times. -/
def latest : Option Nat → Option Nat → Option Nat
  | some t, some t' => some (max t t')
  | t, t' => t' <|> t

namespace AggregatedEpisodeData

variable (service : Service) (ep : AggregatedEpisodeData)

/-- The columns of a row that is there already. -/
def merge (e : Episode) : Episode :=
  let e := { e with
    viewCount := max e.viewCount ep.viewCount
    lastViewedAt := latest e.lastViewedAt ep.lastViewedAt
    airDate := e.airDate <|> ep.airDate
    name := e.name <|> ep.name
    size := ep.size <|> e.size
    path := ep.path <|> e.path }
  match service with
  | .plex => { e with plexRatingKey := ep.plexRatingKey.filter (· ≠ "") <|> e.plexRatingKey }
  | .jellyfin =>
    { e with jellyfinEpisodeId := ep.jellyfinEpisodeId.filter (· ≠ "") <|> e.jellyfinEpisodeId }
  | .emby => { e with embyEpisodeId := ep.embyEpisodeId.filter (· ≠ "") <|> e.embyEpisodeId }
  | _ => e

def newRow (seasonId id : Nat) : Episode where
  id := id
  seasonId := seasonId
  episodeNumber := ep.episodeNumber
  name := ep.name
  airDate := ep.airDate
  size := ep.size
  path := ep.path
  viewCount := ep.viewCount
  lastViewedAt := ep.lastViewedAt
  plexRatingKey := ep.plexRatingKey
  jellyfinEpisodeId := ep.jellyfinEpisodeId
  embyEpisodeId := ep.embyEpisodeId

end AggregatedEpisodeData

/-! ## The upsert -/

/-- `existing_eps`, by the ids of the rows. -/
def existingEpisodes (rows : List Episode) (seasonId : Nat) : Dict Nat Nat :=
  (rows.filter (·.seasonId = seasonId)).foldl
    (fun existing e => existing.set e.episodeNumber e.id) ∅

/-- The state of the loop over the reported episodes; `rows` is the table. -/
structure EpisodeSync where
  rows : List Episode
  existing : Dict Nat Nat

/-- One reported episode. A new row is registered, so that a second entry of its number
changes it. -/
def upsertEpisode (seasonId : Nat) (service : Service) (state : EpisodeSync)
    (ep : AggregatedEpisodeData) : EpisodeSync :=
  match state.existing.get? ep.episodeNumber with
  | some id =>
    { state with rows := (Write.update id (ep.merge service)).apply Episode.id state.rows }
  | none =>
    { rows := (Write.insert (ep.newRow seasonId)).apply Episode.id state.rows
      existing := state.existing.set ep.episodeNumber (Write.nextId Episode.id state.rows) }

/-- The statements that prune an episode. -/
def pruneEpisode (db : Tables) (id : Nat) : Tables :=
  { db with candidates := db.candidates.filter (·.episodeId ≠ some id) }.deleteEpisodeRow id

section

variable (db : Tables) (seasonId : Nat) (episodeData : List AggregatedEpisodeData)
variable (service : Service)

def upsertedEpisodes : EpisodeSync :=
  episodeData.foldl (upsertEpisode seasonId service)
    { rows := db.episodes, existing := existingEpisodes db.episodes seasonId }

/-- The ids of the rows that no reported episode has the number of. -/
def staleEpisodes : List Nat :=
  ((upsertedEpisodes db seasonId episodeData service).existing.entries.filter fun e =>
    e.1 ∉ episodeData.map (·.episodeNumber)).map Prod.snd

/-- `_upsert_episodes`. -/
def upsertEpisodes (removeStale : Bool) : Tables :=
  let upserted := { db with episodes := (upsertedEpisodes db seasonId episodeData service).rows }
  if removeStale then
    (staleEpisodes db seasonId episodeData service).foldl pruneEpisode upserted
  else upserted

end

/-! ## The rows after an upsert -/

section Rows

variable {db db' : Tables} {rows rows' : List Episode} {seasonId id : Nat} {e : Episode}
variable {episodeData : List AggregatedEpisodeData} {service : Service}

theorem existingEpisodes_get? (h : EpisodeKeys rows) (number : Nat) :
    (existingEpisodes rows seasonId).get? number = some id ↔
      (id, seasonId, number) ∈ rows.map Episode.place := by
  have hnumbers : ((rows.filter (·.seasonId = seasonId)).map Episode.episodeNumber).Nodup := by
    refine List.Nodup.map_on ?_ ((List.Nodup.of_map _ h.ids).filter _)
    intro e he e' he' hnumber
    simp only [List.mem_filter, decide_eq_true_eq] at he he'
    exact List.inj_on_of_nodup_map h.numbers he.1 he'.1
      (Prod.ext (he.2.trans he'.2.symm) hnumber)
  rw [Dict.get?_eq_some_iff, existingEpisodes, Dict.entries_foldl_set hnumbers]
  simp only [List.mem_map, List.mem_filter, decide_eq_true_eq, Prod.mk.injEq, Episode.place]
  constructor
  · rintro ⟨e, ⟨he, hseason⟩, hnumber, hid⟩
    exact ⟨e, he, hid, hseason, hnumber⟩
  · rintro ⟨e, he, hid, hseason, hnumber⟩
    exact ⟨e, ⟨he, hseason⟩, hnumber, hid⟩

/-- The registered rows are those of the season. -/
structure EpisodeSync.Indexed (seasonId : Nat) (state : EpisodeSync) : Prop where
  keys : EpisodeKeys state.rows
  index : ∀ number id, state.existing.get? number = some id ↔
    (id, seasonId, number) ∈ state.rows.map Episode.place

theorem place_merge (ep : AggregatedEpisodeData) : (ep.merge service e).place = e.place := by
  unfold AggregatedEpisodeData.merge
  cases service <;> rfl

theorem map_place_update (ep : AggregatedEpisodeData) :
    ((Write.update id (ep.merge service)).apply Episode.id rows).map Episode.place =
      rows.map Episode.place := by
  rw [Write.apply, List.map_map]
  refine List.map_congr_left fun row _ => ?_
  dsimp only [Function.comp]
  split_ifs
  · exact place_merge ep
  · rfl

/-- The place of the row that an insert makes. -/
theorem map_place_insert (ep : AggregatedEpisodeData) :
    ((Write.insert (ep.newRow seasonId)).apply Episode.id rows).map Episode.place =
      rows.map Episode.place ++ [(Write.nextId Episode.id rows, seasonId, ep.episodeNumber)] := by
  rw [Write.apply, List.map_append]
  rfl

theorem episodeKeys_insert (h : EpisodeKeys rows) (ep : AggregatedEpisodeData)
    (hnew : ∀ id, (id, seasonId, ep.episodeNumber) ∉ rows.map Episode.place) :
    EpisodeKeys ((Write.insert (ep.newRow seasonId)).apply Episode.id rows) := by
  constructor
  · rw [Write.apply, List.map_append]
    refine List.Nodup.append h.ids (List.nodup_singleton _) ?_
    rw [List.map_singleton, List.disjoint_singleton]
    intro hmem
    obtain ⟨row, hrow, hid⟩ := List.mem_map.mp hmem
    have hlt : row.id < Write.nextId Episode.id rows := Write.lt_nextId hrow
    exact absurd hid (Nat.ne_of_lt hlt)
  · rw [Write.apply, List.map_append]
    refine List.Nodup.append h.numbers (List.nodup_singleton _) ?_
    rw [List.map_singleton, List.disjoint_singleton]
    intro hmem
    obtain ⟨row, hrow, hnumber⟩ := List.mem_map.mp hmem
    obtain ⟨hseason, hnumber⟩ := Prod.mk.inj hnumber
    refine hnew row.id (List.mem_map.mpr ⟨row, hrow, ?_⟩)
    rw [Episode.place, hseason, hnumber]
    rfl

theorem upsertEpisode_indexed {state : EpisodeSync} (h : state.Indexed seasonId)
    (ep : AggregatedEpisodeData) : (upsertEpisode seasonId service state ep).Indexed seasonId := by
  unfold upsertEpisode
  cases hget : state.existing.get? ep.episodeNumber with
  | some id =>
    refine ⟨h.keys.of_places (map_place_update ep), fun number id' => ?_⟩
    dsimp only
    rw [map_place_update]
    exact h.index number id'
  | none =>
    have hnew : ∀ id, (id, seasonId, ep.episodeNumber) ∉ state.rows.map Episode.place := by
      intro id hmem
      rw [(h.index _ _).mpr hmem] at hget
      cases hget
    refine ⟨episodeKeys_insert h.keys ep hnew, fun number id' => ?_⟩
    dsimp only
    rw [map_place_insert, Dict.get?_set, List.mem_append, List.mem_singleton]
    by_cases hnumber : number = ep.episodeNumber
    · subst hnumber
      simp [hnew, eq_comm]
    · simp [hnumber, h.index]

theorem place_mem_upsertEpisode {state : EpisodeSync} {p : Nat × Nat × Nat}
    (h : p ∈ state.rows.map Episode.place) (ep : AggregatedEpisodeData) :
    p ∈ (upsertEpisode seasonId service state ep).rows.map Episode.place := by
  unfold upsertEpisode
  cases state.existing.get? ep.episodeNumber with
  | some id =>
    dsimp only
    rwa [map_place_update]
  | none =>
    dsimp only
    rw [map_place_insert]
    exact List.mem_append_left _ h

theorem upsertedEpisodes_indexed (seasonId : Nat) (episodeData : List AggregatedEpisodeData)
    (service : Service) (h : EpisodeKeys db.episodes) :
    (upsertedEpisodes db seasonId episodeData service).Indexed seasonId := by
  refine Loops.foldl_invariant (P := fun state : EpisodeSync => state.Indexed seasonId)
    (fun ep _ _ hstate => upsertEpisode_indexed hstate ep) ?_
  exact ⟨h, fun number id => existingEpisodes_get? h number⟩

theorem place_mem_upsertedEpisodes (seasonId : Nat) (episodeData : List AggregatedEpisodeData)
    (service : Service) {p : Nat × Nat × Nat} (h : p ∈ db.episodes.map Episode.place) :
    p ∈ (upsertedEpisodes db seasonId episodeData service).rows.map Episode.place := by
  refine Loops.foldl_invariant
    (P := fun state : EpisodeSync => p ∈ state.rows.map Episode.place) ?_ h
  exact fun ep _ _ hstate => place_mem_upsertEpisode hstate ep

/-- A row is stale when it is a row of the season and no reported episode has its number. -/
theorem mem_staleEpisodes_iff_of_upserted (seasonId : Nat)
    (episodeData : List AggregatedEpisodeData) (service : Service) (h : EpisodeKeys db.episodes)
    (hplace : e.place ∈
      (upsertedEpisodes db seasonId episodeData service).rows.map Episode.place) :
    e.id ∈ staleEpisodes db seasonId episodeData service ↔
      e.seasonId = seasonId ∧ e.episodeNumber ∉ episodeData.map (·.episodeNumber) := by
  have hindexed := upsertedEpisodes_indexed seasonId episodeData service h
  simp only [staleEpisodes, List.mem_map (f := Prod.snd), List.mem_filter, decide_eq_true_eq,
    Prod.exists, exists_eq_right, ← Dict.get?_eq_some_iff, hindexed.index]
  constructor
  · rintro ⟨number, hmem, hnumber⟩
    have hsame := hindexed.keys.place_ext hmem hplace rfl
    simp only [Episode.place, Prod.mk.injEq] at hsame
    obtain ⟨-, rfl, rfl⟩ := hsame
    exact ⟨rfl, hnumber⟩
  · rintro ⟨rfl, hnumber⟩
    exact ⟨e.episodeNumber, hplace, hnumber⟩

/-- The same for a stored row. -/
theorem mem_staleEpisodes_iff (seasonId : Nat) (episodeData : List AggregatedEpisodeData)
    (service : Service) (h : EpisodeKeys db.episodes)
    (he : e.place ∈ db.episodes.map Episode.place) :
    e.id ∈ staleEpisodes db seasonId episodeData service ↔
      e.seasonId = seasonId ∧ e.episodeNumber ∉ episodeData.map (·.episodeNumber) :=
  mem_staleEpisodes_iff_of_upserted seasonId episodeData service h
    (place_mem_upsertedEpisodes seasonId episodeData service he)

end Rows

/-! ## Episodes that are kept -/

/-- The row of an episode is still there, and no row that named it in `db` was deleted. -/
structure EpisodeKept (db db' : Tables) (e : Episode) : Prop where
  row : e.place ∈ db'.episodes.map Episode.place
  candidates : ∀ c ∈ db.candidates, c.episodeId = some e.id → c ∈ db'.candidates
  protectedMedia : ∀ p ∈ db.protectedMedia, p.episodeId = some e.id → p ∈ db'.protectedMedia
  protectionRequests : ∀ r ∈ db.protectionRequests, r.episodeId = some e.id →
    r.status = .pending → r ∈ db'.protectionRequests
  deleteRequests : ∀ r ∈ db.deleteRequests, r.episodeId = some e.id →
    r.status = .pending → r ∈ db'.deleteRequests

section Kept

variable {db db' : Tables} {seasonId id : Nat} {e : Episode}
variable {episodeData : List AggregatedEpisodeData} {service : Service} {removeStale : Bool}

theorem EpisodeKept.refl (he : e ∈ db.episodes) : EpisodeKept db db e :=
  ⟨List.mem_map_of_mem he, fun _ h _ => h, fun _ h _ => h, fun _ h _ _ => h, fun _ h _ _ => h⟩

theorem episodeKept_pruneEpisode (h : EpisodeKept db db' e) (hne : id ≠ e.id) :
    EpisodeKept db (pruneEpisode db' id) e := by
  have hother : some e.id ≠ some id := fun heq => hne (Option.some.inj heq).symm
  constructor
  · obtain ⟨row, hrow, hplace⟩ := List.mem_map.mp h.row
    have hid : row.id = e.id := congrArg Prod.fst hplace
    exact List.mem_map.mpr ⟨row, List.mem_filter.mpr ⟨hrow, by simp [hid, hne.symm]⟩, hplace⟩
  · intro c hc hepisode
    exact List.mem_filter.mpr ⟨h.candidates c hc hepisode, by simp [hepisode, hother]⟩
  · intro p hp hepisode
    exact List.mem_filter.mpr ⟨h.protectedMedia p hp hepisode, by simp [hepisode, hother]⟩
  · intro r hr hepisode hpending
    exact Tables.mem_settleRequests (h.protectionRequests r hr hepisode hpending)
      (by simpa [hepisode] using hne.symm)
  · intro r hr hepisode hpending
    exact Tables.mem_settleRequests (h.deleteRequests r hr hepisode hpending)
      (by simpa [hepisode] using hne.symm)

theorem foldl_pruneEpisode_episodes (ids : List Nat) (db : Tables) :
    (ids.foldl pruneEpisode db).episodes = db.episodes.filter (·.id ∉ ids) := by
  induction ids generalizing db with
  | nil => simp
  | cons id ids ih =>
    rw [List.foldl_cons, ih, pruneEpisode, Tables.deleteEpisodeRow, List.filter_filter]
    congr 1
    ext e
    simp [Bool.and_comm]

theorem upsertEpisodes_seasons :
    (upsertEpisodes db seasonId episodeData service removeStale).seasons = db.seasons := by
  cases removeStale with
  | false => rfl
  | true =>
    refine Loops.foldl_invariant (P := fun db' : Tables => db'.seasons = db.seasons) ?_ rfl
    exact fun _ _ _ h => h

theorem upsertEpisodes_episodeKeys (h : EpisodeKeys db.episodes) :
    EpisodeKeys (upsertEpisodes db seasonId episodeData service removeStale).episodes := by
  have hkeys := (upsertedEpisodes_indexed seasonId episodeData service h).keys
  cases removeStale with
  | false => exact hkeys
  | true =>
    dsimp only [upsertEpisodes]
    rw [if_pos rfl, foldl_pruneEpisode_episodes]
    exact hkeys.sublist List.filter_sublist

/-- An upsert keeps a stored episode, unless it prunes the season and no reported episode has
the number. -/
theorem episodeKept_upsertEpisodes_iff (seasonId : Nat)
    (episodeData : List AggregatedEpisodeData) (service : Service) (removeStale : Bool)
      (hkeys : EpisodeKeys db'.episodes)
    (h : EpisodeKept db db' e) :
    EpisodeKept db (upsertEpisodes db' seasonId episodeData service removeStale) e ↔
      (removeStale = true → e.seasonId = seasonId →
        e.episodeNumber ∈ episodeData.map (·.episodeNumber)) := by
  have hplace := place_mem_upsertedEpisodes seasonId episodeData service h.row
  have hupserted : EpisodeKept db
      { db' with episodes := (upsertedEpisodes db' seasonId episodeData service).rows } e :=
    ⟨hplace, h.candidates, h.protectedMedia, h.protectionRequests, h.deleteRequests⟩
  have hstale := mem_staleEpisodes_iff seasonId episodeData service hkeys h.row
  cases removeStale with
  | false => simpa [upsertEpisodes] using hupserted
  | true =>
    dsimp only [upsertEpisodes]
    rw [if_pos rfl]
    by_cases hpruned : e.id ∈ staleEpisodes db' seasonId episodeData service
    · obtain ⟨hseason, hnumber⟩ := hstale.mp hpruned
      refine iff_of_false (fun hkept => ?_) fun himp => hnumber (himp rfl hseason)
      have hrow := hkept.row
      rw [foldl_pruneEpisode_episodes] at hrow
      obtain ⟨row, hrow, hsame⟩ := List.mem_map.mp hrow
      have hid : row.id = e.id := congrArg Prod.fst hsame
      simp [hid, hpruned] at hrow
    · refine iff_of_true ?_ fun _ hseason => ?_
      · refine Loops.foldl_invariant (P := fun db' => EpisodeKept db db' e) ?_ hupserted
        intro id hid db' hkept
        exact episodeKept_pruneEpisode hkept fun heq => hpruned (heq ▸ hid)
      · by_contra hnumber
        exact hpruned (hstale.mpr ⟨hseason, hnumber⟩)

end Kept

end MediaMasterr.Sync
