import MediaMasterr.RuleEngine.Values
import MediaMasterr.Deletion.Episode

/-! # Sonarr's answers

The client functions of `services/sonarr.py` that read a series, the episodes of
a series and the episode files of a season from the JSON that Sonarr answers
with. -/

namespace MediaMasterr.Deletion

open MediaMasterr.Foundations MediaMasterr.RuleEngine

/-- The interpreter, with `int` on texts, and for the doubles that JSON numbers are read as:
`int(x)`, and the integer that `x` equals. -/
structure SonarrReader extends PythonRuntime where
  intOfStr : String → Option Int
  intOfFloat : Float → Int
  integral : Float → Option Int

/-- `entries.get(key)`. -/
def entry (entries : List (String × PyValue)) (key : String) : PyValue :=
  (entries.lookup key).getD .none

/-- What `_make_request` returns: the status code and the JSON of the body. -/
abbrev HttpAnswer := Outcome (Nat × PyValue)

/-- `_mapping_list`. -/
def mappingList : PyValue → List (List (String × PyValue))
  | .list items => items.filterMap fun
    | .dict entries => some entries
    | _ => none
  | _ => []

/-- `SonarrSeason`. -/
structure SonarrSeason where
  seasonNumber : Int
  monitored : Bool
  statistics : Option (List (String × PyValue)) := none

/-- `SonarrSeries`. -/
structure SonarrSeries where
  id : Int
  title : String
  tvdbId : Option Int
  tmdbId : Option Int
  imdbId : Option String
  year : Option Int
  path : String
  monitored : Bool
  status : Option String
  seasonCount : Nat
  seasons : List SonarrSeason
  tags : List Int

section Reader

variable (py : SonarrReader)

/-- `as_int`. -/
def asInt : PyValue → Option Int
  | .bool b => some b.toNat
  | .int n => some n.val
  | .float x => some (py.intOfFloat x)
  | .str s => if s = "" then none else py.intOfStr s
  | _ => none

/-- The integer `n` for which `value == n`. -/
def intValue : PyValue → Option Int
  | .bool b => some b.toNat
  | .int n => some n.val
  | .float x => py.integral x
  | _ => none

/-- `_as_optional_str`. -/
def asOptionalStr (value : PyValue) : Option String :=
  if value.isNone then none
  else truthyText (some (PythonText.strip (py.str value)))

/-- `_as_bool`, with the default `False`. -/
def asBool : PyValue → Bool
  | .bool b => b
  | .str s =>
    let normalized := py.lower (PythonText.strip s)
    if normalized ∈ ["true", "1", "yes", "on"] then true
    else if normalized ∈ ["false", "0", "no", "off"] then false
    else PyValue.truthy (.str s)
  | .none => false
  | value => value.truthy

/-- `_as_int_list`. -/
def asIntList : PyValue → List Int
  | .list items => items.filterMap (asInt py)
  | _ => []

/-- `_season_from_mapping`. -/
def seasonFromMapping (data : List (String × PyValue)) : SonarrSeason where
  seasonNumber := (asInt py (entry data "seasonNumber")).getD 0
  monitored := asBool py (entry data "monitored")
  statistics :=
    match entry data "statistics" with
    | .dict entries => some entries
    | _ => none

/-- `build_sonarr_series_from_dict`. -/
def buildSonarrSeriesFromDict (data : List (String × PyValue)) : SonarrSeries :=
  let seasons := (mappingList (entry data "seasons")).map (seasonFromMapping py)
  { id := (asInt py (entry data "id")).getD 0
    title := (asOptionalStr py (entry data "title")).getD ""
    tvdbId := asInt py (entry data "tvdbId")
    tmdbId := asInt py (entry data "tmdbId")
    imdbId := asOptionalStr py (entry data "imdbId")
    year := asInt py (entry data "year")
    path := (asOptionalStr py (entry data "path")).getD ""
    monitored := asBool py (entry data "monitored")
    status := (asOptionalStr py (entry data "status")).map py.lower
    seasonCount := seasons.length
    seasons
    tags := asIntList py (entry data "tags") }

/-- `get_series`. -/
def SonarrClient.getSeries (answer : HttpAnswer) : Outcome SonarrSeries :=
  match answer with
  | .error e => .error e
  | .ok (_, .dict data) => .ok (buildSonarrSeriesFromDict py data)
  | .ok _ => .error "Invalid response for series"

/-- `get_episodes`. -/
def SonarrClient.getEpisodes (answer : HttpAnswer) : Outcome (List (List (String × PyValue))) :=
  match answer with
  | .error e => .error e
  | .ok (_, .list items) => .ok (mappingList (.list items))
  | .ok _ => .error "Invalid response getting episodes for series"

/-- The `episode_file_ids` that `delete_season_files` collects. -/
def episodeFileIds (seasonNumber : Nat) (episodes : List (List (String × PyValue))) : List Int :=
  (episodes.filter fun episode =>
    asInt py (entry episode "seasonNumber") = some (seasonNumber : Int)).filterMap fun episode =>
      asInt py (entry episode "episodeFileId")

/-- `delete_season_files`, for the answers to its two requests: the ids of the bulk request,
when it is sent, and how the call ends. -/
def SonarrClient.deleteSeasonFiles (seasonNumber : Nat) (listing bulk : HttpAnswer) :
    Option (List Int) × Outcome Unit :=
  match listing with
  | .error e => (none, .error e)
  | .ok (_, .list episodes) =>
    let ids := episodeFileIds py seasonNumber (mappingList (.list episodes))
    if ids.isEmpty then (none, .ok ())
    else
      (some ids,
        match bulk with
        | .error e => .error e
        | .ok (status, _) =>
          if status = 200 then .ok () else .error "Failed to delete season files")
  | .ok _ => (none, .error "Invalid response getting episodes for series")

/-! ## What the handlers read -/

/-- `season_file_ids`, from the episodes as Sonarr lists them. -/
def listedFileIds (seasonNumber : Nat) (episodes : List (List (String × PyValue))) :
    List PyValue :=
  (episodes.filter fun ep =>
    intValue py (entry ep "seasonNumber") = some (seasonNumber : Int) ∧
      !(entry ep "episodeFileId").isNone).map fun ep => entry ep "episodeFileId"

/-- `(s.statistics or {}).get("episodeFileCount", 0) == 0`. -/
def countsNoFile (s : SonarrSeason) : Bool :=
  match (s.statistics.getD []).lookup "episodeFileCount" with
  | some count => intValue py count == some 0
  | none => true

/-- `all_empty`. -/
def allEmpty (seasons : List SonarrSeason) : Bool := seasons.all (countsNoFile py)

/-- The entries of an episode as the season handler takes them: the file id is only told from
`None`. -/
def SonarrEpisode.ofEntries (ep : List (String × PyValue)) : SonarrEpisode where
  id := (intValue py (entry ep "id")).bind Int.toNat?
  seasonNumber := (intValue py (entry ep "seasonNumber")).bind Int.toNat?
  episodeNumber := (intValue py (entry ep "episodeNumber")).bind Int.toNat?
  episodeFileId :=
    if (entry ep "episodeFileId").isNone then none
    else some ((intValue py (entry ep "episodeFileId")).getD 0).toNat

/-- The `episodeFileCount` of a season, when it is reported; only told from 0. -/
def SonarrSeason.fileCount (s : SonarrSeason) : Option Nat :=
  ((s.statistics.getD []).lookup "episodeFileCount").map fun count =>
    match intValue py count with
    | some n => n.natAbs
    | none => 1

end Reader

variable {py : SonarrReader}

theorem bind_toNat?_eq_some_iff {value : Option Int} {n : Nat} :
    value.bind Int.toNat? = some n ↔ value = some (n : Int) := by
  cases value with
  | none => simp
  | some m =>
    rw [Option.bind_some, Option.some.injEq]
    exact Int.mem_toNat?

theorem ofEntries_episodeFileId_eq_none_iff (ep : List (String × PyValue)) :
    (SonarrEpisode.ofEntries py ep).episodeFileId = none ↔
      (entry ep "episodeFileId").isNone = true := by
  dsimp only [SonarrEpisode.ofEntries]
  split_ifs with h <;> simp [h]

/-- The season handler finds files in the entries exactly when it finds them in the episodes
that they are read as. -/
theorem seasonFileIds_eq_nil_iff (season : Database.Season)
    (episodes : List (List (String × PyValue))) :
    Season.seasonFileIds season (episodes.map (SonarrEpisode.ofEntries py)) = [] ↔
      listedFileIds py season.seasonNumber episodes = [] := by
  have hseason (ep : List (String × PyValue)) :
      (SonarrEpisode.ofEntries py ep).seasonNumber = some season.seasonNumber ↔
        intValue py (entry ep "seasonNumber") = some (season.seasonNumber : Int) :=
    bind_toNat?_eq_some_iff
  simp only [Season.seasonFileIds, listedFileIds, List.filterMap_eq_nil_iff, List.mem_filter,
    List.mem_map, decide_eq_true_eq, List.map_eq_nil_iff, List.filter_eq_nil_iff]
  constructor
  · rintro h ep hep ⟨hnumber, hid⟩
    have hnone := h _ ⟨⟨ep, hep, rfl⟩, (hseason ep).mpr hnumber⟩
    rw [ofEntries_episodeFileId_eq_none_iff] at hnone
    simp [hnone] at hid
  · rintro h _ ⟨⟨ep, hep, rfl⟩, hnumber⟩
    rw [ofEntries_episodeFileId_eq_none_iff]
    by_contra hid
    exact h ep hep ⟨(hseason ep).mp hnumber, by simpa using hid⟩

/-- The file count of a season is read as 0 exactly when the source's comparison holds. -/
theorem fileCount_getD_eq_zero (s : SonarrSeason) :
    ((s.fileCount py).getD 0 == 0) = countsNoFile py s := by
  dsimp only [SonarrSeason.fileCount, countsNoFile]
  cases (s.statistics.getD []).lookup "episodeFileCount" with
  | none => rfl
  | some count =>
    cases hvalue : intValue py count with
    | none => simp [hvalue]
    | some n => simp [hvalue]

theorem all_fileCount (seasons : List SonarrSeason) :
    ((seasons.map (SonarrSeason.fileCount py)).all fun count => count.getD 0 == 0) =
      allEmpty py seasons := by
  rw [allEmpty, List.all_map]
  congr 1
  funext s
  exact fileCount_getD_eq_zero s

end MediaMasterr.Deletion
