import MediaMasterr.Correlation.TorrentMatch
import MediaMasterr.Deletion.Services

/-! # Owners of torrents

The two answers that the correlation gives for a torrent: the detail with the file that it
was imported as, and the artwork. Both select the best match of the library; only the
artwork asks for evidence that the match is the torrent's media. -/

namespace MediaMasterr.Correlation

open MediaMasterr.Foundations MediaMasterr.Database

/-- `CorrelationTorrentSummary`, as far as the correlation reads it. -/
structure TorrentSummary where
  name : String
  category : Option String := none
  savePath : Option String := none
  provider : String := "qbittorrent"
  deriving DecidableEq, Repr

/-- The tables that the detail reads. -/
structure CorrelationTables extends Library where
  seriesServiceRefs : List SeriesServiceRef := []
  protectedMedia : List ProtectedMedia := []
  protectionRequests : List ProtectionRequest := []

/-! ## Identities -/

/-- What the name of a torrent tells of its media. -/
structure TorrentIdentity where
  title : String
  year : Option Nat
  seasonNumber : Option Nat
  episodeNumber : Option Nat
  imdbId : Option String
  tmdbId : Option Nat
  tvdbId : Option String
  deriving DecidableEq, Repr

section Names

variable (tables : NameTables)

/-- The residual noise of `_name_token`. -/
def residualNoise : List String := ["dl", "uhd", "nf", "amzn", "bluray", "webrip", "webdl"]

/-- `_name_token`. -/
def nameToken (name : String) : String :=
  let parts := (Media.words (parseTorrentIdentity tables name).1).filter (· ∉ residualNoise)
  String.ofList ((" ".intercalate (parts.take 4)).toList.take 96)

/-- `\btt\d{7,10}\b` -/
def imdbPattern : WordPattern Char :=
  .between (.seq (.literal ['t', 't']) (digits tables 7 (some 10)))

/-- A word, letters other than digits, and an id of three to ten digits, between edges. -/
def providerIdPattern (word : String) : WordPattern Char :=
  .between (.seq (.literal word.toList) (.seq (.rep (!tables.isDecimal ·) 0 none)
    (.group (digits tables 3 (some 10)))))

/-- `_parse_torrent_external_ids`. -/
def parseTorrentExternalIds (name : String) : Option String × Option Nat × Option String :=
  let lowered := (tables.lower name).toList
  let imdbMatch := WordPattern.search tables.isWord (imdbPattern tables) none lowered
  let tmdbMatch := WordPattern.search tables.isWord (providerIdPattern tables "tmdb") none lowered
  let tvdbMatch := WordPattern.search tables.isWord (providerIdPattern tables "tvdb") none lowered
  (imdbMatch.map fun f => String.ofList f.taken, numberOf tables tmdbMatch 0,
    (tvdbMatch.bind (·.groups[0]?)).map String.ofList)

def torrentIdentity (name : String) : TorrentIdentity :=
  let (title, year) := parseTorrentIdentity tables name
  let (seasonNumber, episodeNumber) := parseTorrentEpisodeMarkers tables name
  let (imdbId, tmdbId, tvdbId) := parseTorrentExternalIds tables name
  ⟨title, year, seasonNumber, episodeNumber, imdbId, tmdbId, tvdbId⟩

/-- `_normalize_identity_text`: the pieces of small letters and digits, joined by blanks. -/
def normalizeIdentityText (value : String) : String :=
  " ".intercalate ((((tables.lower value).toList.splitOnP (!isTokenChar ·)).map
    String.ofList).filter (· ≠ ""))

/-- `_titles_compatible`. -/
def titlesCompatible (parsedTitle candidateTitle : String) : Bool :=
  let parsed := normalizeIdentityText tables parsedTitle
  let candidate := normalizeIdentityText tables candidateTitle
  parsed ≠ "" && candidate ≠ "" &&
    (parsed = candidate || PythonText.startsWith parsed candidate ||
      PythonText.startsWith candidate parsed)

/-- `_movie_identity_confident`. -/
def movieIdentityConfident (identity : TorrentIdentity) (savePath : Option String)
    (row : MovieRow) : Bool :=
  let titleMatch := titlesCompatible tables identity.title row.movie.title
  let yearMatch := identity.year.isNone || row.movie.year.isNone || row.movie.year = identity.year
  let pathOverlap := pathOverlapDepth tables.toCaseTables savePath row.version.path
  identity.imdbId.any (tables.lower (row.movie.imdbId.getD "") = ·) ||
    identity.tmdbId.any (row.movie.tmdbId = ·) || 2 ≤ pathOverlap ||
    (1 ≤ pathOverlap && titleMatch && yearMatch)

/-- `_episode_identity_confident`. -/
def episodeIdentityConfident (identity : TorrentIdentity) (savePath : Option String)
    (row : EpisodeRow) : Bool :=
  let titleMatch := titlesCompatible tables identity.title row.series.title
  let pathOverlap := pathOverlapDepth tables.toCaseTables savePath row.episode.path
  identity.imdbId.any (tables.lower (row.series.imdbId.getD "") = ·) ||
    identity.tmdbId.any (row.series.tmdbId = ·) ||
    identity.tvdbId.any (row.series.tvdbId.getD "" = ·) || 2 ≤ pathOverlap ||
    (1 ≤ pathOverlap && titleMatch) ||
    (titleMatch && identity.seasonNumber.any (row.season.seasonNumber = ·) &&
      identity.episodeNumber.all (row.episode.episodeNumber = ·))

/-- What both answers search by. -/
def torrentEvidence (torrent : TorrentSummary) : TorrentEvidence where
  savePath := some (lowerFpath tables.toCaseTables (torrent.savePath.getD "")) |>.filter (· ≠ "")
  token := nameToken tables torrent.name
  category := some (tables.lower (torrent.category.getD "")) |>.filter (· ≠ "")

end Names

/-! ## The selected match -/

inductive SelectedMatch where
  | movie (found : Match MovieRow)
  | episode (found : Match EpisodeRow)

/-- `selected_mode`: the movie unless the episode scores higher. -/
def selectMatch : Option (Match MovieRow) → Option (Match EpisodeRow) → Option SelectedMatch
  | some movie, some episode =>
    if episode.score ≤ movie.score then some (.movie movie) else some (.episode episode)
  | some movie, none => some (.movie movie)
  | none, some episode => some (.episode episode)
  | none, none => none

/-- The media that owns the file of a match. -/
def SelectedMatch.owner : SelectedMatch → MediaType × Nat
  | .movie found => (.movie, found.row.movie.id)
  | .episode found => (.series, found.row.series.id)

section Protection

variable (db : CorrelationTables) (now : Nat)

/-- The state that a count of protections and one of pending requests give. -/
def protectionText (isProtected isPending : Bool) : String :=
  if isProtected then "Protected" else if isPending then "Pending Request" else "Unprotected"

/-- `_movie_protection_status`. -/
def movieProtectionStatus (movieId movieVersionId : Nat) : String :=
  protectionText
    (db.protectedMedia.any fun p => p.movieId = some movieId &&
      p.movieVersionId.all (· = movieVersionId) && p.isActive now)
    (db.protectionRequests.any fun r => r.movieId = some movieId && r.status = .pending &&
      r.movieVersionId.all (· = movieVersionId))

/-- The scopes that hold an episode: its series, its season or itself. -/
def holdsEpisode (target : MediaTarget) (seriesId seasonId episodeId : Nat) : Bool :=
  target.seriesId = some seriesId &&
    (target.seasonId.isNone && target.episodeId.isNone ||
      target.seasonId = some seasonId && target.episodeId.isNone ||
        target.episodeId = some episodeId)

/-- `_series_scope_protection_status`. -/
def seriesScopeProtectionStatus (seriesId seasonId episodeId : Nat) : String :=
  protectionText
    (db.protectedMedia.any fun p =>
      holdsEpisode p.target seriesId seasonId episodeId && p.isActive now)
    (db.protectionRequests.any fun r =>
      holdsEpisode r.target seriesId seasonId episodeId && r.status = .pending)

end Protection

/-! ## The two answers -/

/-- `CorrelationResolvedFields`. -/
structure ResolvedFields where
  torrent : String
  series : String := "Unknown"
  episode : String := "Unknown"
  movie : String := "Unknown"
  file : String := "Unknown"
  mediaServer : String := "Unknown"
  protectionStatus : String := "Unknown"
  watchStatus : String := "Unknown"
  importStatus : String := "Unknown"
  provider : String
  storagePath : String
  deriving DecidableEq, Repr

structure CorrelatedArtwork where
  posterUrl : Option String := none
  backdropUrl : Option String := none
  mediaType : Option MediaType := none
  mediaId : Option Nat := none
  reason : Option String := none
  deriving DecidableEq, Repr

/-- `f"{title} ({year})"`, or the title alone. -/
def titleText (title : String) (year : Option Nat) : String :=
  year.elim title fun year => title ++ " (" ++ toString year ++ ")"

section Answers

variable (tables : NameTables) (db : CorrelationTables) (visits : RowVisits db.toLibrary)
  (now : Nat) (torrent : TorrentSummary)

/-- The match that both answers select. -/
def selectedMatch : Option SelectedMatch :=
  let e := torrentEvidence tables torrent
  selectMatch (findBestMovieMatch tables.toCaseTables visits e)
    (findBestEpisodeMatch tables.toCaseTables visits e)

/-- The fields without a match. -/
def unknownFields : ResolvedFields where
  torrent := torrent.name
  provider := torrent.provider
  storagePath := (torrent.savePath.filter (· ≠ "")).getD "Unknown"

def movieFields (row : MovieRow) : ResolvedFields :=
  { unknownFields torrent with
    movie := titleText row.movie.title row.movie.year
    file := (row.version.path.filter (· ≠ "")).getD "Unknown"
    mediaServer := row.version.service.value ++ ":" ++ row.version.serviceItemId
    watchStatus := if 0 < row.movie.viewCount then "Watched" else "Unwatched"
    protectionStatus := movieProtectionStatus db now row.movie.id row.version.id
    importStatus := "Imported"
    provider := row.version.service.value }

def episodeFields (row : EpisodeRow) : ResolvedFields :=
  let mediaRef := db.seriesServiceRefs.find? (·.seriesId = row.series.id)
  { unknownFields torrent with
    series := titleText row.series.title row.series.year
    episode := "S" ++ Deletion.twoDigits row.season.seasonNumber ++ "E" ++
      Deletion.twoDigits row.episode.episodeNumber ++ " - " ++
        (row.episode.name.filter (· ≠ "")).getD "Unknown Episode"
    file := (row.episode.path.filter (· ≠ "")).getD "Unknown"
    mediaServer := mediaRef.elim "Unknown" fun ref => ref.service.value ++ ":" ++ ref.serviceId
    provider := mediaRef.elim torrent.provider (·.service.value)
    watchStatus := if 0 < row.episode.viewCount then "Watched" else "Unwatched"
    protectionStatus := seriesScopeProtectionStatus db now row.series.id row.season.id
      row.episode.id
    importStatus := "Imported" }

/-- `correlate_torrent`. -/
def correlateTorrent : ResolvedFields :=
  match selectedMatch tables db visits torrent with
  | some (.movie found) => movieFields db now torrent found.row
  | some (.episode found) => episodeFields db now torrent found.row
  | none => unknownFields torrent

def artworkOf (mediaType : MediaType) (mediaId : Nat) (posterUrl backdropUrl : Option String) :
    CorrelatedArtwork where
  posterUrl := posterUrl
  backdropUrl := backdropUrl
  mediaType := some mediaType
  mediaId := some mediaId
  reason := if posterUrl.any (· ≠ "") then none
    else some (match mediaType with
      | .movie => "movie_match_missing_poster"
      | .series => "series_match_missing_poster")

def noArtwork : CorrelatedArtwork := { reason := some "no_matching_media_asset" }

/-- The evidence that a selected match is the torrent's media. -/
def identityConfident : SelectedMatch → Bool
  | .movie found => movieIdentityConfident tables (torrentIdentity tables torrent.name)
      (torrentEvidence tables torrent).savePath found.row
  | .episode found => episodeIdentityConfident tables (torrentIdentity tables torrent.name)
      (torrentEvidence tables torrent).savePath found.row

/-- `resolve_torrent_artwork`. -/
def resolveTorrentArtwork : CorrelatedArtwork :=
  match selectedMatch tables db visits torrent with
  | some (.movie found) =>
    if identityConfident tables torrent (.movie found) then
      artworkOf .movie found.row.movie.id found.row.movie.posterUrl found.row.movie.backdropUrl
    else noArtwork
  | some (.episode found) =>
    if identityConfident tables torrent (.episode found) then
      artworkOf .series found.row.series.id found.row.series.posterUrl found.row.series.backdropUrl
    else noArtwork
  | none => noArtwork

end Answers

/-! ## Agreement -/

section Agreement

variable (tables : NameTables) (db : CorrelationTables) (visits : RowVisits db.toLibrary)
  (now : Nat) (torrent : TorrentSummary)

/-- The detail reports the media as the owner of the imported file. -/
def ReportsOwner (mediaType : MediaType) (mediaId : Nat) : Prop :=
  ∃ found, selectedMatch tables db visits torrent = some found ∧ found.owner = (mediaType, mediaId)

/-- Both answers name the same media, and a torrent without media is not shown as imported, watched
or protected. -/
structure AnswersAgree : Prop where
  owner : ∀ mediaType mediaId, ReportsOwner tables db visits torrent mediaType mediaId ↔
    (resolveTorrentArtwork tables db visits torrent).mediaType = some mediaType ∧
      (resolveTorrentArtwork tables db visits torrent).mediaId = some mediaId
  unknown : (resolveTorrentArtwork tables db visits torrent).mediaId = none →
    (correlateTorrent tables db visits now torrent).importStatus = "Unknown" ∧
      (correlateTorrent tables db visits now torrent).watchStatus = "Unknown" ∧
        (correlateTorrent tables db visits now torrent).protectionStatus = "Unknown"

variable {tables db visits now torrent}

/-- The artwork is that of the selected match, when there is evidence for it. -/
theorem artwork_owner {found : SelectedMatch}
    (h : selectedMatch tables db visits torrent = some found) :
    ((resolveTorrentArtwork tables db visits torrent).mediaType,
        (resolveTorrentArtwork tables db visits torrent).mediaId) =
      if identityConfident tables torrent found then (some found.owner.1, some found.owner.2)
      else (none, none) := by
  unfold resolveTorrentArtwork
  rw [h]
  cases found with
  | movie found => dsimp only; split_ifs <;> rfl
  | episode found => dsimp only; split_ifs <;> rfl

theorem artwork_of_none (h : selectedMatch tables db visits torrent = none) :
    resolveTorrentArtwork tables db visits torrent = noArtwork := by
  unfold resolveTorrentArtwork
  rw [h]

/-- A selected match is shown as imported. -/
theorem importStatus_of_selected {found : SelectedMatch}
    (h : selectedMatch tables db visits torrent = some found) :
    (correlateTorrent tables db visits now torrent).importStatus = "Imported" := by
  unfold correlateTorrent
  rw [h]
  cases found <;> rfl

theorem correlateTorrent_of_none (now : Nat) (h : selectedMatch tables db visits torrent = none) :
    correlateTorrent tables db visits now torrent = unknownFields torrent := by
  unfold correlateTorrent
  rw [h]

/-- The answers agree exactly when there is evidence for the selected match, if any. -/
theorem answersAgree_iff (tables : NameTables) (db : CorrelationTables)
    (visits : RowVisits db.toLibrary) (now : Nat) (torrent : TorrentSummary) :
    AnswersAgree tables db visits now torrent ↔
      ∀ found, selectedMatch tables db visits torrent = some found →
        identityConfident tables torrent found = true := by
  constructor
  · intro h found hfound
    by_contra hconfident
    have howner := artwork_owner hfound
    rw [if_neg hconfident] at howner
    obtain ⟨-, hnone⟩ := Prod.mk.inj howner
    have himported := (h.unknown hnone).1
    rw [importStatus_of_selected hfound] at himported
    exact absurd himported (by decide)
  · intro h
    cases hselected : selectedMatch tables db visits torrent with
    | none =>
      have hartwork := artwork_of_none hselected
      have hfields := correlateTorrent_of_none now hselected
      refine ⟨fun mediaType mediaId => ⟨?_, ?_⟩, fun _ => ?_⟩
      · rintro ⟨found, hfound, -⟩
        rw [hselected] at hfound
        cases hfound
      · rintro ⟨hmedia, -⟩
        rw [hartwork] at hmedia
        cases hmedia
      · rw [hfields]
        exact ⟨rfl, rfl, rfl⟩
    | some found =>
      have howner := artwork_owner hselected
      rw [if_pos (h found hselected)] at howner
      obtain ⟨hmediaType, hmediaId⟩ := Prod.mk.inj howner
      refine ⟨fun mediaType mediaId => ⟨?_, ?_⟩, fun hnone => ?_⟩
      · rintro ⟨found', hfound', hsame⟩
        obtain rfl := Option.some.inj (hselected.symm.trans hfound')
        rw [hsame] at hmediaType hmediaId
        exact ⟨hmediaType, hmediaId⟩
      · rintro ⟨htype, hid⟩
        refine ⟨found, hselected, Prod.ext_iff.mpr ⟨?_, ?_⟩⟩
        · exact Option.some.inj (hmediaType.symm.trans htype)
        · exact Option.some.inj (hmediaId.symm.trans hid)
      · rw [hnone] at hmediaId
        cases hmediaId

def sequelVersion : MovieVersion where
  id := 1
  movieId := 1
  service := .plex
  serviceItemId := "9001"
  serviceMediaId := "9001-1"
  path := some "/library/matrix 2.mkv"

/-- A movie that shares a word with the name of a torrent, but no folder. -/
def sequelLibrary : CorrelationTables where
  movies := [{ id := 1, tmdbId := 999001, title := "Matrix 2", year := some 2003 }]
  movieVersions := [sequelVersion]

def matrixTorrent : TorrentSummary where
  name := "Matrix"
  category := some "radarr"
  savePath := some "/downloads"

/-- The torrent is shown as imported, while the artwork finds no media. -/
theorem not_answersAgree_sequel :
    ¬AnswersAgree asciiNames sequelLibrary sequelLibrary.visits 0 matrixTorrent := by
  intro h
  have hselected : (selectedMatch asciiNames sequelLibrary sequelLibrary.visits
      matrixTorrent).map (identityConfident asciiNames matrixTorrent) = some false := by
    decide +kernel
  obtain ⟨found, hfound, hconfident⟩ := Option.map_eq_some_iff.mp hselected
  have howner := artwork_owner hfound
  rw [if_neg (by simp [hconfident])] at howner
  have himported := (h.unknown (Prod.mk.inj howner).2).1
  rw [importStatus_of_selected hfound] at himported
  exact absurd himported (by decide)

end Agreement

end MediaMasterr.Correlation
