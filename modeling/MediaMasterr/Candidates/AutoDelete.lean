import Mathlib.Tactic.Linarith
import MediaMasterr.Database.Tables

/-! # Auto-delete selection

`_select_auto_delete_eligible_candidate_ids`: a candidate is eligible when no
protection, protection request or delete request refers to its movie or series
and the delays of all its rules are over. -/

namespace MediaMasterr.Candidates

open MediaMasterr.Database

def maxAutoDeleteDelayDays : Int := 3650

/-- `_valid_override`. -/
def validOverride : Option JsonNumber → Option Int
  | some (.int n) => if n < 0 ∨ maxAutoDeleteDelayDays < n then none else some n
  | _ => none

def secondsPerDay : Nat := 86400

structure AutoDeletePolicy where
  delayDays : Int
  eligibleAt : Int
  isEligible : Bool
  deriving DecidableEq

/-- The clamped global delay of a media type. -/
def globalDelay (settings : GeneralSettings) (mediaType : MediaType) : Int :=
  let days := if mediaType = .movie then settings.autoDeleteMovieDelayDays
    else settings.autoDeleteSeriesDelayDays
  min (max days 0) maxAutoDeleteDelayDays

/-- The delay that a matched rule asks for. -/
def ruleDelay (db : Tables) (mediaType : MediaType) (ruleId : Nat) : Int :=
  (validOverride ((db.findRule ruleId).bind (·.autoDeleteDelayDays))).getD
    (globalDelay db.effectiveSettings mediaType)

/-- `resolve_auto_delete_policy` for a candidate. -/
def resolveAutoDeletePolicy (db : Tables) (now : Nat) (candidate : ReclaimCandidate) :
    AutoDeletePolicy :=
  let delayDays : Int :=
    match candidate.matchedRuleIds.map (ruleDelay db candidate.mediaType) with
    | [] => globalDelay db.effectiveSettings candidate.mediaType
    | delay :: delays => delays.foldl max delay
  let eligibleAt : Int := candidate.createdAt + delayDays * secondsPerDay
  ⟨delayDays, eligibleAt, eligibleAt ≤ now⟩

section Blocked

variable (db : Tables) (now : Nat)

/-- The targets of the rows that hold media back. -/
def heldTargets : List MediaTarget :=
  (db.protectedMedia.filter (·.isActive now)).map ProtectedMedia.target ++
    (db.protectionRequests.filter (·.status = .pending)).map ProtectionRequest.target ++
    (db.deleteRequests.filter (·.status = .pending)).map DeleteRequest.target

/-- The rows of the queries for one media type. -/
def heldOf (mediaType : MediaType) : List MediaTarget :=
  (heldTargets db now).filter (·.mediaType = mediaType)

def blockedMovieVersionIds : List Nat := (heldOf db now .movie).filterMap (·.movieVersionId)

def blockedMovieIds : List Nat :=
  (heldOf db now .movie).filterMap (·.movieId) ++
    (db.movieVersions.filter (·.id ∈ blockedMovieVersionIds db now)).map (·.movieId)

def blockedEpisodeIds : List Nat := (heldOf db now .series).filterMap (·.episodeId)

def blockedSeasonIds : List Nat :=
  (heldOf db now .series).filterMap (·.seasonId) ++
    (db.episodes.filter (·.id ∈ blockedEpisodeIds db now)).map (·.seasonId)

def blockedSeriesIds : List Nat :=
  (heldOf db now .series).filterMap (·.seriesId) ++
    (db.seasons.filter (·.id ∈ blockedSeasonIds db now)).map (·.seriesId)

/-- Some row holds the candidate back. -/
def isBlocked (candidate : ReclaimCandidate) : Bool :=
  match candidate.mediaType with
  | .movie =>
    candidate.movieId.any (· ∈ blockedMovieIds db now) ||
      candidate.movieVersionId.any (· ∈ blockedMovieVersionIds db now)
  | .series =>
    candidate.seriesId.any (· ∈ blockedSeriesIds db now) ||
      candidate.seasonId.any (· ∈ blockedSeasonIds db now) ||
      candidate.episodeId.any (· ∈ blockedEpisodeIds db now)

/-- The result of the selection. -/
structure Selection where
  eligibleIds : List Nat := []
  blockedCount : Nat := 0
  waitingCount : Nat := 0
  deriving DecidableEq

/-- One candidate of the selection loop. -/
def selectStep (selection : Selection) (candidate : ReclaimCandidate) : Selection :=
  if isBlocked db now candidate then
    { selection with blockedCount := selection.blockedCount + 1 }
  else if (resolveAutoDeletePolicy db now candidate).isEligible then
    { selection with eligibleIds := selection.eligibleIds ++ [candidate.id] }
  else { selection with waitingCount := selection.waitingCount + 1 }

/-- `_select_auto_delete_eligible_candidate_ids`. -/
def selectAutoDeleteEligibleCandidateIds : Selection :=
  db.candidates.foldl (selectStep db now) {}

end Blocked

/-! ## Held media -/

/-- The target is the movie, or names a version of it. -/
def RefersToMovie (db : Tables) (target : MediaTarget) (movieId : Nat) : Prop :=
  target.movieId = some movieId ∨
    ∃ v ∈ db.movieVersions, target.movieVersionId = some v.id ∧ v.movieId = movieId

/-- The target is the series, or names a season or an episode of it. -/
def RefersToSeries (db : Tables) (target : MediaTarget) (seriesId : Nat) : Prop :=
  target.seriesId = some seriesId ∨
    ∃ season ∈ db.seasons, season.seriesId = seriesId ∧
      (target.seasonId = some season.id ∨
        ∃ episode ∈ db.episodes, episode.seasonId = season.id ∧
          target.episodeId = some episode.id)

/-- The target refers to the movie or series of the candidate. -/
def RefersToMediaOf (db : Tables) (target : MediaTarget) (candidate : ReclaimCandidate) : Prop :=
  match candidate.mediaType with
  | .movie => ∃ movieId, candidate.movieId = some movieId ∧ RefersToMovie db target movieId
  | .series => ∃ seriesId, candidate.seriesId = some seriesId ∧ RefersToSeries db target seriesId

variable {db : Tables} {now : Nat}

theorem mem_heldOf {mediaType : MediaType} {target : MediaTarget} :
    target ∈ heldOf db now mediaType ↔ target ∈ heldTargets db now ∧
      target.mediaType = mediaType := by
  simp [heldOf]

theorem mem_blockedMovieIds_iff {movieId : Nat} :
    movieId ∈ blockedMovieIds db now ↔
      ∃ target ∈ heldOf db now .movie, RefersToMovie db target movieId := by
  simp only [blockedMovieIds, blockedMovieVersionIds, List.mem_append, List.mem_filterMap,
    List.mem_map, List.mem_filter, decide_eq_true_eq, RefersToMovie]
  constructor
  · rintro (⟨target, htarget, hmovie⟩ | ⟨v, ⟨hv, target, htarget, hversion⟩, hmovie⟩)
    · exact ⟨target, htarget, Or.inl hmovie⟩
    · exact ⟨target, htarget, Or.inr ⟨v, hv, hversion, hmovie⟩⟩
  · rintro ⟨target, htarget, hmovie | ⟨v, hv, hversion, hmovie⟩⟩
    · exact Or.inl ⟨target, htarget, hmovie⟩
    · exact Or.inr ⟨v, ⟨hv, target, htarget, hversion⟩, hmovie⟩

theorem mem_blockedSeasonIds_iff {seasonId : Nat} :
    seasonId ∈ blockedSeasonIds db now ↔ ∃ target ∈ heldOf db now .series,
      target.seasonId = some seasonId ∨
        ∃ episode ∈ db.episodes, episode.seasonId = seasonId ∧
          target.episodeId = some episode.id := by
  simp only [blockedSeasonIds, blockedEpisodeIds, List.mem_append, List.mem_filterMap,
    List.mem_map, List.mem_filter, decide_eq_true_eq]
  constructor
  · rintro (⟨target, htarget, hseason⟩ | ⟨e, ⟨he, target, htarget, hepisode⟩, hseason⟩)
    · exact ⟨target, htarget, Or.inl hseason⟩
    · exact ⟨target, htarget, Or.inr ⟨e, he, hseason, hepisode⟩⟩
  · rintro ⟨target, htarget, hseason | ⟨e, he, hseason, hepisode⟩⟩
    · exact Or.inl ⟨target, htarget, hseason⟩
    · exact Or.inr ⟨e, ⟨he, target, htarget, hepisode⟩, hseason⟩

theorem mem_blockedSeriesIds_iff {seriesId : Nat} :
    seriesId ∈ blockedSeriesIds db now ↔
      ∃ target ∈ heldOf db now .series, RefersToSeries db target seriesId := by
  simp only [blockedSeriesIds, List.mem_append, List.mem_filterMap, List.mem_map, List.mem_filter,
    decide_eq_true_eq, mem_blockedSeasonIds_iff, RefersToSeries]
  constructor
  · rintro (⟨target, htarget, hseries⟩ | ⟨season, ⟨hseason, target, htarget, hbelow⟩, hseries⟩)
    · exact ⟨target, htarget, Or.inl hseries⟩
    · exact ⟨target, htarget, Or.inr ⟨season, hseason, hseries, hbelow⟩⟩
  · rintro ⟨target, htarget, hseries | ⟨season, hseason, hseries, hbelow⟩⟩
    · exact Or.inl ⟨target, htarget, hseries⟩
    · exact Or.inr ⟨season, ⟨hseason, target, htarget, hbelow⟩, hseries⟩

/-- What refers to the media of a candidate blocks it. -/
theorem isBlocked_of_refersToMediaOf {candidate : ReclaimCandidate} {target : MediaTarget}
    (htarget : target ∈ heldTargets db now) (htype : target.mediaType = candidate.mediaType)
    (h : RefersToMediaOf db target candidate) : isBlocked db now candidate = true := by
  unfold RefersToMediaOf at h
  unfold isBlocked
  cases hmedia : candidate.mediaType with
  | movie =>
    rw [hmedia] at h htype
    obtain ⟨movieId, hmovie, hrefers⟩ := h
    have hmem := mem_blockedMovieIds_iff.mpr ⟨target, mem_heldOf.mpr ⟨htarget, htype⟩, hrefers⟩
    simp [hmovie, hmem]
  | series =>
    rw [hmedia] at h htype
    obtain ⟨seriesId, hseries, hrefers⟩ := h
    have hmem := mem_blockedSeriesIds_iff.mpr ⟨target, mem_heldOf.mpr ⟨htarget, htype⟩, hrefers⟩
    simp [hseries, hmem]

/-! ## Delays -/

theorem le_foldl_max {delays : List Int} {start : Int} :
    start ≤ delays.foldl max start ∧ ∀ d ∈ delays, d ≤ delays.foldl max start := by
  induction delays generalizing start with
  | nil => simp
  | cons delay delays ih =>
    obtain ⟨hstart, hall⟩ := @ih (max start delay)
    refine ⟨(le_max_left _ _).trans hstart, fun d hd => ?_⟩
    rcases List.mem_cons.mp hd with rfl | hd
    · exact (le_max_right _ _).trans hstart
    · exact hall d hd

/-- The delay of a candidate is at least that of each rule. -/
theorem ruleDelay_le_delayDays {candidate : ReclaimCandidate} {ruleId : Nat}
    (h : ruleId ∈ candidate.matchedRuleIds) :
    ruleDelay db candidate.mediaType ruleId ≤
      (resolveAutoDeletePolicy db now candidate).delayDays := by
  have hmem : ruleDelay db candidate.mediaType ruleId ∈
      candidate.matchedRuleIds.map (ruleDelay db candidate.mediaType) :=
    List.mem_map.mpr ⟨ruleId, h, rfl⟩
  simp only [resolveAutoDeletePolicy]
  cases hdelays : candidate.matchedRuleIds.map (ruleDelay db candidate.mediaType) with
  | nil => simp [hdelays] at hmem
  | cons delay delays =>
    rw [hdelays] at hmem
    rcases List.mem_cons.mp hmem with heq | hmem
    · exact heq ▸ le_foldl_max.1
    · exact le_foldl_max.2 _ hmem

/-! ## The selection -/

/-- What the loop makes of a list of candidates. -/
theorem foldl_selectStep (candidates : List ReclaimCandidate) (selection : Selection) :
    let result := candidates.foldl (selectStep db now) selection
    (∀ id ∈ result.eligibleIds, id ∈ selection.eligibleIds ∨ ∃ c ∈ candidates, c.id = id ∧
        isBlocked db now c = false ∧ (resolveAutoDeletePolicy db now c).isEligible = true) ∧
      result.eligibleIds.length + result.blockedCount + result.waitingCount =
        selection.eligibleIds.length + selection.blockedCount + selection.waitingCount +
          candidates.length := by
  induction candidates generalizing selection with
  | nil => exact ⟨fun id hid => Or.inl hid, rfl⟩
  | cons c candidates ih =>
    obtain ⟨hids, hcount⟩ := ih (selectStep db now selection c)
    constructor
    · intro id hid
      rcases hids id hid with hstep | ⟨c', hc', h⟩
      · unfold selectStep at hstep
        split_ifs at hstep with hblocked heligible
        · exact Or.inl hstep
        · rcases List.mem_append.mp hstep with hold | hnew
          · exact Or.inl hold
          · exact Or.inr ⟨c, List.mem_cons_self, (List.mem_singleton.mp hnew).symm,
              by simpa using hblocked, heligible⟩
        · exact Or.inl hstep
      · exact Or.inr ⟨c', List.mem_cons_of_mem _ hc', h⟩
    · rw [List.foldl_cons, hcount, List.length_cons]
      unfold selectStep
      split_ifs
      · dsimp only
        omega
      · dsimp only
        rw [List.length_append, List.length_singleton]
        omega
      · dsimp only
        omega

/-- Auto-delete selects no held media and no candidate before the delay of each of its rules is
over, and counts every candidate once. -/
theorem selectAutoDeleteEligibleCandidateIds_spec (db : Tables) (now : Nat) :
    (∀ id ∈ (selectAutoDeleteEligibleCandidateIds db now).eligibleIds,
      ∃ c ∈ db.candidates, c.id = id ∧
        (∀ target ∈ heldTargets db now, target.mediaType = c.mediaType →
          ¬RefersToMediaOf db target c) ∧
        ∀ ruleId ∈ c.matchedRuleIds,
          c.createdAt + ruleDelay db c.mediaType ruleId * secondsPerDay ≤ now) ∧
      (selectAutoDeleteEligibleCandidateIds db now).eligibleIds.length +
          (selectAutoDeleteEligibleCandidateIds db now).blockedCount +
          (selectAutoDeleteEligibleCandidateIds db now).waitingCount =
        db.candidates.length := by
  obtain ⟨hids, hcount⟩ := @foldl_selectStep db now db.candidates {}
  refine ⟨fun id hid => ?_, hcount.trans (by simp)⟩
  rcases hids id hid with hnil | ⟨c, hc, rfl, hblocked, heligible⟩
  · exact absurd hnil List.not_mem_nil
  · refine ⟨c, hc, rfl, fun target htarget htype hrefers => ?_, fun ruleId hrule => ?_⟩
    · rw [isBlocked_of_refersToMediaOf htarget htype hrefers] at hblocked
      exact absurd hblocked (by simp)
    · have hdelay := @ruleDelay_le_delayDays db now c ruleId hrule
      simp only [resolveAutoDeletePolicy, decide_eq_true_eq] at heligible hdelay
      have hscaled := mul_le_mul_of_nonneg_right hdelay (Int.natCast_nonneg secondsPerDay)
      exact le_trans (by linarith) heligible

end MediaMasterr.Candidates
