import MediaMasterr.Deletion.MovieRun

/-! # Radarr entries and selected versions

Radarr deletes an entry with its whole folder. A movie that is not selected as a
whole gets into a delete batch only with entries whose folders hold selected
versions and nothing else. -/

namespace MediaMasterr.Deletion.Movie

open MediaMasterr.Foundations MediaMasterr.Database MediaMasterr.Filesystem

/-- A candidate of the movie names the version. -/
def VersionSelected (candidates : List ReclaimCandidate) (movieId versionId : Nat) : Prop :=
  ∃ c ∈ candidates, c.movieId = some movieId ∧ c.movieVersionId = some versionId

/-- The path of the version lies in the folder of the ref. -/
def InFolder (db : Tables) (v : MovieVersion) (ref : MovieArrRef) : Prop :=
  folderContains db v.path (some v.service) ref.arrMoviePath ref.serviceConfigId = true

/-- The deletion of the ref's entry takes selected versions only: the movie is selected as a
whole, or the folder holds no other version; where the folder tells nothing, every version of the
movie is selected. -/
def TakesSelectedOnly (db : Tables) (candidates : List ReclaimCandidate) (movieId : Nat)
    (ref : MovieArrRef) : Prop :=
  (∃ c ∈ candidates, c.movieId = some movieId ∧ c.movieVersionId = none) ∨
    (∀ v ∈ versionsOf db movieId, InFolder db v ref → VersionSelected candidates movieId v.id) ∧
    ((truthyText ref.arrMoviePath = none ∨ ∀ v ∈ versionsOf db movieId, ¬InFolder db v ref) →
      ∀ v ∈ versionsOf db movieId, VersionSelected candidates movieId v.id)

variable {env : Environment} {db : Tables} {candidates : List ReclaimCandidate}
variable {movieId config : Nat}

/-! ## The coverage check -/

theorem mem_selectedVersionIds {versionId : Nat} :
    versionId ∈ (candidateVersionIds candidates movieId).filterMap id ↔
      VersionSelected candidates movieId versionId := by
  simp [candidateVersionIds, VersionSelected, and_assoc]

/-- A pair of configuration and Radarr id has the folder of its only ref. -/
theorem folderOfPair_eq {refs : List MovieArrRef} {ref : MovieArrRef} (href : ref ∈ refs)
    (hkeys : (refs.map fun r => (r.serviceConfigId, r.arrMovieId)).Nodup) :
    folderOfPair refs (ref.serviceConfigId, ref.arrMovieId) = ref.arrMoviePath := by
  unfold folderOfPair
  cases hfind : refs.reverse.find? fun r =>
      (r.serviceConfigId, r.arrMovieId) = (ref.serviceConfigId, ref.arrMovieId) with
  | none =>
    have hnone := List.find?_eq_none.mp hfind ref (List.mem_reverse.mpr href)
    simp at hnone
  | some found =>
    have hmem := List.mem_reverse.mp (List.mem_of_find?_eq_some hfind)
    have hpair : (found.serviceConfigId, found.arrMovieId) =
        (ref.serviceConfigId, ref.arrMovieId) := by
      simpa using List.find?_some hfind
    obtain rfl := List.inj_on_of_nodup_map hkeys hmem href hpair
    rfl

/-- What the coverage check says of one matched entry. -/
theorem takesSelectedOnly_of_covers {ref : MovieArrRef} {matched : List (Nat × Nat)}
    (hkeys : ((movieRefs db movieId).map fun r => (r.serviceConfigId, r.arrMovieId)).Nodup)
    (href : ref ∈ movieRefs db movieId)
    (hmem : (ref.serviceConfigId, ref.arrMovieId) ∈ matched)
    (h : candidateCoversFullRadarrEntry db movieId
      ((candidateVersionIds candidates movieId).filterMap id) matched
      (movieRefs db movieId) = true) : TakesSelectedOnly db candidates movieId ref := by
  refine Or.inr ?_
  have hall : ∀ {b : Bool}, (b && (versionsOf db movieId).all (fun v =>
      v.id ∈ (candidateVersionIds candidates movieId).filterMap id)) = true →
      ∀ v ∈ versionsOf db movieId, VersionSelected candidates movieId v.id := by
    intro b hb v hv
    simp only [Bool.and_eq_true, List.all_eq_true, decide_eq_true_eq] at hb
    exact mem_selectedVersionIds.mp (hb.2 v hv)
  unfold candidateCoversFullRadarrEntry at h
  dsimp only at h
  split_ifs at h
  have hpair := List.all_eq_true.mp h _ hmem
  rw [folderOfPair_eq href hkeys] at hpair
  split at hpair
  · rename_i folder hfolder
    obtain ⟨hpath, -⟩ : ref.arrMoviePath = some folder ∧ folder ≠ "" := by
      simpa [truthyText] using hfolder
    split_ifs at hpair with hempty
    · exact ⟨fun v hv _ => hall hpair v hv, fun _ => hall hpair⟩
    · simp only [List.all_eq_true, List.mem_filter, decide_eq_true_eq] at hpair
      refine ⟨fun v hv hfolder => mem_selectedVersionIds.mp (hpair v ⟨hv, ?_⟩), ?_⟩
      · rwa [InFolder, hpath] at hfolder
      · rintro (hnone | hnone)
        · simp [hfolder] at hnone
        · refine absurd (List.isEmpty_iff.mpr (List.filter_eq_nil_iff.mpr fun v hv => ?_)) hempty
          rw [← hpath]
          exact hnone v hv
  · exact ⟨fun v hv _ => hall hpair v hv, fun _ => hall hpair⟩

/-- A version candidate of a movie that is deleted is routed to entries that it covers only. -/
theorem covers_of_versionRoute {c : ReclaimCandidate} {pairs : List (Nat × Nat)}
    (hroute : versionRoute env db candidates c = some pairs) (hmovie : c.movieId = some movieId)
    (haction : arrAction db candidates movieId ≠ some .unmonitor) :
    candidateCoversFullRadarrEntry db movieId
      ((candidateVersionIds candidates movieId).filterMap id) pairs
      (movieRefs db movieId) = true := by
  unfold versionRoute at hroute
  split at hroute
  · rename_i movieId' versionId hmovie' hversion
    obtain rfl : movieId' = movieId := Option.some.inj (hmovie'.symm.trans hmovie)
    dsimp only at hroute
    split_ifs at hroute with hnone hunmonitor hdelete
    · cases h : arrAction db candidates movieId' with
      | none => simp [h] at hunmonitor
      | some action =>
        rw [h, Option.getD_some] at hunmonitor
        exact absurd (hunmonitor.2 ▸ h) haction
    · rw [← Option.some.inj hroute]
      exact hdelete.2.2
  · exact absurd hroute (by simp)

/-! ## The delete batches -/

/-- An entry of a delete batch takes selected versions only. -/
theorem takesSelectedOnly_of_mem_batch {job : MovieJob} {ref : MovieArrRef}
    (hkeys : (db.movieArrRefs.map fun r => (r.serviceConfigId, r.arrMovieId)).Nodup)
    (hjob : job ∈ batch env db candidates false config) (href : ref ∈ movieRefs db job.movieId)
    (hpair : (ref.serviceConfigId, ref.arrMovieId) = (config, job.radarrId)) :
    TakesSelectedOnly db candidates job.movieId ref := by
  have hentry := mem_batch hjob
  have hrefKeys : ((movieRefs db job.movieId).map fun r =>
      (r.serviceConfigId, r.arrMovieId)).Nodup := hkeys.sublist (List.filter_sublist.map _)
  have haction : arrAction db candidates job.movieId ≠ some .unmonitor := by
    intro h
    have := hentry.action
    simp [h] at this
  obtain ⟨c, hc, hrouted⟩ := List.mem_flatMap.mp (List.mem_eraseDups.mp hentry.mem_routing)
  obtain ⟨hmem, hmovie⟩ := mem_routedCandidates hc
  split_ifs at hrouted with hversion
  · cases hroute : versionRoute env db candidates c with
    | none => simp [hroute] at hrouted
    | some pairs =>
      rw [hroute, Option.getD_some, ← hpair] at hrouted
      exact takesSelectedOnly_of_covers hrefKeys href hrouted
        (covers_of_versionRoute hroute hmovie haction)
  · exact Or.inl ⟨c, hmem, hmovie, by simpa using hversion⟩

/-- Two Radarr instances. -/
def twoRadarrs : Environment where
  services := { radarrMain := some 1, radarrClients := [(1, 1), (2, 2)] }
  caseTables := ⟨id, id⟩
  search _ _ := false
  now := 0

/-- A movie with one version in each instance, both selected by a rule that deletes. -/
def splitMovie : Tables where
  movies := [{ id := 1, tmdbId := 100, title := "Film" }]
  movieVersions :=
    [{ id := 1, movieId := 1, service := .plex, serviceItemId := "item", serviceMediaId := "hd",
       path := some "/hd/Film/film.mkv" },
     { id := 2, movieId := 1, service := .plex, serviceItemId := "item", serviceMediaId := "uhd",
       path := some "/uhd/Film/film.mkv" }]
  movieArrRefs :=
    [{ id := 1, movieId := 1, serviceConfigId := 1, arrMovieId := 10,
       arrMoviePath := some "/hd/Film" },
     { id := 2, movieId := 1, serviceConfigId := 2, arrMovieId := 20,
       arrMoviePath := some "/uhd/Film" }]
  candidates :=
    [{ id := 1, mediaType := .movie, matchedRuleIds := [1], movieId := some 1,
       movieVersionId := some 1 },
     { id := 2, mediaType := .movie, matchedRuleIds := [1], movieId := some 1,
       movieVersionId := some 2 }]
  rules := [{ id := 1, mediaType := .movie }]
  settings := some { mediaServerFallbackEnabled := false }

/-- The entry of the first instance. -/
def hdJob : MovieJob where
  candidates := splitMovie.candidates
  movieId := 1
  radarrId := 10
  title := "Film"
  tmdbId := 100
  targetVersionIds := [some 1, some 2]

/-- The first folder holds the first version, which is selected. -/
theorem takesSelectedOnly_splitMovie :
    TakesSelectedOnly splitMovie splitMovie.candidates 1 splitMovie.movieArrRefs[0] :=
  takesSelectedOnly_of_mem_batch (by decide)
    (by decide : hdJob ∈ batch twoRadarrs splitMovie splitMovie.candidates false 1)
    (by decide) rfl

end MediaMasterr.Deletion.Movie
