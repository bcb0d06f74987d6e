import MediaMasterr.Filesystem.Siblings
import MediaMasterr.Deletion.MovieCleanUp

/-! # The files of the other versions

When the unmonitor route handles some versions of a movie, `sibling_cleanup`
deletes the files with the stem of a selected version, and so does `move_media`
move them: a version whose name differs in the extension only goes with it. -/

namespace MediaMasterr.Deletion.Movie

open MediaMasterr.Foundations MediaMasterr.Database MediaMasterr.Filesystem

section CleanUpFiles

variable (access : DiskAccess) (db : Tables) (service : Option Service) (job : MovieJob)

/-- One version in the loop of the unmonitor route that deletes the files from disk. -/
def cleanUpVersion (disk : Disk) (v : MovieVersion) : Disk :=
  if truthyText v.path = none ∨ !targetsVersion job v then disk
  else
    match localPath db (view disk) service v with
    | none => disk
    | some path => access.siblingCleanup disk path

/-- The loop of the unmonitor route that deletes the files of a movie from disk. -/
def cleanUpFiles (disk : Disk) : Disk :=
  (versionsOf db job.movieId).foldl (cleanUpVersion access db service job) disk

/-- The clean-up of the version deletes the file. -/
def CleansFile (disk : Disk) (v : MovieVersion) (f : LocalPath) : Prop :=
  targetsVersion job v = true ∧ ∃ p, localPath db (view disk) service v = some p ∧
    Siblings p f ∧ access.Deletes f

end CleanUpFiles

variable {access : DiskAccess} {db : Tables} {service : Option Service} {job : MovieJob}
variable {disk : Disk} {v : MovieVersion} {versions : List MovieVersion} {f p q : LocalPath}

theorem localPath_view_eq_some_iff : localPath db (view disk) service v = some p ↔
    probedPath service none v.path db.effectiveSettings.pathMappings = some p ∧
      (p ∈ disk.files ∨ p ∈ disk.dirs) := by
  rw [localPath, resolvePath_eq_some_iff]
  simp [view]

theorem truthyText_of_localPath (h : localPath db (view disk) service v = some p) :
    truthyText v.path ≠ none := by
  have hprobed := (localPath_view_eq_some_iff.mp h).1
  unfold probedPath at hprobed
  cases hpath : v.path with
  | none => simp [hpath] at hprobed
  | some path =>
    have hne : path ≠ "" := by
      rintro rfl
      simp [hpath] at hprobed
    simp [truthyText, hne]

theorem mem_files_cleanUpVersion : f ∈ (cleanUpVersion access db service job disk v).files ↔
    f ∈ disk.files ∧ ¬CleansFile access db service job disk v f := by
  unfold cleanUpVersion CleansFile
  by_cases htargets : targetsVersion job v = true
  · cases hpath : localPath db (view disk) service v with
    | none => simp
    | some path =>
      simp [truthyText_of_localPath hpath, htargets, mem_files_siblingCleanup]
  · simp [htargets]

theorem mem_dirs_of_cleanUpVersion
    (h : q ∈ (cleanUpVersion access db service job disk v).dirs) : q ∈ disk.dirs := by
  unfold cleanUpVersion at h
  split_ifs at h
  · exact h
  · split at h
    · exact h
    · exact mem_dirs_of_siblingCleanup h

/-- The loop deletes the siblings of the paths of the targeted versions, and nothing else. -/
theorem mem_files_foldl_cleanUpVersion
    (hfiles : ∀ v ∈ versions, ∀ p, localPath db (view disk) service v = some p → p ∈ disk.files) :
    f ∈ (versions.foldl (cleanUpVersion access db service job) disk).files ↔
      f ∈ disk.files ∧ ∀ v ∈ versions, ¬CleansFile access db service job disk v f := by
  induction versions generalizing disk with
  | nil => simp
  | cons u versions ih =>
    -- A path that is still found after the first clean-up is still a file.
    have hstill (v : MovieVersion) (hv : v ∈ versions) (p : LocalPath) : localPath db
        (view (cleanUpVersion access db service job disk u)) service v = some p ↔
        localPath db (view disk) service v = some p ∧
          p ∈ (cleanUpVersion access db service job disk u).files := by
      rw [localPath_view_eq_some_iff, localPath_view_eq_some_iff]
      constructor
      · rintro ⟨hprobed, hexists⟩
        have hbefore : p ∈ disk.files ∨ p ∈ disk.dirs := hexists.imp
          (fun h => (mem_files_cleanUpVersion.mp h).1) mem_dirs_of_cleanUpVersion
        refine ⟨⟨hprobed, hbefore⟩, hexists.resolve_right fun hdir => ?_⟩
        exact disk.not_mem_dirs p (hfiles v (List.mem_cons_of_mem _ hv) p
          (localPath_view_eq_some_iff.mpr ⟨hprobed, hbefore⟩)) (mem_dirs_of_cleanUpVersion hdir)
      · rintro ⟨⟨hprobed, -⟩, hfile⟩
        exact ⟨hprobed, Or.inl hfile⟩
    rw [List.foldl_cons, ih fun v hv p hp => ((hstill v hv p).mp hp).2, mem_files_cleanUpVersion,
      List.forall_mem_cons, and_assoc]
    refine and_congr_right fun hf => and_congr_right fun hu => forall₂_congr fun v hv =>
      not_congr ?_
    constructor
    · rintro ⟨htargets, p, hp, hsiblings⟩
      exact ⟨htargets, p, ((hstill v hv p).mp hp).1, hsiblings⟩
    · rintro ⟨htargets, p, hp, hsiblings, hdeletes⟩
      refine ⟨htargets, p, (hstill v hv p).mpr ⟨hp, ?_⟩, hsiblings, hdeletes⟩
      refine mem_files_cleanUpVersion.mpr ⟨hfiles v (List.mem_cons_of_mem _ hv) p hp, ?_⟩
      -- The first clean-up would have taken the file with the path.
      rintro ⟨hfirst, p', hp', hsiblings', -⟩
      exact hu ⟨hfirst, p', hp', ⟨hsiblings.1.trans hsiblings'.1,
        hsiblings.2.trans hsiblings'.2⟩, hdeletes⟩

theorem mem_files_cleanUpFiles (hfiles : ∀ v ∈ versionsOf db job.movieId, ∀ p,
    localPath db (view disk) service v = some p → p ∈ disk.files) :
    f ∈ (cleanUpFiles access db service job disk).files ↔
      f ∈ disk.files ∧ ∀ v ∈ versionsOf db job.movieId,
        ¬CleansFile access db service job disk v f :=
  mem_files_foldl_cleanUpVersion hfiles

/-! ## The recorded calls -/

/-- What a recorded call does to the disk; only clean-ups are carried out. -/
def carryOut (access : DiskAccess) (disk : Disk) : Call → Disk
  | .siblingCleanup path => access.siblingCleanup disk path
  | _ => disk

/-- The clean-ups that a run records for a movie, carried out in order, are the loop: each was
recorded when the disk was as the clean-ups before it left it. -/
theorem carryOut_unmonitorCleanupEvents (env : Environment) (outcomes : MovieOutcomes)
    (candidates : List ReclaimCandidate)
    (hviews : ∀ before v after, versionsOf db job.movieId = before ++ v :: after →
      outcomes.unmonitorDisk v.id = view (before.foldl
        (cleanUpVersion access db env.services.mainMediaServerType job) disk)) :
    (unmonitorCleanupEvents env outcomes db candidates job).foldl
        (fun disk e => carryOut access disk e.call) disk =
      cleanUpFiles access db env.services.mainMediaServerType job disk := by
  unfold unmonitorCleanupEvents cleanUpFiles
  generalize versionsOf db job.movieId = versions at hviews ⊢
  induction versions generalizing disk with
  | nil => rfl
  | cons v versions ih =>
    have hview : outcomes.unmonitorDisk v.id = view disk := hviews [] v versions rfl
    have hrest := @ih (cleanUpVersion access db env.services.mainMediaServerType job disk v)
      fun before w after heq => hviews (v :: before) w after (by rw [heq, List.cons_append])
    rw [List.foldl_cons, ← hrest]
    by_cases hcleaned : truthyText v.path ≠ none ∧ targetsVersion job v = true
    · rw [List.filter_cons_of_pos (by simpa using hcleaned), List.flatMap_cons,
        List.foldl_append]
      congr 1
      rw [hview, cleanUpVersion, if_neg (by simpa using hcleaned)]
      unfold cleanupEvents
      cases localPath db (view disk) env.services.mainMediaServerType v <;> rfl
    · rw [List.filter_cons_of_neg (by simpa using hcleaned), cleanUpVersion, if_pos]
      simpa [or_iff_not_imp_left] using hcleaned

/-! ## What stays of the other versions -/

section Claims

variable (access : DiskAccess) (db : Tables) (service : Option Service) (job : MovieJob)
variable (disk : Disk) (destinationRoot : LocalPath)

/-- The resolved paths of the versions are distinct files, under the main service and under
their own. -/
structure DistinctFiles : Prop where
  files : ∀ v ∈ versionsOf db job.movieId, ∀ s ∈ [service, some v.service],
    ∀ p ∈ localPath db (view disk) s v, p ∈ disk.files
  distinct : ∀ v ∈ versionsOf db job.movieId, ∀ w ∈ versionsOf db job.movieId,
    ∀ p ∈ localPath db (view disk) service v, p ∈ localPath db (view disk) service w → v = w

/-- The clean-up of a movie deletes the files of the targeted versions with their siblings, as
far as the disk lets it, and no file of another version; moving the file of a targeted version
moves no file of another version; no directory goes while a file is left in it. -/
structure KeepsOtherVersions : Prop where
  cleaned : ∀ f ∈ disk.files, f ∉ (cleanUpFiles access db service job disk).files ↔
    ∃ v ∈ versionsOf db job.movieId, CleansFile access db service job disk v f
  kept : ∀ v ∈ versionsOf db job.movieId, targetsVersion job v = false →
    ∀ q ∈ localPath db (view disk) service v,
      q ∈ (cleanUpFiles access db service job disk).files
  notMoved : ∀ u ∈ versionsOf db job.movieId, targetsVersion job u = true →
    ∀ p ∈ localPath db (view disk) (some u.service) u,
    ∀ v ∈ versionsOf db job.movieId, targetsVersion job v = false →
    ∀ q ∈ localPath db (view disk) (some v.service) v,
    ∀ dest, (q, dest) ∈ (access.moveMedia disk p destinationRoot).2.moved → dest = q
  cleanedDirs : ∀ d ∉ (cleanUpFiles access db service job disk).dirs,
    ∀ f ∈ (cleanUpFiles access db service job disk).files,
      ¬FileTree.Below LocalPath.directory d f
  movedDirs : ∀ p, ∀ d ∉ (access.moveMedia disk p destinationRoot).2.disk.dirs,
    ∀ f ∈ (access.moveMedia disk p destinationRoot).2.disk.files,
      ¬FileTree.Below LocalPath.directory d f

/-- No other version is a sibling of a targeted one, in so far as its file can be deleted, and
can be moved to another place. -/
structure VersionsApart : Prop where
  cleaned : ∀ u ∈ versionsOf db job.movieId, targetsVersion job u = true →
    ∀ v ∈ versionsOf db job.movieId, targetsVersion job v = false →
    ∀ p ∈ localPath db (view disk) service u, ∀ q ∈ localPath db (view disk) service v,
      Siblings p q → ¬access.Deletes q
  moved : ∀ u ∈ versionsOf db job.movieId, targetsVersion job u = true →
    ∀ v ∈ versionsOf db job.movieId, targetsVersion job v = false →
    ∀ p ∈ localPath db (view disk) (some u.service) u,
    ∀ q ∈ localPath db (view disk) (some v.service) v,
      access.MovesAlong disk destinationRoot p q → destinationRoot.child q.name = q

end Claims

/-- Removing or moving versions of a movie keeps the files of the others exactly when none of
them is a sibling that goes along. -/
theorem keepsOtherVersions_iff (access : DiskAccess) (db : Tables) (service : Option Service)
    (job : MovieJob) (disk : Disk) (destinationRoot : LocalPath)
    (h : DistinctFiles db service job disk) :
    KeepsOtherVersions access db service job disk destinationRoot ↔
      VersionsApart access db service job disk destinationRoot := by
  have hmain (v : MovieVersion) (hv : v ∈ versionsOf db job.movieId) (p : LocalPath)
      (hp : localPath db (view disk) service v = some p) : p ∈ disk.files :=
    h.files v hv service (by simp) p hp
  have hown (v : MovieVersion) (hv : v ∈ versionsOf db job.movieId) (p : LocalPath)
      (hp : p ∈ localPath db (view disk) (some v.service) v) : p ∈ disk.files :=
    h.files v hv (some v.service) (by simp) p hp
  constructor
  · intro hkeeps
    refine ⟨fun u hu htargets v hv hother p hp q hq hsiblings hdeletes => ?_,
      fun u hu htargets v hv hother p hp q hq halong => ?_⟩
    · have hstays := (mem_files_cleanUpFiles hmain).mp (hkeeps.kept v hv hother q hq)
      exact hstays.2 u hu ⟨htargets, p, hp, hsiblings, hdeletes⟩
    · exact hkeeps.notMoved u hu htargets p hp v hv hother q hq _
        ((mem_moved_moveMedia (hown u hu p hp) (hown v hv q hq)).mpr ⟨rfl, halong⟩)
  · intro hapart
    refine ⟨fun f hf => ?_, fun v hv hother q hq => ?_,
      fun u hu htargets p hp v hv hother q hq dest hmoved => ?_,
      fun d hd f hf hbelow => hd (FileTree.mem_dirs_of_below _ hf hbelow),
      fun p d hd f hf hbelow => hd (FileTree.mem_dirs_of_below _ hf hbelow)⟩
    · rw [mem_files_cleanUpFiles hmain, and_iff_right hf]
      push Not
      rfl
    · refine (mem_files_cleanUpFiles hmain).mpr ⟨hmain v hv q hq, ?_⟩
      rintro u hu ⟨htargets, p, hp, hsiblings, hdeletes⟩
      exact hapart.cleaned u hu htargets v hv hother p hp q hq hsiblings hdeletes
    · obtain ⟨rfl, halong⟩ := (mem_moved_moveMedia (hown u hu p hp) (hown v hv q hq)).mp hmoved
      exact hapart.moved u hu htargets v hv hother p hp q hq halong

/-- Versions that are no siblings are apart, whatever the disk lets happen. -/
theorem versionsApart_of_not_siblings {destinationRoot : LocalPath}
    (h : ∀ u ∈ versionsOf db job.movieId, targetsVersion job u = true →
      ∀ v ∈ versionsOf db job.movieId, targetsVersion job v = false →
      ∀ s ∈ [service, some u.service], ∀ p ∈ localPath db (view disk) s u,
      ∀ s' ∈ [service, some v.service], ∀ q ∈ localPath db (view disk) s' v, ¬Siblings p q) :
    VersionsApart access db service job disk destinationRoot where
  cleaned u hu htargets v hv hother p hp q hq hsiblings :=
    absurd hsiblings (h u hu htargets v hv hother service (by simp) p hp service (by simp) q hq)
  moved u hu htargets v hv hother p hp q hq halong :=
    absurd halong.siblings (h u hu htargets v hv hother (some u.service) (by simp) p hp
      (some v.service) (by simp) q hq)

/-! ## Two versions in one folder -/

/-- A folder with two files. -/
def filmFolder (first second : String) : Disk where
  files := [⟨"/", ["movies", first]⟩, ⟨"/", ["movies", second]⟩]
  dirs := [⟨"/", ["movies"]⟩, ⟨"/", []⟩]
  file_parent := by simp [LocalPath.directory, LocalPath.parent]
  dir_parent := by simp [LocalPath.directory, LocalPath.parent]
  not_mem_dirs := by simp

/-- A movie with these two files as versions. -/
def filmTables (first second : String) : Tables where
  movies := [{ id := 1, tmdbId := 100, title := "Film" }]
  movieVersions :=
    [{ id := 1, movieId := 1, service := .plex, serviceItemId := "1", serviceMediaId := "1",
       path := some ("/movies/" ++ first) },
     { id := 2, movieId := 1, service := .plex, serviceItemId := "1", serviceMediaId := "2",
       path := some ("/movies/" ++ second) }]

/-- The first version is selected. -/
def firstVersionJob : MovieJob where
  candidates := []
  movieId := 1
  radarrId := 10
  title := "Film"
  tmdbId := 100
  targetVersionIds := [some 1]

theorem distinctFiles_filmFolder : DistinctFiles (filmTables "Film 4K.mkv" "Film HD.mkv")
    (some .plex) firstVersionJob (filmFolder "Film 4K.mkv" "Film HD.mkv") where
  files := by decide +kernel
  distinct := by decide +kernel

/-- The other version has another stem, so it stays. -/
theorem keepsOtherVersions_stems : KeepsOtherVersions {} (filmTables "Film 4K.mkv" "Film HD.mkv")
    (some .plex) firstVersionJob (filmFolder "Film 4K.mkv" "Film HD.mkv") ⟨"/", ["archive"]⟩ :=
  (keepsOtherVersions_iff _ _ _ _ _ _ distinctFiles_filmFolder).mpr
    (versionsApart_of_not_siblings (by decide +kernel))

/-- Two versions whose names differ in the extension only: both files are deleted, although one
version is selected. -/
theorem not_keepsOtherVersions_extensions :
    DistinctFiles (filmTables "Film.mkv" "Film.mp4") (some .plex) firstVersionJob
        (filmFolder "Film.mkv" "Film.mp4") ∧
      ¬KeepsOtherVersions {} (filmTables "Film.mkv" "Film.mp4") (some .plex) firstVersionJob
        (filmFolder "Film.mkv" "Film.mp4") ⟨"/", ["archive"]⟩ := by
  refine ⟨⟨by decide +kernel, by decide +kernel⟩, fun hkeeps => ?_⟩
  exact absurd hkeeps.kept (by decide +kernel)

end MediaMasterr.Deletion.Movie
