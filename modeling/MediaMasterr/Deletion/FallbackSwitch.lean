import MediaMasterr.Deletion.MovieRun
import MediaMasterr.Deletion.Removals
import MediaMasterr.Deletion.SharedFiles
import MediaMasterr.Deletion.Handlers

/-! # The media-server fallback switch

With `media_server_fallback_enabled` off, no handler should delete through the
media server. The movie, series and season handlers keep to that; the episode
handler deletes the item of every episode that it has removed through Sonarr. -/

namespace MediaMasterr.Deletion

open MediaMasterr.Foundations MediaMasterr.Database MediaMasterr.Filesystem

/-- No call deletes on the media server. -/
def OffMediaServer (events : List Event) : Prop :=
  ∀ e ∈ events, e.call.deletesOnMediaServer = false

section OffMediaServer

variable {events events' : List Event}

@[simp] theorem offMediaServer_nil : OffMediaServer [] := by simp [OffMediaServer]

@[simp] theorem offMediaServer_cons {e : Event} : OffMediaServer (e :: events) ↔
    e.call.deletesOnMediaServer = false ∧ OffMediaServer events := by
  simp [OffMediaServer]

@[simp] theorem offMediaServer_append : OffMediaServer (events ++ events') ↔
    OffMediaServer events ∧ OffMediaServer events' := by
  simp [OffMediaServer, or_imp, forall_and]

@[simp] theorem offMediaServer_flatMap {τ : Type} {ts : List τ} {f : τ → List Event} :
    OffMediaServer (ts.flatMap f) ↔ ∀ t ∈ ts, OffMediaServer (f t) := by
  simp only [OffMediaServer, List.mem_flatMap]
  grind

theorem offMediaServer_filterMap {τ : Type} {ts : List τ} {f : τ → Option Event}
    (h : ∀ t ∈ ts, ∀ e, f t = some e → e.call.deletesOnMediaServer = false) :
    OffMediaServer (ts.filterMap f) := by
  intro e he
  obtain ⟨t, ht, hte⟩ := List.mem_filterMap.mp he
  exact h t ht e hte

end OffMediaServer

variable {env : Environment} {db : Tables} {restrictToIds : List Nat} {approvedBy : String}

@[simp] theorem offMediaServer_sonarrRefreshEvents {services : Services} {refreshOk : Nat → Bool}
    {refresh : List (Nat × List Nat)} :
    OffMediaServer (sonarrRefreshEvents services refreshOk refresh) := by
  refine offMediaServer_filterMap fun entry _ e he => ?_
  obtain ⟨client, -, rfl⟩ := Option.map_eq_some_iff.mp he
  rfl

theorem offMediaServer_emptySeriesEvents {candidate : ReclaimCandidate} {client : ClientId}
    {ref : SeriesArrRef} {addImportExclusion : Bool} {fileCounts : Outcome (List (Option Nat))}
    {deleteSeries : Outcome Unit} :
    OffMediaServer (emptySeriesEvents candidate client ref addImportExclusion fileCounts
      deleteSeries) := by
  unfold emptySeriesEvents
  cases fileCounts with
  | error e => simp [sonarrEvent, Call.deletesOnMediaServer]
  | ok counts =>
    dsimp only
    split_ifs <;> simp [sonarrEvent, Call.deletesOnMediaServer]

theorem BatchRoute.offMediaServer_runBatches {J : Type} {route : BatchRoute J} {now : Nat}
    {configs : List Nat} (h : ∀ client config batch,
      OffMediaServer (route.calls client config batch)) :
    OffMediaServer (route.runBatches now configs db).events := by
  rw [BatchRoute.runBatches_events, offMediaServer_flatMap]
  intro config _
  unfold BatchRoute.callsOf
  split
  · exact offMediaServer_nil
  · exact h _ _ _

/-! ## The movie handler -/

namespace Movie

variable {outcomes : MovieOutcomes} {candidates : List ReclaimCandidate}

theorem offMediaServer_versionPhase (h : db.effectiveSettings.mediaServerFallbackEnabled = false) :
    OffMediaServer (versionPhase env outcomes db approvedBy candidates).events := by
  simp [versionPhase, deleteMovieVersionCandidates, h]

theorem offMediaServer_deleting :
    OffMediaServer (deleting env outcomes db approvedBy candidates).events := by
  refine BatchRoute.offMediaServer_runBatches fun client config batch => ?_
  simp only [deleteRoute, deleteBatchEvents]
  split
  · simp [Call.deletesOnMediaServer]
  · simp only [offMediaServer_append, offMediaServer_flatMap]
    refine ⟨fun job _ => ?_, by simp [Call.deletesOnMediaServer]⟩
    refine offMediaServer_filterMap fun version _ e he => ?_
    split_ifs at he
    obtain ⟨path, -, rfl⟩ := Option.map_eq_some_iff.mp he
    rfl

theorem offMediaServer_unmonitoring :
    OffMediaServer (unmonitoring env outcomes db approvedBy candidates).events := by
  refine BatchRoute.offMediaServer_runBatches fun client config batch => ?_
  simp [unmonitorRoute, unmonitorBatchEvents, Call.deletesOnMediaServer]

@[simp] theorem offMediaServer_cleanupEvents {cs : List ReclaimCandidate} {disk : DiskView}
    {service : Option Service} {removed : Nat} {version : MovieVersion} :
    OffMediaServer (cleanupEvents db cs disk service removed version) := by
  unfold cleanupEvents
  split <;> simp [Call.deletesOnMediaServer]

theorem offMediaServer_cleanUpEvents {job : MovieJob}
    (h : db.effectiveSettings.mediaServerFallbackEnabled = false) :
    OffMediaServer (cleanUpEvents env outcomes db candidates job) := by
  unfold cleanUpEvents
  by_cases hmovie : (db.findMovie job.movieId).isNone = true
  · rw [if_pos hmovie]
    exact offMediaServer_nil
  · rw [if_neg hmovie]
    cases env.services.mainMediaServerType <;> simp [h, unmonitorCleanupEvents]

theorem offMediaServer_cleaning (h : db.effectiveSettings.mediaServerFallbackEnabled = false) :
    OffMediaServer (cleaning env outcomes db approvedBy candidates).events := by
  have hinvariant : (cleaning env outcomes db approvedBy candidates).db.settings = db.settings ∧
      OffMediaServer (cleaning env outcomes db approvedBy candidates).events := by
    refine Loops.foldl_invariant
      (P := fun run : Run => run.db.settings = db.settings ∧ OffMediaServer run.events)
      (fun job _ run hrun => ?_) ⟨effects_settings unmonitoring_effects, offMediaServer_nil⟩
    refine ⟨(MovieRemoval.apply_settings (.batch job)).trans hrun.1, ?_⟩
    rw [finalizeUnmonitor, offMediaServer_append]
    refine ⟨hrun.2, offMediaServer_cleanUpEvents ?_⟩
    rw [Tables.effectiveSettings, hrun.1]
    exact h
  exact hinvariant.2

theorem offMediaServer_rescanEvents {rescanOk : Nat → Bool} {refresh : List (Nat × List Nat)} :
    OffMediaServer (rescanEvents env rescanOk refresh) := by
  refine offMediaServer_filterMap fun entry _ e he => ?_
  obtain ⟨client, -, rfl⟩ := Option.map_eq_some_iff.mp he
  rfl

theorem offMediaServer (h : db.effectiveSettings.mediaServerFallbackEnabled = false) :
    OffMediaServer (deleteMovieCandidates env outcomes db restrictToIds approvedBy).events := by
  have hsettings : (batched env outcomes db approvedBy
      (loadCandidates env db restrictToIds)).db.settings = db.settings :=
    effects_settings batched_effects
  rw [events_eq, fallbackPhaseEvents, Tables.effectiveSettings, hsettings,
    ← Tables.effectiveSettings, h]
  cases env.services.mainMediaServerType <;>
    simp [batched, offMediaServer_versionPhase h, offMediaServer_deleting,
      offMediaServer_unmonitoring, offMediaServer_cleaning h, offMediaServer_rescanEvents]

end Movie

/-! ## The series handler -/

namespace Series

variable {outcomes : SeriesOutcomes} {candidates : List ReclaimCandidate}

theorem offMediaServer_deleting :
    OffMediaServer (deleting env outcomes db candidates).events := by
  refine BatchRoute.offMediaServer_runBatches fun client config batch => ?_
  simp only [deleteRoute, deleteBatchEvents, offMediaServer_flatMap]
  intro job _
  unfold deleteJobEvents
  dsimp only
  split
  · simp [Call.deletesOnMediaServer]
  · split <;> simp [Call.deletesOnMediaServer]

theorem offMediaServer_unmonitoring :
    OffMediaServer (unmonitoring env outcomes db approvedBy candidates).events := by
  refine BatchRoute.offMediaServer_runBatches fun client config batch => ?_
  simp [unmonitorRoute, unmonitorBatchEvents, Call.deletesOnMediaServer]

theorem offMediaServer_cleanUpEvents {job : SeriesJob}
    (h : db.effectiveSettings.mediaServerFallbackEnabled = false) :
    OffMediaServer (cleanUpEvents env outcomes db job) := by
  have hitem : mediaServerItem env db job.seriesId = none := by simp [mediaServerItem, h]
  unfold cleanUpEvents
  cases seriesFolder outcomes db job.seriesId <;> simp [hitem, Call.deletesOnMediaServer]

theorem offMediaServer (h : db.effectiveSettings.mediaServerFallbackEnabled = false) :
    OffMediaServer (deleteSeriesCandidates env outcomes db restrictToIds approvedBy).events := by
  rw [events_eq]
  simp [h, batched, offMediaServer_deleting, offMediaServer_unmonitoring,
    offMediaServer_cleanUpEvents h]

end Series

/-! ## The season handler -/

namespace Season

variable {outcomes : SeasonOutcomes} {settings : GeneralSettings} {action : ArrDeleteAction}
variable {task : SeasonTask} {ref : SeriesArrRef}

theorem offMediaServer_refEvents :
    OffMediaServer (refEvents env outcomes settings action task ref) := by
  unfold refEvents removalEvents
  repeat' split
  all_goals simp [sonarrEvent, Call.deletesOnMediaServer]

theorem offMediaServer (h : db.effectiveSettings.mediaServerFallbackEnabled = false) :
    OffMediaServer (deleteSeasonCandidates env outcomes db restrictToIds approvedBy).events := by
  intro e he
  rcases mem_events.mp he with ⟨task, -, htask⟩ | hrefresh
  · rcases List.mem_append.mp htask with hattempt | hrest
    · obtain ⟨ref, -, href⟩ := tryRefs_events e hattempt
      exact offMediaServer_refEvents e href
    · split_ifs at hrest
      · simp only [followUpEvents, h, Bool.false_eq_true, if_false, List.nil_append] at hrest
        split at hrest
        · split_ifs at hrest
          · simp at hrest
          · exact offMediaServer_emptySeriesEvents e hrest
        · simp at hrest
      · simp [fallback, h] at hrest
  · exact offMediaServer_sonarrRefreshEvents e hrefresh

end Season

/-! ## The episode handler -/

namespace Episode

variable {outcomes : EpisodeOutcomes} {settings : GeneralSettings} {action : ArrDeleteAction}
variable {task : EpisodeTask} {ref : SeriesArrRef}

theorem offMediaServer_refEvents : OffMediaServer (refEvents env outcomes action task ref) := by
  unfold refEvents removeFile
  dsimp only
  repeat' split
  all_goals simp [sonarrEvent, Call.deletesOnMediaServer]

/-- The follow-up deletes the item of the episode when it has one. -/
theorem offMediaServer_followUpEvents_iff {a : EpisodeAttempt} :
    OffMediaServer (followUpEvents env outcomes settings action task a) ↔
      mediaServerItem env task.episode = none := by
  dsimp only [followUpEvents]
  rw [offMediaServer_append]
  refine (and_iff_left ?_).trans ?_
  · split
    · split_ifs
      · exact offMediaServer_emptySeriesEvents
      · exact offMediaServer_nil
    · exact offMediaServer_nil
  · cases mediaServerItem env task.episode <;> simp [Call.deletesOnMediaServer]

/-- Sonarr deletes the file of a task: some ref of its series does. -/
def DeletedThroughSonarr (env : Environment) (outcomes : EpisodeOutcomes) (db : Tables)
    (task : EpisodeTask) : Prop :=
  ∃ ref ∈ seriesRefs db task.series.id,
    RefDeletes env outcomes (taskAction db.effectiveSettings db task) task ref

theorem taskAttempt_deleted_iff :
    (taskAttempt env outcomes db.effectiveSettings db task).deleted = true ↔
      DeletedThroughSonarr env outcomes db task := by
  simp only [taskAttempt, tryRefs_deleted_iff, DeletedThroughSonarr, orderedRefs,
    mem_orderSeriesArrRefs]

theorem offMediaServer_taskEvents_iff
    (h : db.effectiveSettings.mediaServerFallbackEnabled = false) :
    OffMediaServer (taskEvents env outcomes db.effectiveSettings db task) ↔
      (DeletedThroughSonarr env outcomes db task → mediaServerItem env task.episode = none) := by
  have hattempt : OffMediaServer
    (taskAttempt env outcomes db.effectiveSettings db task).events := by
    intro e he
    obtain ⟨ref, -, href⟩ := tryRefs_events e he
    exact offMediaServer_refEvents e href
  dsimp only [taskEvents]
  rw [offMediaServer_append, and_iff_right hattempt, ← taskAttempt_deleted_iff]
  split_ifs with hdeleted
  · simp [offMediaServer_followUpEvents_iff, hdeleted]
  · simp [fallback, h, hdeleted]

theorem offMediaServer_iff (h : db.effectiveSettings.mediaServerFallbackEnabled = false) :
    OffMediaServer (deleteEpisodeCandidates env outcomes db restrictToIds approvedBy).events ↔
      ∀ task ∈ tasks env db restrictToIds, DeletedThroughSonarr env outcomes db task →
        mediaServerItem env task.episode = none := by
  constructor
  · intro hoff task htask
    exact (offMediaServer_taskEvents_iff h).mp fun e he =>
      hoff e (mem_events.mpr (.inl ⟨task, htask, he⟩))
  · intro hnone e he
    rcases mem_events.mp he with ⟨task, htask, hevent⟩ | hrefresh
    · exact (offMediaServer_taskEvents_iff h).mpr (hnone task htask) e hevent
    · exact offMediaServer_sonarrRefreshEvents e hrefresh

end Episode

/-! ## All handlers -/

/-- Nothing is deleted through the media server by any handler. -/
def HandlersOffMediaServer (env : Environment) (outcomes : HandlerOutcomes) (db : Tables)
    (restrictToIds : List Nat) (approvedBy : String) : Prop :=
  OffMediaServer (deleteMovieCandidates env outcomes.movie db restrictToIds approvedBy).events ∧
    OffMediaServer
      (deleteSeriesCandidates env outcomes.series db restrictToIds approvedBy).events ∧
    OffMediaServer
      (deleteSeasonCandidates env outcomes.season db restrictToIds approvedBy).events ∧
    OffMediaServer
      (deleteEpisodeCandidates env outcomes.episode db restrictToIds approvedBy).events

/-- With the fallback switched off, nothing is deleted through the media server, exactly when
no episode that Sonarr deletes has an item there. -/
theorem handlersOffMediaServer_iff (env : Environment) (outcomes : HandlerOutcomes)
    (db : Tables) (restrictToIds : List Nat) (approvedBy : String)
    (h : db.effectiveSettings.mediaServerFallbackEnabled = false) :
    HandlersOffMediaServer env outcomes db restrictToIds approvedBy ↔
      ∀ task ∈ Episode.tasks env db restrictToIds,
        Episode.DeletedThroughSonarr env outcomes.episode db task →
          Episode.mediaServerItem env task.episode = none := by
  rw [HandlersOffMediaServer, and_iff_right (Movie.offMediaServer h),
    and_iff_right (Series.offMediaServer h), and_iff_right (Season.offMediaServer h),
    Episode.offMediaServer_iff h]

/-- Sonarr and a Jellyfin server, and an episode that both know; the fallback is off. -/
def sonarrAndJellyfin : Environment where
  services := { mainMediaServer := some .jellyfin, sonarrMain := some 1, sonarrClients := [(1, 1)] }
  caseTables := ⟨id, id⟩
  search _ _ := false
  now := 0

/-- One episode candidate; the fallback is off. -/
def fallbackOffTables (item : Option String) : Tables where
  series := [{ id := 1, tmdbId := 100, title := "Show" }]
  seasons := [{ id := 1, seriesId := 1, seasonNumber := 1 }]
  episodes := [{ id := 1, seasonId := 1, episodeNumber := 1, jellyfinEpisodeId := item }]
  seriesArrRefs := [{ id := 1, seriesId := 1, serviceConfigId := 1, arrSeriesId := 10 }]
  candidates :=
    [{ id := 1, mediaType := .series, seriesId := some 1, seasonId := some 1, episodeId := some 1 }]
  settings := some { mediaServerFallbackEnabled := false }

/-- Sonarr lists the episode with a file, and every call succeeds. -/
def episodeListed : HandlerOutcomes where
  episode := { getEpisodes := fun _ _ => .ok [⟨some 51, some 1, some 1, some 7⟩] }

/-- The episode is unknown to the media server, so nothing is deleted there. -/
theorem handlersOffMediaServer_withoutItem :
    HandlersOffMediaServer sonarrAndJellyfin episodeListed (fallbackOffTables none) [1] "system" :=
  (handlersOffMediaServer_iff _ _ _ _ _ rfl).mpr fun task htask _ =>
    (by decide : ∀ task ∈ Episode.tasks sonarrAndJellyfin (fallbackOffTables none) [1],
      Episode.mediaServerItem sonarrAndJellyfin task.episode = none) task htask

/-- The episode's item is deleted after its file, although the fallback is off. -/
theorem not_handlersOffMediaServer_withItem : ¬HandlersOffMediaServer sonarrAndJellyfin
    episodeListed (fallbackOffTables (some "item-1")) [1] "system" := by
  rintro ⟨-, -, -, hepisode⟩
  exact absurd hepisode (by unfold OffMediaServer; decide)

end MediaMasterr.Deletion
