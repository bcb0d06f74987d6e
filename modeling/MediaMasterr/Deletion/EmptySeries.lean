import MediaMasterr.RuleEngine.Agreement
import MediaMasterr.Deletion.FallbackSwitch
import MediaMasterr.Deletion.SonarrAnswers

/-! # A series that leaves Sonarr is empty

After the files of a season or an episode are deleted, the handlers remove the
series from Sonarr when no season counts a file. A count that Sonarr does not
report is read as 0, and a file id of 0 as a file. -/

namespace MediaMasterr.Deletion

open MediaMasterr.Foundations MediaMasterr.Database MediaMasterr.RuleEngine

variable (py : SonarrReader)

/-! ## What the answers say -/

/-- The `episodeFileCount` that Sonarr reports for a season; none where the statistics are
missing or do not have it. -/
def SonarrSeason.reportedCount (s : SonarrSeason) : Option PyValue :=
  s.statistics.bind fun statistics => statistics.lookup "episodeFileCount"

/-- Sonarr lists a season, and reports for each an episode file count of 0. -/
def ReportedEmpty (seasons : List SonarrSeason) : Prop :=
  seasons ≠ [] ∧ ∀ s ∈ seasons, ∃ count, s.reportedCount = some count ∧
    intValue py count = some 0

/-- A season is reported with a count other than 0, or there are seasons and each is reported
with a count. -/
def CountsDecide (seasons : List SonarrSeason) : Prop :=
  (∃ s ∈ seasons, ∃ count, s.reportedCount = some count ∧ intValue py count ≠ some 0) ∨
    seasons ≠ [] ∧ ∀ s ∈ seasons, s.reportedCount.isSome

/-- How the entries of an episode are read: whether it is of the season, and whether its file
id counts as a file. -/
structure EpisodeReading where
  OfSeason : PyValue → Prop
  Counts : PyValue → Prop

/-- The tests of the season handler. -/
def handlerReading (seasonNumber : Nat) : EpisodeReading where
  OfSeason value := intValue py value = some (seasonNumber : Int)
  Counts value := value.isNone = false

/-- The tests of `delete_season_files`. -/
def clientReading (seasonNumber : Nat) : EpisodeReading where
  OfSeason value := asInt py value = some (seasonNumber : Int)
  Counts value := (asInt py value).isSome

namespace EpisodeReading

variable (reading : EpisodeReading) (episodes : List (List (String × PyValue)))

/-- Some episode of the season has a positive file id. -/
def HasFile : Prop :=
  ∃ ep ∈ episodes, reading.OfSeason (entry ep "seasonNumber") ∧
    ∃ id, asInt py (entry ep "episodeFileId") = some id ∧ 0 < id

/-- Some file id of the season counts as a file. -/
def CountsFile : Prop :=
  ∃ ep ∈ episodes, reading.OfSeason (entry ep "seasonNumber") ∧
    reading.Counts (entry ep "episodeFileId")

/-- The season has file ids that count, and none of them is positive. -/
def PlaceholdersOnly : Prop :=
  reading.CountsFile episodes ∧ ∀ ep ∈ episodes, reading.OfSeason (entry ep "seasonNumber") →
    ∀ id, asInt py (entry ep "episodeFileId") = some id → id ≤ 0

theorem countsFile_imp_hasFile_iff :
    (reading.CountsFile episodes → reading.HasFile py episodes) ↔
      ¬reading.PlaceholdersOnly py episodes := by
  rw [PlaceholdersOnly, not_and, HasFile]
  push Not
  rfl

end EpisodeReading

variable {py}

/-- The check finds no file in a season exactly when no other count than 0 is reported. -/
theorem countsNoFile_iff {s : SonarrSeason} : countsNoFile py s = true ↔
    ∀ count, s.reportedCount = some count → intValue py count = some 0 := by
  cases hstatistics : s.statistics with
  | none => simp [countsNoFile, SonarrSeason.reportedCount, hstatistics]
  | some statistics =>
    cases hcount : statistics.lookup "episodeFileCount" <;>
      simp [countsNoFile, SonarrSeason.reportedCount, hstatistics, hcount]

/-- What the check lets through is reported as empty exactly when the counts decide it. -/
theorem allEmpty_imp_reportedEmpty_iff (seasons : List SonarrSeason) :
    (allEmpty py seasons = true → ReportedEmpty py seasons) ↔ CountsDecide py seasons := by
  have hempty : allEmpty py seasons = true ↔ ∀ s ∈ seasons, ∀ count,
      s.reportedCount = some count → intValue py count = some 0 := by
    simp only [allEmpty, List.all_eq_true, countsNoFile_iff]
  rw [hempty]
  constructor
  · intro h
    by_cases hall : ∀ s ∈ seasons, ∀ count,
        s.reportedCount = some count → intValue py count = some 0
    · obtain ⟨hne, hseasons⟩ := h hall
      refine Or.inr ⟨hne, fun s hs => ?_⟩
      obtain ⟨count, hcount, -⟩ := hseasons s hs
      exact Option.isSome_iff_exists.mpr ⟨count, hcount⟩
    · push Not at hall
      exact Or.inl hall
  · rintro (⟨s, hs, count, hcount, hvalue⟩ | ⟨hne, hreported⟩) hall
    · exact absurd (hall s hs count hcount) hvalue
    · refine ⟨hne, fun s hs => ?_⟩
      obtain ⟨count, hcount⟩ := Option.isSome_iff_exists.mp (hreported s hs)
      exact ⟨count, hcount, hall s hs count hcount⟩

theorem listedFileIds_ne_nil_iff (seasonNumber : Nat)
    (episodes : List (List (String × PyValue))) :
    listedFileIds py seasonNumber episodes ≠ [] ↔
      (handlerReading py seasonNumber).CountsFile episodes := by
  simp [listedFileIds, EpisodeReading.CountsFile, handlerReading]

theorem episodeFileIds_ne_nil_iff (seasonNumber : Nat)
    (episodes : List (List (String × PyValue))) :
    episodeFileIds py seasonNumber episodes ≠ [] ↔
      (clientReading py seasonNumber).CountsFile episodes := by
  simp [episodeFileIds, EpisodeReading.CountsFile, clientReading, Option.isSome_iff_ne_none]

/-! ## What the calls should rest on -/

/-- What Sonarr answers to `get_episodes`, by candidate and ref, and to the `get_series` of the
emptiness check, by candidate. -/
structure SonarrAnswers where
  episodes : Nat → Nat → HttpAnswer := fun _ _ => .ok (200, .list [])
  series : Nat → HttpAnswer := fun _ => .error ""

variable (py) in
/-- The outcomes of a season run in which Sonarr answers so. -/
def SeasonOutcomes.answered (outcomes : SeasonOutcomes) (answers : SonarrAnswers) :
    SeasonOutcomes :=
  { outcomes with
    getEpisodes := fun candidateId refId =>
      (SonarrClient.getEpisodes (answers.episodes candidateId refId)).map
        (List.map (SonarrEpisode.ofEntries py))
    getSeries := fun candidateId =>
      (SonarrClient.getSeries py (answers.series candidateId)).map fun series =>
        series.seasons.map (SonarrSeason.fileCount py) }

variable (py) in
/-- The outcomes of an episode run in which Sonarr answers so. -/
def EpisodeOutcomes.answered (outcomes : EpisodeOutcomes) (answers : SonarrAnswers) :
    EpisodeOutcomes :=
  { outcomes with
    getSeries := fun candidateId =>
      (SonarrClient.getSeries py (answers.series candidateId)).map fun series =>
        series.seasons.map (SonarrSeason.fileCount py) }

variable (py) in
/-- What the answers say when a request is made for a candidate through a ref: a series is
removed, without its files, when it is reported as empty, and a season is processed when some
episode of it has a file. -/
def RequestJustified (answers : SonarrAnswers) (candidate : ReclaimCandidate)
    (ref : SeriesArrRef) : SonarrRequest → Prop
  | .deleteSeries _ deleteFiles _ => deleteFiles = false ∧
      ∃ series, SonarrClient.getSeries py (answers.series candidate.id) = .ok series ∧
        ReportedEmpty py series.seasons
  | .updateSeasonMonitoring _ seasonNumber | .deleteSeasonFiles _ seasonNumber =>
      ∃ episodes, SonarrClient.getEpisodes (answers.episodes candidate.id ref.id) = .ok episodes ∧
        (handlerReading py seasonNumber).HasFile py episodes
  | _ => True

@[simp] theorem requestJustified_getEpisodes (answers : SonarrAnswers)
    (candidate : ReclaimCandidate) (ref : SeriesArrRef) (arrSeriesId : Nat) :
    RequestJustified py answers candidate ref (.getEpisodes arrSeriesId) := trivial

@[simp] theorem requestJustified_getSeries (answers : SonarrAnswers)
    (candidate : ReclaimCandidate) (ref : SeriesArrRef) (arrSeriesId : Nat) :
    RequestJustified py answers candidate ref (.getSeries arrSeriesId) := trivial

variable (py) in
/-- Every call that a handler makes to Sonarr through a ref is justified. -/
def CallsJustified (answers : SonarrAnswers) (events : List Event) : Prop :=
  ∀ e ∈ events, ∀ client ref request, e.call = .sonarr client (.ofRef ref) request →
    ∃ candidate, e.candidates = [candidate] ∧ RequestJustified py answers candidate ref request

section CallsJustified

variable {answers : SonarrAnswers} {events events' : List Event}

@[simp] theorem callsJustified_nil : CallsJustified py answers [] := by simp [CallsJustified]

@[simp] theorem callsJustified_append : CallsJustified py answers (events ++ events') ↔
    CallsJustified py answers events ∧ CallsJustified py answers events' := by
  simp [CallsJustified, or_imp, forall_and]

@[simp] theorem callsJustified_cons {candidate : ReclaimCandidate} {client : ClientId}
    {ref : SeriesArrRef} {request : SonarrRequest} {ok : Bool} :
    CallsJustified py answers (sonarrEvent candidate client ref request ok :: events) ↔
      RequestJustified py answers candidate ref request ∧ CallsJustified py answers events := by
  simp [CallsJustified, sonarrEvent]

/-- Calls elsewhere need no justification. -/
theorem callsJustified_of_call (h : ∀ e ∈ events, ∀ client ref request,
    e.call ≠ .sonarr client (.ofRef ref) request) : CallsJustified py answers events :=
  fun e he client ref request hcall => absurd hcall (h e he client ref request)

theorem callsJustified_sonarrRefreshEvents {services : Services} {refreshOk : Nat → Bool}
    {refresh : List (Nat × List Nat)} :
    CallsJustified py answers (sonarrRefreshEvents services refreshOk refresh) := by
  refine callsJustified_of_call fun e he client ref request => ?_
  obtain ⟨entry, -, hentry⟩ := List.mem_filterMap.mp he
  obtain ⟨client', -, rfl⟩ := Option.map_eq_some_iff.mp hentry
  simp

/-- The check that ends a deletion removes the series only when it is reported as empty,
exactly when the counts of the answer decide it. -/
theorem callsJustified_emptySeriesEvents_iff {candidate : ReclaimCandidate} {client : ClientId}
    {ref : SeriesArrRef} {addImportExclusion : Bool} {deleteSeries : Outcome Unit} :
    CallsJustified py answers (emptySeriesEvents candidate client ref addImportExclusion
        ((SonarrClient.getSeries py (answers.series candidate.id)).map fun series =>
          series.seasons.map (SonarrSeason.fileCount py)) deleteSeries) ↔
      ∀ series, SonarrClient.getSeries py (answers.series candidate.id) = .ok series →
        CountsDecide py series.seasons := by
  cases hseries : SonarrClient.getSeries py (answers.series candidate.id) with
  | error e => simp [emptySeriesEvents, Except.map]
  | ok series =>
    simp only [emptySeriesEvents, Except.map, all_fileCount, Except.ok.injEq, forall_eq']
    rw [← allEmpty_imp_reportedEmpty_iff series.seasons]
    by_cases hempty : allEmpty py series.seasons = true
    · simp [hempty, RequestJustified, hseries]
    · simp [hempty]

end CallsJustified

variable {env : Environment} {db : Tables} {restrictToIds : List Nat} {approvedBy : String}
variable {answers : SonarrAnswers}

/-! ## The season handler -/

namespace Season

variable {outcomes : SeasonOutcomes} {settings : GeneralSettings} {action : ArrDeleteAction}
variable {task : SeasonTask} {ref : SeriesArrRef} {refs : List SeriesArrRef}

/-- A ref that is tried: none before it deletes the files. -/
def Tried (env : Environment) (outcomes : SeasonOutcomes) (settings : GeneralSettings)
    (action : ArrDeleteAction) (task : SeasonTask) (refs : List SeriesArrRef)
    (ref : SeriesArrRef) : Prop :=
  ∃ before after, refs = before ++ ref :: after ∧
    ∀ ref' ∈ before, ¬RefDeletes env outcomes settings action task ref'

theorem mem_tryRefs_events {e : Event} :
    e ∈ (tryRefs env outcomes settings action task refs).events ↔
      ∃ ref, Tried env outcomes settings action task refs ref ∧
        e ∈ refEvents env outcomes settings action task ref := by
  rw [tryRefs, Loops.mem_untilDone_trace
    (fun ref a => (tryRef_spec env outcomes settings action task ref a).1)
    (fun ref a hs => tryRef_deleted_iff hs) rfl]
  simp only [List.not_mem_nil, false_or, Tried]
  constructor
  · rintro ⟨before, ref, after, heq, hbefore, he⟩
    exact ⟨ref, ⟨before, after, heq, hbefore⟩, he⟩
  · rintro ⟨ref, ⟨before, after, heq, hbefore⟩, he⟩
    exact ⟨before, ref, after, heq, hbefore, he⟩

/-- The ref through which the files were deleted is kept. -/
theorem tryRefs_used_isSome
    (h : (tryRefs env outcomes settings action task refs).deleted = true) :
    (tryRefs env outcomes settings action task refs).used.isSome = true := by
  refine Loops.untilDone_invariant
    (P := fun (a : SeasonAttempt) => a.deleted = true → a.used.isSome = true) ?_ (by simp) h
  intro ref _ a ha
  dsimp only [tryRef]
  cases env.services.refClient ref with
  | none => exact ha
  | some client =>
    cases outcomes.getEpisodes task.candidate.id ref.id with
    | error e => exact ha
    | ok episodes =>
      dsimp only
      split_ifs
      · exact ha
      · cases outcomes.updateSeasonMonitoring task.candidate.id ref.id with
        | error e => exact ha
        | ok u =>
          dsimp only
          rw [(removeFiles_spec ..).2.1]
          exact fun _ => rfl

/-- Sonarr or the disk loses the files of a task: some ref of its series deletes them. -/
def FilesDeleted (env : Environment) (outcomes : SeasonOutcomes) (db : Tables)
    (task : SeasonTask) : Prop :=
  ∃ ref ∈ orderedRefs env db.effectiveSettings db task,
    RefDeletes env outcomes db.effectiveSettings (taskAction db.effectiveSettings db task) task ref

theorem callsJustified_removalEvents {client : ClientId}
    (h : RequestJustified py answers task.candidate ref
      (.deleteSeasonFiles ref.arrSeriesId task.season.seasonNumber)) :
    CallsJustified py answers
      (removalEvents env outcomes settings action task ref client) := by
  dsimp only [removalEvents]
  split_ifs
  · split
    · exact callsJustified_nil
    · exact callsJustified_of_call (by simp)
  · simp [h]

/-- A ref's turn processes the season only when it has a file, exactly unless Sonarr lists
placeholders only. -/
theorem callsJustified_refEvents_iff :
    CallsJustified py answers
        (refEvents env (outcomes.answered py answers) settings action task ref) ↔
      ((env.services.refClient ref).isSome →
        ∀ episodes, SonarrClient.getEpisodes (answers.episodes task.candidate.id ref.id) =
            .ok episodes →
          ¬(handlerReading py task.season.seasonNumber).PlaceholdersOnly py episodes) := by
  cases hclient : env.services.refClient ref with
  | none => simp [refEvents, hclient]
  | some client =>
    cases hepisodes : SonarrClient.getEpisodes (answers.episodes task.candidate.id ref.id) with
    | error e =>
      simp [refEvents, hclient, SeasonOutcomes.answered, hepisodes, Except.map]
    | ok episodes =>
      simp only [refEvents, hclient, SeasonOutcomes.answered, hepisodes, Except.map,
        List.isEmpty_iff, seasonFileIds_eq_nil_iff, Option.isSome_some, forall_const,
        Except.ok.injEq, forall_eq']
      rw [← EpisodeReading.countsFile_imp_hasFile_iff, ← listedFileIds_ne_nil_iff]
      by_cases hfiles : listedFileIds py task.season.seasonNumber episodes = []
      · simp [hfiles]
      · have hjustified : RequestJustified py answers task.candidate ref
            (.updateSeasonMonitoring ref.arrSeriesId task.season.seasonNumber) ↔
              (handlerReading py task.season.seasonNumber).HasFile py episodes := by
          simp [RequestJustified, hepisodes]
        rw [if_neg hfiles]
        simp only [ne_eq, hfiles, not_false_eq_true, forall_const]
        cases outcomes.updateSeasonMonitoring task.candidate.id ref.id with
        | error e => simp [hjustified]
        | ok u =>
          simp only [callsJustified_cons, hjustified]
          constructor
          · exact fun h => h.2.1
          · exact fun h => ⟨trivial, h, callsJustified_removalEvents (hjustified.mpr h)⟩

variable (py) in
/-- The answers decide what a task does: no ref that is tried lists placeholders only, and the
counts decide whether a series whose files were deleted is empty. -/
structure AnswersDecide (env : Environment) (outcomes : SeasonOutcomes)
    (answers : SonarrAnswers) (db : Tables) (task : SeasonTask) : Prop where
  files : ∀ ref, Tried env (outcomes.answered py answers) db.effectiveSettings
      (taskAction db.effectiveSettings db task) task
      (orderedRefs env db.effectiveSettings db task) ref →
    (env.services.refClient ref).isSome →
      ∀ episodes, SonarrClient.getEpisodes (answers.episodes task.candidate.id ref.id) =
          .ok episodes →
        ¬(handlerReading py task.season.seasonNumber).PlaceholdersOnly py episodes
  counts : FilesDeleted env (outcomes.answered py answers) db task →
    taskAction db.effectiveSettings db task ≠ .unmonitor →
      ∀ series, SonarrClient.getSeries py (answers.series task.candidate.id) = .ok series →
        CountsDecide py series.seasons

theorem callsJustified_followUpEvents_iff {a : SeasonAttempt} (h : a.used.isSome = true) :
    CallsJustified py answers
        (followUpEvents env (outcomes.answered py answers) settings action task a) ↔
      (action ≠ .unmonitor →
        ∀ series, SonarrClient.getSeries py (answers.series task.candidate.id) = .ok series →
          CountsDecide py series.seasons) := by
  obtain ⟨⟨ref, client⟩, hused⟩ := Option.isSome_iff_exists.mp h
  dsimp only [followUpEvents]
  rw [callsJustified_append]
  refine (and_iff_right ?_).trans ?_
  · refine callsJustified_of_call fun e he => ?_
    repeat' split at he
    all_goals simp_all
  · rw [hused]
    by_cases haction : action = .unmonitor
    · simp [haction]
    · simp only [ne_eq, haction, not_false_eq_true, forall_const]
      exact callsJustified_emptySeriesEvents_iff

theorem callsJustified_tryRefs_iff :
    CallsJustified py answers (tryRefs env outcomes settings action task refs).events ↔
      ∀ ref, Tried env outcomes settings action task refs ref →
        CallsJustified py answers (refEvents env outcomes settings action task ref) := by
  constructor
  · exact fun h ref htried e he => h e (mem_tryRefs_events.mpr ⟨ref, htried, he⟩)
  · intro h e he
    obtain ⟨ref, htried, he'⟩ := mem_tryRefs_events.mp he
    exact h ref htried e he'

theorem callsJustified_fallback {a : SeasonAttempt} :
    CallsJustified py answers (fallback env outcomes settings task a).1 := by
  refine callsJustified_of_call fun e he => ?_
  simp only [fallback] at he
  repeat' split at he
  all_goals simp_all

theorem callsJustified_taskEvents_iff :
    CallsJustified py answers
        (taskEvents env (outcomes.answered py answers) db.effectiveSettings db task) ↔
      AnswersDecide py env outcomes answers db task := by
  have hdeleted : (taskAttempt env (outcomes.answered py answers) db.effectiveSettings db
      task).deleted = true ↔ FilesDeleted env (outcomes.answered py answers) db task :=
    tryRefs_deleted_iff
  have hattempt : CallsJustified py answers (taskAttempt env (outcomes.answered py answers)
      db.effectiveSettings db task).events ↔ _ := callsJustified_tryRefs_iff
  simp only [callsJustified_refEvents_iff] at hattempt
  dsimp only [taskEvents]
  rw [callsJustified_append]
  refine (and_congr_left' hattempt).trans ⟨fun h => ⟨h.1, fun hfiles => ?_⟩, fun h => ⟨h.files, ?_⟩⟩
  · rw [if_pos (hdeleted.mpr hfiles)] at h
    exact (callsJustified_followUpEvents_iff
      (tryRefs_used_isSome (hdeleted.mpr hfiles))).mp h.2
  · split_ifs with hd
    · exact (callsJustified_followUpEvents_iff (tryRefs_used_isSome hd)).mpr
        (h.counts (hdeleted.mp hd))
    · exact callsJustified_fallback

theorem callsJustified_iff :
    CallsJustified py answers (deleteSeasonCandidates env (outcomes.answered py answers) db
        restrictToIds approvedBy).events ↔
      ∀ task ∈ tasks env db restrictToIds, AnswersDecide py env outcomes answers db task := by
  simp only [← callsJustified_taskEvents_iff]
  constructor
  · exact fun h task htask e he => h e (mem_events.mpr (.inl ⟨task, htask, he⟩))
  · intro h e he
    rcases mem_events.mp he with ⟨task, htask, hevent⟩ | hrefresh
    · exact h task htask e hevent
    · exact callsJustified_sonarrRefreshEvents e hrefresh

end Season

/-! ## The episode handler -/

namespace Episode

variable {outcomes : EpisodeOutcomes} {settings : GeneralSettings} {action : ArrDeleteAction}
variable {task : EpisodeTask} {ref : SeriesArrRef} {refs : List SeriesArrRef}

variable (py) in
/-- The counts decide whether a series that lost an episode's file is empty, when the action
asks to remove it then. -/
def AnswersDecide (env : Environment) (outcomes : EpisodeOutcomes) (answers : SonarrAnswers)
    (db : Tables) (task : EpisodeTask) : Prop :=
  DeletedThroughSonarr env (outcomes.answered py answers) db task →
    taskAction db.effectiveSettings db task = .removeIfEmpty →
      ∀ series, SonarrClient.getSeries py (answers.series task.candidate.id) = .ok series →
        CountsDecide py series.seasons

theorem callsJustified_removeFile {client : ClientId} {entry : SonarrEpisode} {fileId : Nat} :
    CallsJustified py answers
      (removeFile outcomes action task ref client entry fileId).1 := by
  dsimp only [removeFile]
  repeat' split
  all_goals simp [RequestJustified]

theorem callsJustified_refEvents :
    CallsJustified py answers (refEvents env outcomes action task ref) := by
  simp only [refEvents]
  repeat' split
  all_goals simp [callsJustified_removeFile]

theorem callsJustified_followUpEvents_iff {a : EpisodeAttempt} (h : a.deleted = true) :
    CallsJustified py answers
        (followUpEvents env (outcomes.answered py answers) settings action task a) ↔
      (action = .removeIfEmpty →
        ∀ series, SonarrClient.getSeries py (answers.series task.candidate.id) = .ok series →
          CountsDecide py series.seasons) := by
  obtain ⟨⟨ref, client⟩, hused⟩ := Option.isSome_iff_exists.mp h
  dsimp only [followUpEvents]
  rw [callsJustified_append]
  refine (and_iff_right ?_).trans ?_
  · refine callsJustified_of_call fun e he => ?_
    split at he <;> simp_all
  · rw [hused]
    by_cases haction : action = .removeIfEmpty
    · simp only [haction, if_true, forall_const]
      exact callsJustified_emptySeriesEvents_iff
    · simp [haction]

theorem callsJustified_fallback {a : EpisodeAttempt} :
    CallsJustified py answers (fallback env outcomes settings task a).1 := by
  refine callsJustified_of_call fun e he => ?_
  simp only [fallback] at he
  repeat' split at he
  all_goals simp_all

theorem callsJustified_taskEvents_iff :
    CallsJustified py answers
        (taskEvents env (outcomes.answered py answers) db.effectiveSettings db task) ↔
      AnswersDecide py env outcomes answers db task := by
  have hattempt : CallsJustified py answers (taskAttempt env (outcomes.answered py answers)
      db.effectiveSettings db task).events := by
    intro e he
    obtain ⟨ref, -, href⟩ := tryRefs_events e he
    exact callsJustified_refEvents e href
  dsimp only [taskEvents, AnswersDecide]
  rw [callsJustified_append, and_iff_right hattempt, ← taskAttempt_deleted_iff]
  split_ifs with hdeleted
  · simp only [callsJustified_followUpEvents_iff hdeleted, hdeleted, forall_const]
  · simp [callsJustified_fallback, hdeleted]

theorem callsJustified_iff :
    CallsJustified py answers (deleteEpisodeCandidates env (outcomes.answered py answers) db
        restrictToIds approvedBy).events ↔
      ∀ task ∈ tasks env db restrictToIds, AnswersDecide py env outcomes answers db task := by
  simp only [← callsJustified_taskEvents_iff]
  constructor
  · exact fun h task htask e he => h e (mem_events.mpr (.inl ⟨task, htask, he⟩))
  · intro h e he
    rcases mem_events.mp he with ⟨task, htask, hevent⟩ | hrefresh
    · exact h task htask e hevent
    · exact callsJustified_sonarrRefreshEvents e hrefresh

end Episode

/-! ## Both handlers -/

/-- `delete_season_files` asks Sonarr to delete files exactly when the listing counts some. -/
theorem deleteSeasonFiles_isSome_iff {seasonNumber : Nat} {listing bulk : HttpAnswer} :
    (SonarrClient.deleteSeasonFiles py seasonNumber listing bulk).1.isSome = true ↔
      ∃ episodes, SonarrClient.getEpisodes listing = .ok episodes ∧
        (clientReading py seasonNumber).CountsFile episodes := by
  unfold SonarrClient.deleteSeasonFiles SonarrClient.getEpisodes
  split
  · simp
  · simp only [Except.ok.injEq, exists_eq_left', ← episodeFileIds_ne_nil_iff,
      List.isEmpty_iff]
    split_ifs with hids <;> simp [hids]
  · simp only [Option.isSome_none, Bool.false_eq_true, false_iff, not_exists, not_and]
    intro episodes hepisodes
    cases hepisodes

variable (py) in
/-- A series is removed from Sonarr only when Sonarr reports it as empty, and a season is
processed, and its files are asked to be deleted, only when some episode of it has a file. -/
structure SeriesLeavesEmpty (env : Environment) (season : SeasonOutcomes)
    (episode : EpisodeOutcomes) (answers : SonarrAnswers) (db : Tables)
    (restrictToIds : List Nat) (approvedBy : String) (seasonNumber : Nat)
    (listing bulk : HttpAnswer) : Prop where
  season : CallsJustified py answers
    (deleteSeasonCandidates env (season.answered py answers) db restrictToIds approvedBy).events
  episode : CallsJustified py answers
    (deleteEpisodeCandidates env (episode.answered py answers) db restrictToIds approvedBy).events
  request : (SonarrClient.deleteSeasonFiles py seasonNumber listing bulk).1.isSome = true →
    ∃ episodes, SonarrClient.getEpisodes listing = .ok episodes ∧
      (clientReading py seasonNumber).HasFile py episodes

variable (py) in
/-- The answers decide what is empty: no missing count stands where a series could be removed,
and no season that is processed has placeholders only. -/
structure AnswersDecide (env : Environment) (season : SeasonOutcomes)
    (episode : EpisodeOutcomes) (answers : SonarrAnswers) (db : Tables)
    (restrictToIds : List Nat) (seasonNumber : Nat) (listing : HttpAnswer) : Prop where
  season : ∀ task ∈ Season.tasks env db restrictToIds,
    Season.AnswersDecide py env season answers db task
  episode : ∀ task ∈ Episode.tasks env db restrictToIds,
    Episode.AnswersDecide py env episode answers db task
  request : ∀ episodes, SonarrClient.getEpisodes listing = .ok episodes →
    ¬(clientReading py seasonNumber).PlaceholdersOnly py episodes

/-- In every run, a series leaves Sonarr only when it is reported as empty and a season is
processed only when it has a file, exactly when the answers decide both. -/
theorem seriesLeavesEmpty_iff (py : SonarrReader) (env : Environment) (season : SeasonOutcomes)
    (episode : EpisodeOutcomes) (answers : SonarrAnswers) (db : Tables)
    (restrictToIds : List Nat) (approvedBy : String) (seasonNumber : Nat)
    (listing bulk : HttpAnswer) :
    SeriesLeavesEmpty py env season episode answers db restrictToIds approvedBy seasonNumber
        listing bulk ↔
      AnswersDecide py env season episode answers db restrictToIds seasonNumber listing := by
  have hrequest : ((SonarrClient.deleteSeasonFiles py seasonNumber listing bulk).1.isSome =
      true → ∃ episodes, SonarrClient.getEpisodes listing = .ok episodes ∧
        (clientReading py seasonNumber).HasFile py episodes) ↔
      ∀ episodes, SonarrClient.getEpisodes listing = .ok episodes →
        ¬(clientReading py seasonNumber).PlaceholdersOnly py episodes := by
    rw [deleteSeasonFiles_isSome_iff]
    cases SonarrClient.getEpisodes listing with
    | error e => simp
    | ok episodes => simp [← EpisodeReading.countsFile_imp_hasFile_iff]
  constructor
  · exact fun h => ⟨Season.callsJustified_iff.mp h.season, Episode.callsJustified_iff.mp h.episode,
      hrequest.mp h.request⟩
  · exact fun h => ⟨Season.callsJustified_iff.mpr h.season,
      Episode.callsJustified_iff.mpr h.episode, hrequest.mpr h.request⟩

/-! ## A season without statistics -/

/-- The interpreter on whole numbers. -/
def plainReader : SonarrReader :=
  { PythonRuntime.plainRuntime with
    intOfStr := fun _ => none
    intOfFloat := fun _ => 0
    integral := fun _ => none }

def pyOne : PyValue := .int ⟨1, by decide +kernel⟩

/-- Sonarr lists one episode with a file, and a season without statistics. -/
def statisticsMissing : SonarrAnswers where
  episodes _ _ := .ok (200, .list [.dict [("seasonNumber", pyOne), ("episodeFileId", pyOne)]])
  series _ := .ok (200, .dict [("seasons", .list [.dict [("seasonNumber", pyOne)]])])

def seasonCandidate : ReclaimCandidate :=
  { id := 1, mediaType := .series, seriesId := some 1, seasonId := some 1 }

def sonarrRef : SeriesArrRef := { id := 1, seriesId := 1, serviceConfigId := 1, arrSeriesId := 10 }

/-- One season candidate of a series that Sonarr knows; an empty series is to be removed. -/
def seasonCandidateTables : Tables where
  series := [{ id := 1, tmdbId := 100, title := "Show" }]
  seasons := [{ id := 1, seriesId := 1, seasonNumber := 1 }]
  seriesArrRefs := [sonarrRef]
  candidates := [seasonCandidate]
  settings := some { defaultArrDeleteBehavior := "remove_if_empty" }

def oneSonarr : Environment where
  services := { sonarrMain := some 1, sonarrClients := [(1, 1)] }
  caseTables := ⟨id, id⟩
  search _ _ := false
  now := 0

/-- The series leaves Sonarr although no file count was reported. -/
theorem not_seriesLeavesEmpty_statisticsMissing : ¬SeriesLeavesEmpty plainReader oneSonarr {} {}
    statisticsMissing seasonCandidateTables [1] "system" 1 (.ok (200, .list [])) (.error "") := by
  intro h
  have hremoved : sonarrEvent seasonCandidate 1 sonarrRef (.deleteSeries 10 false true) true ∈
      (deleteSeasonCandidates oneSonarr (SeasonOutcomes.answered plainReader {} statisticsMissing)
        seasonCandidateTables [1] "system").events := by
    decide +kernel
  obtain ⟨candidate, hcandidate, -, series, hseries, -, hreported⟩ :=
    h.season _ hremoved _ _ _ rfl
  cases hseries
  obtain ⟨count, hcount, -⟩ := hreported _ List.mem_cons_self
  cases hcount

end MediaMasterr.Deletion
