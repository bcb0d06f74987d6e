import MediaMasterr.Deletion.Episode

/-! # Episodes that share a file

Sonarr gives several episodes one file id when a file holds several episodes.
The episode handler looks at the entry of its own candidate only, so deleting a
shared file removes the other episodes of the file too. -/

namespace MediaMasterr.Deletion.Episode

open MediaMasterr.Foundations MediaMasterr.Database

/-- The entry of a library episode of the series, in Sonarr's list, carries the file. -/
def CarriesFile (db : Tables) (seriesId : Nat) (episodes : List SonarrEpisode) (fileId : Nat)
    (ep : Episode) : Prop :=
  ∃ season ∈ db.seasons, season.id = ep.seasonId ∧ season.seriesId = seriesId ∧
    ∃ entry ∈ episodes, entry.seasonNumber = some season.seasonNumber ∧
      entry.episodeNumber = some ep.episodeNumber ∧ entry.episodeFileId = some fileId

/-- Every library episode of the series with the file is among the selected ones. -/
def OnlySelected (db : Tables) (selected : List EpisodeTask) (seriesId : Nat)
    (episodes : List SonarrEpisode) (fileId : Nat) : Prop :=
  ∀ ep ∈ db.episodes, CarriesFile db seriesId episodes fileId ep →
    ∃ task ∈ selected, task.episode.id = ep.id

/-- Whatever the other calls return, with these episode lists no file of an episode that is
not selected is deleted, and a candidate whose file is shared with one stays. -/
structure DeletesNoOtherEpisode (env : Environment) (db : Tables) (restrictToIds : List Nat)
    (inventory : Nat → Nat → Outcome (List SonarrEpisode)) : Prop where
  files : ∀ outcomes : EpisodeOutcomes, outcomes.getEpisodes = inventory → ∀ approvedBy,
    ∀ e ∈ (deleteEpisodeCandidates env outcomes db restrictToIds approvedBy).events,
    ∀ client ref fileId, e.call = .sonarr client (.ofRef ref) (.deleteEpisodeFile fileId) →
    ∀ task ∈ tasks env db restrictToIds, e.candidates = [task.candidate] →
    ∀ episodes, inventory task.candidate.id ref.id = .ok episodes →
      OnlySelected db (tasks env db restrictToIds) task.series.id episodes fileId
  kept : ∀ outcomes : EpisodeOutcomes, outcomes.getEpisodes = inventory → ∀ approvedBy,
    ∀ task ∈ tasks env db restrictToIds, ∀ ref ∈ seriesRefs db task.series.id,
    (env.services.refClient ref).isSome → ∀ episodes entry fileId,
    inventory task.candidate.id ref.id = .ok episodes →
    chosenFile task episodes = some (entry, fileId) →
    ¬OnlySelected db (tasks env db restrictToIds) task.series.id episodes fileId →
      task.candidate ∈
        (deleteEpisodeCandidates env outcomes db restrictToIds approvedBy).db.candidates

/-- For every selected candidate and every usable ref of its series: all library episodes
that share the file of the first matching entry are selected. -/
def SharedFilesSelected (env : Environment) (db : Tables) (restrictToIds : List Nat)
    (inventory : Nat → Nat → Outcome (List SonarrEpisode)) : Prop :=
  ∀ task ∈ tasks env db restrictToIds, ∀ ref ∈ seriesRefs db task.series.id,
    (env.services.refClient ref).isSome → ∀ episodes entry fileId,
    inventory task.candidate.id ref.id = .ok episodes →
    chosenFile task episodes = some (entry, fileId) →
      OnlySelected db (tasks env db restrictToIds) task.series.id episodes fileId

variable {env : Environment} {outcomes : EpisodeOutcomes} {settings : GeneralSettings}
variable {action : ArrDeleteAction} {task : EpisodeTask} {ref : SeriesArrRef}
variable {db : Tables} {restrictToIds : List Nat} {approvedBy : String} {e : Event}

theorem taskOf_of_mem_tasks (h : task ∈ tasks env db restrictToIds) :
    taskOf db task.candidate = some task := by
  obtain ⟨c, -, hc⟩ := List.mem_filterMap.mp h
  have hcandidate : task.candidate = c := by
    unfold taskOf at hc
    split at hc
    · rw [← Option.some.inj hc]
    · cases hc
  rw [hcandidate, hc]

/-! ## Where a file is deleted -/

theorem refEvents_deleteEpisodeFile {client : ClientId} {ref' : SeriesArrRef} {fileId : Nat}
    (he : e ∈ refEvents env outcomes action task ref)
    (hcall : e.call = .sonarr client (.ofRef ref') (.deleteEpisodeFile fileId)) :
    ref' = ref ∧ e.candidates = [task.candidate] ∧ (env.services.refClient ref).isSome ∧
      ∃ episodes entry, outcomes.getEpisodes task.candidate.id ref.id = .ok episodes ∧
        chosenFile task episodes = some (entry, fileId) := by
  unfold refEvents at he
  cases hc : env.services.refClient ref with
  | none => simp [hc] at he
  | some used =>
    cases hg : outcomes.getEpisodes task.candidate.id ref.id with
    | error text =>
      simp only [hc, hg, List.mem_singleton] at he
      subst he
      simp [sonarrEvent] at hcall
    | ok episodes =>
      cases hchosen : chosenFile task episodes with
      | none =>
        simp only [hc, hg, hchosen, List.mem_singleton] at he
        subst he
        simp [sonarrEvent] at hcall
      | some chosen =>
        obtain ⟨entry, chosenId⟩ := chosen
        simp only [hc, hg, hchosen, List.mem_cons] at he
        have hevent : ref' = ref ∧ e.candidates = [task.candidate] ∧ fileId = chosenId := by
          rcases he with rfl | he
          · simp [sonarrEvent] at hcall
          · dsimp only [removeFile] at he
            repeat' split at he
            all_goals
              simp only [List.mem_cons, List.not_mem_nil, or_false] at he
              rcases he with rfl | rfl <;> simp_all [sonarrEvent]
        refine ⟨hevent.1, hevent.2.1, rfl, episodes, entry, rfl, ?_⟩
        rw [hchosen, hevent.2.2]

theorem RefDeletes.event (h : RefDeletes env outcomes action task ref) :
    ∃ client episodes entry fileId, outcomes.getEpisodes task.candidate.id ref.id = .ok episodes ∧
      chosenFile task episodes = some (entry, fileId) ∧
      sonarrEvent task.candidate client ref (.deleteEpisodeFile fileId) true ∈
        refEvents env outcomes action task ref := by
  obtain ⟨client, episodes, entry, fileId, hc, hg, hchosen, hunmonitor, hdelete⟩ := h
  refine ⟨client, episodes, entry, fileId, hg, hchosen, ?_⟩
  simp only [refEvents, hc, hg, hchosen]
  refine List.mem_cons_of_mem _ ?_
  cases hd : outcomes.deleteEpisodeFile task.candidate.id ref.id with
  | error text => simp [hd, Outcome.succeeded] at hdelete
  | ok u =>
    dsimp only [removeFile]
    cases hid : truthyId entry.id with
    | none => simp [hd]
    | some episodeId =>
      by_cases haction : action = .unmonitor
      · cases hu : outcomes.unmonitorEpisode task.candidate.id ref.id with
        | error text => simp [haction, hid, hu, Outcome.succeeded] at hunmonitor
        | ok u' => simp [haction, hd]
      · simp [haction, hd]

/-- The only calls that delete an episode file are those of a ref's turn. -/
theorem taskEvents_deleteEpisodeFile {client : ClientId} {fileId : Nat}
    (he : e ∈ taskEvents env outcomes settings db task)
    (hcall : e.call = .sonarr client (.ofRef ref) (.deleteEpisodeFile fileId)) :
    ∃ ref' ∈ seriesRefs db task.series.id,
      e ∈ refEvents env outcomes (taskAction settings db task) task ref' := by
  rcases List.mem_append.mp he with he | he
  · obtain ⟨ref', href', he'⟩ := tryRefs_events e he
    exact ⟨ref', (mem_orderSeriesArrRefs ..).mp href', he'⟩
  · exfalso
    split_ifs at he
    · simp only [followUpEvents, List.mem_append] at he
      rcases he with he | he
      · split at he <;> simp_all
      · simp only [emptySeriesEvents] at he
        repeat' split at he
        all_goals simp_all [sonarrEvent]
        rcases he with rfl | rfl <;> simp at hcall
    · simp only [fallback] at he
      repeat' split at he
      all_goals simp_all

theorem refresh_deleteEpisodeFile {services : Services} {refreshOk : Nat → Bool}
    {refresh : List (Nat × List Nat)} {client : ClientId} {fileId : Nat}
    (he : e ∈ sonarrRefreshEvents services refreshOk refresh) :
    e.call ≠ .sonarr client (.ofRef ref) (.deleteEpisodeFile fileId) := by
  obtain ⟨entry, -, hentry⟩ := List.mem_filterMap.mp he
  obtain ⟨client', -, rfl⟩ := Option.map_eq_some_iff.mp hentry
  simp

/-! ## Exactly when no other episode loses its file -/

/-- A run in which one candidate's file is deleted through one ref, and every other
deletion fails. -/
def deletingOnly (inventory : Nat → Nat → Outcome (List SonarrEpisode))
    (candidateId refId : Nat) : EpisodeOutcomes where
  getEpisodes := inventory
  unmonitorEpisode _ _ := .ok ()
  deleteEpisodeFile c r := if c = candidateId ∧ r = refId then .ok () else .error ""
  getSeries _ := .error ""
  deleteSeries _ := .error ""
  deleteItem _ := .error ""
  refreshSeries _ := false

theorem deletesNoOtherEpisode_iff (env : Environment) (db : Tables) (restrictToIds : List Nat)
    (inventory : Nat → Nat → Outcome (List SonarrEpisode)) :
    DeletesNoOtherEpisode env db restrictToIds inventory ↔
      SharedFilesSelected env db restrictToIds inventory := by
  constructor
  · intro hsafe task htask ref href hclient episodes entry fileId hinventory hchosen
    set outcomes := deletingOnly inventory task.candidate.id ref.id with houtcomes
    have hdeletes : RefDeletes env outcomes (taskAction db.effectiveSettings db task) task ref := by
      obtain ⟨client, hclient⟩ := Option.isSome_iff_exists.mp hclient
      exact ⟨client, episodes, entry, fileId, hclient, hinventory, hchosen,
        fun _ _ => rfl, by simp [houtcomes, deletingOnly, Outcome.succeeded]⟩
    have hdeleted := tryRefs_deleted_iff.mpr
      ⟨ref, (mem_orderSeriesArrRefs db.effectiveSettings.pathMappings
        env.services.mainMediaServerType
        (task.episode.path :: task.season.path :: task.season.episodePaths.map some) _ _).mpr href,
        hdeletes⟩
    -- another row may carry the same ref id; its turn deletes the same file
    obtain ⟨ref', -, hdeletes', hall⟩ := tryRefs_ends hdeleted
    have hid : ref'.id = ref.id := by
      obtain ⟨_, _, _, _, -, -, -, -, hok⟩ := hdeletes'
      by_contra hne
      simp [houtcomes, deletingOnly, Outcome.succeeded, hne] at hok
    obtain ⟨client, episodes', entry', fileId', hinventory', hchosen', hevent⟩ := hdeletes'.event
    have hepisodes : episodes' = episodes := by
      change inventory task.candidate.id ref'.id = _ at hinventory'
      rw [hid, hinventory] at hinventory'
      exact (Except.ok.inj hinventory').symm
    subst hepisodes
    have hfile : fileId' = fileId := by
      rw [hchosen, Option.some.injEq, Prod.mk.injEq] at hchosen'
      exact hchosen'.2.symm
    subst hfile
    have hrun : _ ∈ (deleteEpisodeCandidates env outcomes db restrictToIds "system").events :=
      mem_events.mpr (Or.inl ⟨task, htask, List.mem_append_left _ (hall _ hevent)⟩)
    exact hsafe.files outcomes rfl "system" _ hrun client ref' fileId' rfl task htask rfl episodes'
      hinventory'
  · intro hselected
    refine ⟨?_, ?_⟩
    · intro outcomes hinventory approvedBy e he client ref fileId hcall task htask hcandidates
        episodes hepisodes
      rcases mem_events.mp he with ⟨task', htask', he⟩ | he
      · obtain ⟨ref', href', he⟩ := taskEvents_deleteEpisodeFile he hcall
        obtain ⟨rfl, hcandidates', hclient, episodes', entry, hepisodes', hchosen⟩ :=
          refEvents_deleteEpisodeFile he hcall
        have hsame : task' = task := by
          rw [hcandidates, List.cons.injEq] at hcandidates'
          have h := taskOf_of_mem_tasks htask'
          rw [← hcandidates'.1, taskOf_of_mem_tasks htask] at h
          exact (Option.some.inj h).symm
        subst hsame
        rw [hinventory, hepisodes, Except.ok.injEq] at hepisodes'
        subst hepisodes'
        exact hselected task' htask' ref href' hclient episodes entry fileId hepisodes hchosen
      · exact absurd hcall (refresh_deleteEpisodeFile he)
    · intro outcomes _ approvedBy task htask ref href hclient episodes entry fileId hepisodes
        hchosen hnot
      exact absurd (hselected task htask ref href hclient episodes entry fileId hepisodes hchosen)
        hnot

/-! ## A double episode -/

/-- Two episodes in one file, of which the first is a candidate. -/
def doubleEpisodeTables : Tables where
  series := [{ id := 1, tmdbId := 100, title := "Show" }]
  seasons := [{ id := 1, seriesId := 1, seasonNumber := 1 }]
  episodes := [{ id := 1, seasonId := 1, episodeNumber := 1 },
    { id := 2, seasonId := 1, episodeNumber := 2 }]
  seriesArrRefs := [{ id := 1, seriesId := 1, serviceConfigId := 1, arrSeriesId := 10 }]
  candidates :=
    [{ id := 1, mediaType := .series, seriesId := some 1, seasonId := some 1, episodeId := some 1 }]

def doubleEpisodeInventory : List SonarrEpisode :=
  [⟨some 51, some 1, some 1, some 7⟩, ⟨some 52, some 1, some 2, some 7⟩]

/-- One Sonarr instance, no media server. -/
def oneSonarr : Environment where
  services := { sonarrMain := some 1, sonarrClients := [(1, 1)] }
  caseTables := ⟨id, id⟩
  search _ _ := false
  now := 0

theorem doubleEpisode_deletesOtherEpisode :
    ¬DeletesNoOtherEpisode oneSonarr doubleEpisodeTables [1]
      (fun _ _ => .ok doubleEpisodeInventory) := by
  intro h
  have hevent : (⟨doubleEpisodeTables.candidates,
      .sonarr 1 (.ofRef ⟨1, 1, 1, 10, none⟩) (.deleteEpisodeFile 7), true⟩ : Event) ∈
      (deleteEpisodeCandidates oneSonarr
        (deletingOnly (fun _ _ => .ok doubleEpisodeInventory) 1 1) doubleEpisodeTables [1]
        "system").events := by decide
  have htask : (⟨
      { id := 1, mediaType := .series, seriesId := some 1, seasonId := some 1, episodeId := some 1 },
      { id := 1, seasonId := 1, episodeNumber := 1 },
      { id := 1, seriesId := 1, seasonNumber := 1 },
      { id := 1, tmdbId := 100, title := "Show" }⟩ : EpisodeTask) ∈
      tasks oneSonarr doubleEpisodeTables [1] := List.mem_singleton.mpr rfl
  obtain ⟨task, hmem, hid⟩ := h.files _ rfl "system" _ hevent 1 _ 7 rfl _ htask rfl _ rfl
    { id := 2, seasonId := 1, episodeNumber := 2 } (by simp [doubleEpisodeTables])
    ⟨{ id := 1, seriesId := 1, seasonNumber := 1 }, by simp [doubleEpisodeTables], rfl, rfl,
      ⟨some 52, some 1, some 2, some 7⟩, by simp [doubleEpisodeInventory], rfl, rfl, rfl⟩
  have htasks : ∀ t ∈ tasks oneSonarr doubleEpisodeTables [1], t.episode.id = 1 := by decide
  rw [htasks task hmem] at hid
  exact absurd hid (by decide)

end MediaMasterr.Deletion.Episode
