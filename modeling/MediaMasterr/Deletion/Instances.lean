import MediaMasterr.Deletion.SharedFiles

/-! # Arr ids and their instances

A ref's ids mean something on the Sonarr instance of its configuration only. The
season and episode handlers take the main client where that instance has none,
so its ids reach another instance. -/

namespace MediaMasterr.Deletion

open MediaMasterr.Foundations MediaMasterr.Database

/-- Every Sonarr call goes to the client of the configuration that its ids come from. -/
def IdsStayOnInstance (services : Services) (events : List Event) : Prop :=
  ∀ e ∈ events, ∀ client ids request, e.call = .sonarr client ids request →
    services.sonarrClients.lookup ids.serviceConfigId = some client

/-- A ref is processed on its own instance, or not at all. -/
def RefStaysOnInstance (services : Services) (ref : SeriesArrRef) : Prop :=
  (services.sonarrClients.lookup ref.serviceConfigId).isSome ∨ services.sonarr = none

variable {env : Environment} {db : Tables} {restrictToIds : List Nat} {approvedBy : String}
variable {ref : SeriesArrRef} {client : ClientId}

theorem RefStaysOnInstance.lookup (h : RefStaysOnInstance env.services ref)
    (hclient : env.services.refClient ref = some client) :
    env.services.sonarrClients.lookup ref.serviceConfigId = some client := by
  rw [Services.refClient_eq] at hclient
  rcases h with hsome | hnone
  · obtain ⟨own, hown⟩ := Option.isSome_iff_exists.mp hsome
    rw [hown] at hclient
    rw [hown, ← hclient]
    rfl
  · cases hown : env.services.sonarrClients.lookup ref.serviceConfigId with
    | none => simp [hown, hnone] at hclient
    | some own =>
      rw [hown] at hclient
      exact hclient

theorem refStaysOnInstance_of_client
    (h : ∀ client, env.services.refClient ref = some client →
      env.services.sonarrClients.lookup ref.serviceConfigId = some client) :
    RefStaysOnInstance env.services ref := by
  cases hown : env.services.sonarrClients.lookup ref.serviceConfigId with
  | some own => exact Or.inl (by simp [hown])
  | none =>
    refine Or.inr ?_
    cases hmain : env.services.sonarr with
    | none => rfl
    | some client =>
      have hclient : env.services.refClient ref = some client := by
        simp [Services.refClient_eq, hown, hmain]
      rw [hown] at h
      cases h client hclient

/-- A refresh stays on the instance when every configuration comes from such a ref. -/
theorem refresh_idsStayOnInstance {refreshOk : Nat → Bool} {refresh : List (Nat × List Nat)}
    (h : ∀ entry ∈ refresh, ∃ ref : SeriesArrRef, RefStaysOnInstance env.services ref ∧
      (env.services.refClient ref).isSome ∧ entry.1 = ref.serviceConfigId) :
    IdsStayOnInstance env.services (sonarrRefreshEvents env.services refreshOk refresh) := by
  intro e he client ids request hcall
  obtain ⟨entry, hentry, hmap⟩ := List.mem_filterMap.mp he
  obtain ⟨client', hlookup, rfl⟩ := Option.map_eq_some_iff.mp hmap
  obtain ⟨ref, hstays, hsome, hconfig⟩ := h entry hentry
  obtain ⟨own, hown⟩ := Option.isSome_iff_exists.mp hsome
  have hclients : env.services.sonarrClients ≠ [] := by
    intro hempty
    have hlook := hstays.lookup hown
    rw [hempty] at hlook
    cases hlook
  simp only [Call.sonarr.injEq] at hcall
  obtain ⟨rfl, rfl, -⟩ := hcall
  rw [Services.sonarrClientsOrMain, if_neg (by simpa using hclients)] at hlookup
  exact hlookup

theorem emptySeriesEvents_idsStayOnInstance {candidate : ReclaimCandidate}
    {addImportExclusion : Bool} {fileCounts : Outcome (List (Option Nat))}
    {deleteSeries : Outcome Unit}
    (h : env.services.sonarrClients.lookup ref.serviceConfigId = some client) :
    IdsStayOnInstance env.services
      (emptySeriesEvents candidate client ref addImportExclusion fileCounts deleteSeries) := by
  intro e he client' ids request hcall
  have hids : client' = client ∧ ids = .ofRef ref := by
    unfold emptySeriesEvents at he
    cases fileCounts with
    | error text => simp_all [sonarrEvent]
    | ok counts =>
      dsimp only at he
      split_ifs at he
      · simp only [List.mem_cons, List.not_mem_nil, or_false] at he
        rcases he with rfl | rfl <;> simp_all [sonarrEvent]
      · simp_all [sonarrEvent]
  rw [hids.1, hids.2]
  exact h

/-! ## The season handler -/

namespace Season

variable {outcomes : SeasonOutcomes} {settings : GeneralSettings} {action : ArrDeleteAction}
variable {task : SeasonTask} {e : Event}

theorem removalEvents_sonarr {own client : ClientId} {ids : SonarrIds} {request : SonarrRequest}
    (he : e ∈ removalEvents env outcomes settings action task ref own)
    (hcall : e.call = .sonarr client ids request) : client = own ∧ ids = .ofRef ref := by
  simp only [removalEvents] at he
  split_ifs at he
  · split at he <;> simp_all
  · simp_all [sonarrEvent]

theorem refEvents_sonarr {client : ClientId} {ids : SonarrIds} {request : SonarrRequest}
    (he : e ∈ refEvents env outcomes settings action task ref)
    (hcall : e.call = .sonarr client ids request) :
    env.services.refClient ref = some client ∧ ids = .ofRef ref := by
  unfold refEvents at he
  cases hc : env.services.refClient ref with
  | none => simp [hc] at he
  | some own =>
    have hids : client = own ∧ ids = .ofRef ref := by
      simp only [hc] at he
      repeat' split at he
      all_goals simp only [List.mem_cons, List.not_mem_nil, or_false] at he
      · simp_all [sonarrEvent]
      · simp_all [sonarrEvent]
      · rcases he with rfl | rfl <;> simp_all [sonarrEvent]
      · rcases he with rfl | rfl | he
        · simp_all [sonarrEvent]
        · simp_all [sonarrEvent]
        · exact removalEvents_sonarr he hcall
    exact ⟨by rw [hids.1], hids.2⟩

/-- Every configuration of a ref that the handler may use has its own client. -/
def RefsStayOnInstance (env : Environment) (db : Tables) (restrictToIds : List Nat) : Prop :=
  ∀ task ∈ tasks env db restrictToIds, ∀ ref ∈ seriesRefs db task.series.id,
    RefStaysOnInstance env.services ref

theorem taskEvents_idsStayOnInstance {rows : Tables}
    (h : ∀ ref ∈ seriesRefs rows task.series.id, RefStaysOnInstance env.services ref) :
    IdsStayOnInstance env.services (taskEvents env outcomes settings rows task) := by
  intro e he client ids request hcall
  rcases List.mem_append.mp he with he | he
  · obtain ⟨ref, href, he⟩ := tryRefs_events e he
    obtain ⟨hclient, rfl⟩ := refEvents_sonarr he hcall
    exact (h ref ((mem_orderSeriesArrRefs ..).mp href)).lookup hclient
  · split_ifs at he
    · rcases List.mem_append.mp he with he | he
      · repeat' split at he
        all_goals simp_all
      · split at he
        · rename_i ref own hused
          obtain ⟨href, hclient⟩ := taskAttempt_used hused
          split_ifs at he
          · cases he
          · exact emptySeriesEvents_idsStayOnInstance ((h ref href).lookup hclient) e he client ids
              request hcall
        · cases he
    · simp only [fallback] at he
      repeat' split at he
      all_goals simp_all

/-- A run in which every call fails. -/
def nothingSucceeds : SeasonOutcomes where
  getEpisodes _ _ := .error ""
  updateSeasonMonitoring _ _ := .error ""
  disk _ _ := ⟨fun _ => false, fun _ => false, fun _ => []⟩
  rmtree _ _ := .error ""
  deleteSeasonFiles _ _ := .error ""
  getSeries _ := .error ""
  deleteSeries _ := .error ""
  deleteItem _ := .error ""
  refreshSeries _ := false

theorem idsStayOnInstance_iff (env : Environment) (db : Tables) (restrictToIds : List Nat) :
    (∀ outcomes approvedBy, IdsStayOnInstance env.services
      (deleteSeasonCandidates env outcomes db restrictToIds approvedBy).events) ↔
      RefsStayOnInstance env db restrictToIds := by
  constructor
  · intro h task htask ref href
    refine refStaysOnInstance_of_client fun client hclient => ?_
    have hevent : sonarrEvent task.candidate client ref (.getEpisodes ref.arrSeriesId) false ∈
        refEvents env nothingSucceeds db.effectiveSettings
          (taskAction db.effectiveSettings db task) task ref := by
      simp [refEvents, hclient, nothingSucceeds]
    have htried : _ ∈ (taskAttempt env nothingSucceeds db.effectiveSettings db task).events :=
      tryRefs_visits ((mem_orderSeriesArrRefs ..).mpr href) (fun ref' _ hdel => by
        obtain ⟨_, _, -, hget, -⟩ := hdel
        cases hget) hevent
    exact h nothingSucceeds "system" _ (mem_events.mpr
      (Or.inl ⟨task, htask, List.mem_append_left _ htried⟩)) client (.ofRef ref) _ rfl
  · intro h outcomes approvedBy e he client ids request hcall
    rcases mem_events.mp he with ⟨task, htask, he⟩ | he
    · exact taskEvents_idsStayOnInstance (h task htask) e he client ids request hcall
    · refine refresh_idsStayOnInstance (fun entry hentry => ?_) e he client ids request hcall
      obtain ⟨task, htask, ref, href, hclient, hconfig⟩ := processTasks_refresh entry hentry
      exact ⟨ref, h task htask ref href, hclient, hconfig⟩

end Season

/-! ## The episode handler -/

namespace Episode

variable {outcomes : EpisodeOutcomes} {settings : GeneralSettings} {action : ArrDeleteAction}
variable {task : EpisodeTask} {e : Event}

theorem removeFile_sonarr {own client : ClientId} {entry : SonarrEpisode} {fileId : Nat}
    {ids : SonarrIds} {request : SonarrRequest}
    (he : e ∈ (removeFile outcomes action task ref own entry fileId).1)
    (hcall : e.call = .sonarr client ids request) : client = own ∧ ids = .ofRef ref := by
  dsimp only [removeFile] at he
  repeat' split at he
  all_goals
    simp only [List.mem_cons, List.not_mem_nil, or_false] at he
    rcases he with rfl | rfl <;> simp_all [sonarrEvent]

theorem refEvents_sonarr {client : ClientId} {ids : SonarrIds} {request : SonarrRequest}
    (he : e ∈ refEvents env outcomes action task ref)
    (hcall : e.call = .sonarr client ids request) :
    env.services.refClient ref = some client ∧ ids = .ofRef ref := by
  unfold refEvents at he
  cases hc : env.services.refClient ref with
  | none => simp [hc] at he
  | some own =>
    have hids : client = own ∧ ids = .ofRef ref := by
      simp only [hc] at he
      repeat' split at he
      all_goals simp only [List.mem_cons, List.not_mem_nil, or_false] at he
      · simp_all [sonarrEvent]
      · simp_all [sonarrEvent]
      · rcases he with rfl | he
        · simp_all [sonarrEvent]
        · exact removeFile_sonarr he hcall
    exact ⟨by rw [hids.1], hids.2⟩

/-- Every configuration of a ref that the handler may use has its own client. -/
def RefsStayOnInstance (env : Environment) (db : Tables) (restrictToIds : List Nat) : Prop :=
  ∀ task ∈ tasks env db restrictToIds, ∀ ref ∈ seriesRefs db task.series.id,
    RefStaysOnInstance env.services ref

theorem taskEvents_idsStayOnInstance {rows : Tables}
    (h : ∀ ref ∈ seriesRefs rows task.series.id, RefStaysOnInstance env.services ref) :
    IdsStayOnInstance env.services (taskEvents env outcomes settings rows task) := by
  intro e he client ids request hcall
  rcases List.mem_append.mp he with he | he
  · obtain ⟨ref, href, he⟩ := tryRefs_events e he
    obtain ⟨hclient, rfl⟩ := refEvents_sonarr he hcall
    exact (h ref ((mem_orderSeriesArrRefs ..).mp href)).lookup hclient
  · split_ifs at he
    · rcases List.mem_append.mp he with he | he
      · split at he <;> simp_all
      · split at he
        · rename_i ref own hused
          obtain ⟨href, hclient⟩ := taskAttempt_used hused
          split_ifs at he
          · exact emptySeriesEvents_idsStayOnInstance ((h ref href).lookup hclient) e he client ids
              request hcall
          · cases he
        · cases he
    · simp only [fallback] at he
      repeat' split at he
      all_goals simp_all

theorem idsStayOnInstance_iff (env : Environment) (db : Tables) (restrictToIds : List Nat) :
    (∀ outcomes approvedBy, IdsStayOnInstance env.services
      (deleteEpisodeCandidates env outcomes db restrictToIds approvedBy).events) ↔
      RefsStayOnInstance env db restrictToIds := by
  constructor
  · intro h task htask ref href
    refine refStaysOnInstance_of_client fun client hclient => ?_
    set outcomes := deletingOnly (fun _ _ => .error "") 0 0
    have hevent : sonarrEvent task.candidate client ref (.getEpisodes ref.arrSeriesId) false ∈
        refEvents env outcomes (taskAction db.effectiveSettings db task) task ref := by
      simp [refEvents, hclient, outcomes, deletingOnly]
    have htried : _ ∈ (taskAttempt env outcomes db.effectiveSettings db task).events :=
      tryRefs_visits ((mem_orderSeriesArrRefs ..).mpr href) (fun ref' _ hdel => by
        obtain ⟨_, _, _, _, -, hget, -⟩ := hdel
        cases hget) hevent
    exact h outcomes "system" _ (mem_events.mpr
      (Or.inl ⟨task, htask, List.mem_append_left _ htried⟩)) client (.ofRef ref) _ rfl
  · intro h outcomes approvedBy e he client ids request hcall
    rcases mem_events.mp he with ⟨task, htask, he⟩ | he
    · exact taskEvents_idsStayOnInstance (h task htask) e he client ids request hcall
    · refine refresh_idsStayOnInstance (fun entry hentry => ?_) e he client ids request hcall
      obtain ⟨task, htask, ref, href, hclient, hconfig⟩ := processTasks_refresh entry hentry
      exact ⟨ref, h task htask ref href, hclient, hconfig⟩

end Episode

/-! ## Both handlers -/

/-- In every run of the two handlers, every Sonarr call goes to the instance of its ids. -/
def ArrIdsStayOnInstance (env : Environment) (db : Tables) (restrictToIds : List Nat) : Prop :=
  (∀ outcomes approvedBy, IdsStayOnInstance env.services
    (deleteSeasonCandidates env outcomes db restrictToIds approvedBy).events) ∧
  (∀ outcomes approvedBy, IdsStayOnInstance env.services
    (deleteEpisodeCandidates env outcomes db restrictToIds approvedBy).events)

theorem arrIdsStayOnInstance_iff (env : Environment) (db : Tables) (restrictToIds : List Nat) :
    ArrIdsStayOnInstance env db restrictToIds ↔
      Season.RefsStayOnInstance env db restrictToIds ∧
        Episode.RefsStayOnInstance env db restrictToIds :=
  and_congr (Season.idsStayOnInstance_iff env db restrictToIds)
    (Episode.idsStayOnInstance_iff env db restrictToIds)

/-! ## A ref of an instance that is down -/

/-- The double episode's ref belongs to configuration 1; only configuration 2 is up. -/
def otherSonarr : Environment where
  services := { sonarrMain := some 2, sonarrClients := [(2, 2)] }
  caseTables := ⟨id, id⟩
  search _ _ := false
  now := 0

theorem otherSonarr_receivesIds :
    ¬ArrIdsStayOnInstance otherSonarr Episode.doubleEpisodeTables [1] := by
  intro h
  have hevent : (⟨Episode.doubleEpisodeTables.candidates,
      .sonarr 2 (.ofRef ⟨1, 1, 1, 10, none⟩) (.deleteEpisodeFile 7), true⟩ : Event) ∈
      (deleteEpisodeCandidates otherSonarr
        (Episode.deletingOnly (fun _ _ => .ok Episode.doubleEpisodeInventory) 1 1)
        Episode.doubleEpisodeTables [1] "system").events := by decide
  cases h.2 _ _ _ hevent 2 _ _ rfl

end MediaMasterr.Deletion
