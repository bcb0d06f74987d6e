import MediaMasterr.Candidates.NamedRows
import MediaMasterr.Candidates.ProtectedScans

/-! # Kept scopes

A candidate keeps its scope in every run in which no event deletes the version that
a remaining candidate names. Three events can: a sync that prunes a stale version, the
first transaction of a resync, and a deletion that leaves a candidate of a handled movie
behind. -/

namespace MediaMasterr.Candidates

open MediaMasterr.Database MediaMasterr.Foundations MediaMasterr.Deletion MediaMasterr.Sync

/-! ## What is collected -/

section Collected

variable {inputs : ScanInputs} {db : Tables} {record : MatchedCandidateRecord}

/-- The version or the episode of a record is in the library. -/
structure RecordPlaced (db : Tables) (target : MediaTarget) : Prop where
  versions : ∀ id ∈ target.movieVersionId,
    target.mediaType = .movie ∧ id ∈ db.movieVersions.map MovieVersion.id
  episodes : ∀ id ∈ target.episodeId,
    target.mediaType = .series ∧ ∃ e ∈ db.episodes, e.id = id ∧ target.seasonId = some e.seasonId

/-- A record has all columns of its scope, and its media are in the library. -/
theorem columns_of_mem_collect (scope : RuleScope) (h : record ∈ scope.collect inputs db) :
    scope.candidateScope.columns record.target = some record.target ∧
      RecordPlaced db record.target := by
  cases scope with
  | movieVersion =>
    obtain ⟨v, hv, -, -, htarget⟩ := of_mem_collectMovieVersions h
    rw [htarget]
    refine ⟨rfl, ⟨fun id hid => ⟨rfl, ?_⟩, fun id hid => (by cases hid)⟩⟩
    obtain rfl := Option.some.inj hid
    exact List.mem_map_of_mem hv
  | series =>
    obtain ⟨item, -, htarget⟩ := of_mem_collectSeries h
    rw [htarget]
    exact ⟨rfl, ⟨fun id hid => (by cases hid), fun id hid => (by cases hid)⟩⟩
  | season =>
    obtain ⟨series, season, -, htarget⟩ :=
      (target_mem_collectSeasons_iff record.target).mp ⟨record, h, rfl⟩
    rw [htarget]
    exact ⟨rfl, ⟨fun id hid => (by cases hid), fun id hid => (by cases hid)⟩⟩
  | episode =>
    obtain ⟨s, -, e, he, hseason, -, -, -, htarget⟩ := of_mem_collectEpisodes h
    rw [htarget]
    refine ⟨rfl, ⟨fun id hid => (by cases hid), fun id hid => ⟨rfl, e, he, ?_, ?_⟩⟩⟩
    · exact Option.some.inj hid
    · exact congrArg some hseason.symm

theorem movieVersions_distinct (inputs : ScanInputs) (hkeys : PrimaryKeys db) :
    ((RuleScope.movieVersion.collect inputs db).map (·.target.movieVersionId)).Nodup := by
  obtain ⟨hmovies, hversions, -⟩ := hkeys
  simp only [RuleScope.collect, collectMovieVersionCandidateRecords, if_true]
  refine nodup_map_flatMap Movie.id (fun movie (v : MovieVersion) => v.movieId = movie.id)
    (hmovies.sublist (List.filter_sublist.map _)) hversions
    (fun movie _ movie' _ v _ h h' => h.symm.trans h') (fun movie _ => ?_) fun movie _ c hc => ?_
  · split_ifs
    · exact List.nodup_nil
    · exact List.nodup_nil
    · refine nodup_map_filterMap (hversions.sublist (List.filter_sublist.map _)) fun v c hc => ?_
      split_ifs at hc
      rw [(matchedRecord_eq_some hc).1]
  · split_ifs at hc
    · exact absurd hc List.not_mem_nil
    · exact absurd hc List.not_mem_nil
    · obtain ⟨v, hv, hrecord⟩ := List.mem_filterMap.mp hc
      obtain ⟨hv, hmovie⟩ := List.mem_filter.mp hv
      split_ifs at hrecord
      exact ⟨v, hv, of_decide_eq_true hmovie, by rw [(matchedRecord_eq_some hrecord).1]⟩

theorem series_distinct (inputs : ScanInputs) (hkeys : PrimaryKeys db) :
    ((RuleScope.series.collect inputs db).map (·.target.seriesId)).Nodup := by
  obtain ⟨-, -, hseries, -⟩ := hkeys
  simp only [RuleScope.collect, collectSeriesCandidateRecords, if_true]
  refine nodup_map_filterMap (hseries.sublist (List.filter_sublist.map _)) fun item c hc => ?_
  split_ifs at hc
  rw [(matchedRecord_eq_some hc).1]

theorem seasons_distinct (inputs : ScanInputs) (hkeys : PrimaryKeys db) :
    ((RuleScope.season.collect inputs db).map (·.target.seasonId)).Nodup := by
  obtain ⟨-, -, hseries, hseasons, -⟩ := hkeys
  simp only [RuleScope.collect, collectSeasonCandidateRecords, if_true]
  refine nodup_map_flatMap Series.id (fun series (season : Season) => season.seriesId = series.id)
    (hseries.sublist (List.filter_sublist.map _)) hseasons
    (fun series _ series' _ season _ h h' => h.symm.trans h') (fun series _ => ?_)
    fun series _ c hc => ?_
  · split_ifs
    · exact List.nodup_nil
    · exact List.nodup_nil
    · refine nodup_map_filterMap (hseasons.sublist (List.filter_sublist.map _)) fun season c hc => ?_
      split_ifs at hc
      rw [(matchedRecord_eq_some hc).1]
  · split_ifs at hc
    · exact absurd hc List.not_mem_nil
    · exact absurd hc List.not_mem_nil
    · obtain ⟨season, hseason, hrecord⟩ := List.mem_filterMap.mp hc
      obtain ⟨hseason, hseries⟩ := List.mem_filter.mp hseason
      split_ifs at hrecord
      exact ⟨season, hseason, of_decide_eq_true hseries, by rw [(matchedRecord_eq_some hrecord).1]⟩

theorem episodes_distinct (inputs : ScanInputs) (hkeys : PrimaryKeys db) :
    ((RuleScope.episode.collect inputs db).map (·.target.episodeId)).Nodup := by
  obtain ⟨-, -, hseries, hseasons, hepisodes, -⟩ := hkeys
  simp only [RuleScope.collect, collectEpisodeCandidateRecords, if_true]
  refine nodup_map_flatMap Series.id
    (fun series e => ∃ season ∈ db.seasons, season.id = e.seasonId ∧ season.seriesId = series.id)
    (hseries.sublist (List.filter_sublist.map _)) hepisodes ?_ (fun series _ => ?_)
    fun series _ c hc => ?_
  · rintro series - series' - e - ⟨season, hseason, hid, hown⟩ ⟨season', hseason', hid', hown'⟩
    obtain rfl := List.inj_on_of_nodup_map hseasons hseason hseason' (hid.trans hid'.symm)
    exact hown.symm.trans hown'
  · split_ifs
    · exact List.nodup_nil
    · exact List.nodup_nil
    · refine nodup_map_flatMap Season.id (fun season (e : Episode) => e.seasonId = season.id)
        (hseasons.sublist (List.filter_sublist.map _)) hepisodes
        (fun season _ season' _ e _ h h' => h.symm.trans h') (fun season _ => ?_)
        fun season _ c hc => ?_
      · split_ifs
        · exact List.nodup_nil
        · refine nodup_map_filterMap (hepisodes.sublist (List.filter_sublist.map _)) fun e c hc => ?_
          split_ifs at hc
          rw [(matchedRecord_eq_some hc).1]
      · split_ifs at hc
        · exact absurd hc List.not_mem_nil
        · obtain ⟨e, he, hrecord⟩ := List.mem_filterMap.mp hc
          obtain ⟨he, hseason⟩ := List.mem_filter.mp he
          split_ifs at hrecord
          exact ⟨e, he, of_decide_eq_true hseason, by rw [(matchedRecord_eq_some hrecord).1]⟩
  · split_ifs at hc
    · exact absurd hc List.not_mem_nil
    · exact absurd hc List.not_mem_nil
    · obtain ⟨season, hseason, hc⟩ := List.mem_flatMap.mp hc
      obtain ⟨hseason, hown⟩ := List.mem_filter.mp hseason
      split_ifs at hc
      · exact absurd hc List.not_mem_nil
      · obtain ⟨e, he, hrecord⟩ := List.mem_filterMap.mp hc
        obtain ⟨he, hid⟩ := List.mem_filter.mp he
        split_ifs at hrecord
        exact ⟨e, he, ⟨season, hseason, (of_decide_eq_true hid).symm, of_decide_eq_true hown⟩,
          by rw [(matchedRecord_eq_some hrecord).1]⟩

/-- No two records of a scope are for the same medium. -/
theorem records_distinct (scope : RuleScope) (inputs : ScanInputs) (hkeys : PrimaryKeys db) :
    ((scope.collect inputs db).map fun record =>
      scope.candidateScope.key record.target).Nodup := by
  cases scope with
  | movieVersion => exact movieVersions_distinct inputs hkeys
  | series => exact series_distinct inputs hkeys
  | season => exact seasons_distinct inputs hkeys
  | episode => exact episodes_distinct inputs hkeys

/-- The records of a scope and the candidates of a state are ones that a sync can work with. -/
theorem syncInput_collect (scope : RuleScope) (inputs : ScanInputs) (hkeys : PrimaryKeys db)
    (hplaced : Placed db) : SyncInput scope.candidateScope (scope.collect inputs db) db where
  ids := hkeys.2.2.2.2.2
  onePerTarget := hplaced.once scope
  targets _ hrecord := Option.isSome_iff_exists.mpr ⟨_, (columns_of_mem_collect scope hrecord).1⟩
  distinct := records_distinct scope inputs hkeys

end Collected

/-! ## What a scan does to the rows -/

/-- The columns that tell the scope of a candidate. -/
def scopeColumns (c : ReclaimCandidate) : MediaTarget := { c.target with movieId := none }

/-- The candidate was there before, with the same scope. -/
def IsOld (db : Tables) (c' : ReclaimCandidate) : Prop :=
  ∃ c ∈ db.candidates, c.id = c'.id ∧ scopeColumns c = scopeColumns c'

theorem RuleScope.lawful (scope : RuleScope) : scope.candidateScope.Lawful := by
  cases scope with
  | movieVersion => exact movieVersionScope_lawful
  | series => exact seriesScope_lawful
  | season => exact seasonScope_lawful
  | episode => exact episodeScope_lawful

/-- No candidate is in two scopes. -/
theorem RuleScope.eq_of_holds {scope scope' : RuleScope} {c : ReclaimCandidate}
    (h : scope.candidateScope.holds c = true) (h' : scope'.candidateScope.holds c = true) :
    scope = scope' := by
  cases scope <;> cases scope' <;>
    simp_all [RuleScope.candidateScope, CandidateScope.holds, movieVersionScope, seriesScope,
      seasonScope, episodeScope, isSeriesScope, isSeasonScope, isEpisodeScope]

section Rows

variable {scope : CandidateScope} {now : Nat} {records : List MatchedCandidateRecord} {db : Tables}
  {c' : ReclaimCandidate}

theorem scopeColumns_changed (hscope : scope.Lawful) (h : SyncInput scope records db)
    (c : ReclaimCandidate) : scopeColumns
      (Write.changed ReclaimCandidate.id (recordWrites scope now records db) c) =
        scopeColumns c := by
  refine Write.changed_keeps scopeColumns (fun id change hmem row => ?_) c
  obtain ⟨record, -, -, -, -, rfl⟩ := (update_mem_iff now hscope h).mp hmem
  have hupdate : scopeColumns (scope.update record.target row) = scopeColumns row := by
    rw [hscope.update_eq]
    rfl
  exact hupdate

/-- A row of a sync has kept its scope, or it is new and has the columns of its record. -/
theorem rows_syncCandidates (hscope : scope.Lawful) (h : SyncInput scope records db)
    (hc' : c' ∈ (syncCandidates scope now records db).candidates) :
    IsOld db c' ∨ c'.id ∉ db.candidates.map ReclaimCandidate.id ∧
      ∃ record ∈ records, scope.columns record.target = some c'.target := by
  have hkeyed := keyed_recordWrites now hscope h
  obtain ⟨created, happly, hcreated⟩ :=
    Write.applyAll_eq hkeyed fun id change => lt_nextId_of_update now hscope h
  rw [syncCandidates, happly] at hc'
  rcases List.mem_append.mp (List.mem_filter.mp hc').1 with hold | hnew
  · obtain ⟨c, hc, rfl⟩ := List.mem_map.mp hold
    exact .inl ⟨c, hc, (Write.rowId_changed hkeyed c).symm, (scopeColumns_changed hscope h c).symm⟩
  · obtain ⟨make, hmake, id, hid, rfl⟩ := hcreated.exists_of_mem hnew
    obtain ⟨record, hrecord, columns, hcolumns, -, rfl⟩ :=
      (insert_mem_iff now hscope h).mp (Write.mem_inserts.mp hmake)
    refine .inr ⟨fun hmem => ?_, record, hrecord, hcolumns⟩
    obtain ⟨c, hc, heq⟩ := List.mem_map.mp hmem
    have hlt : c.id < Write.nextId ReclaimCandidate.id db.candidates := Write.lt_nextId hc
    rw [heq] at hlt
    exact absurd hlt (Nat.not_lt.mpr hid)

end Rows

section Scans

variable {inputs : ScanInputs} {db db' : Tables}

theorem scanScope_library (scope : RuleScope) (inputs : ScanInputs) (db : Tables) :
    (scope.scan inputs db).movieVersions = db.movieVersions ∧
      (scope.scan inputs db).seasons = db.seasons ∧
      (scope.scan inputs db).episodes = db.episodes := by
  rw [RuleScope.scan]
  split_ifs
  · exact ⟨rfl, rfl, rfl⟩
  · cases scope <;> exact ⟨rfl, rfl, rfl⟩

/-- The candidates of the movie sync are among those that the loop and the pruning of stale
candidates leave. -/
theorem sync_subset (scope : RuleScope) (now : Nat) (records : List MatchedCandidateRecord)
    (db : Tables) : (scope.sync now records db).candidates ⊆
      (syncCandidates scope.candidateScope now records db).candidates := by
  cases scope with
  | movieVersion => exact fun c hc => (List.mem_filter.mp hc).1
  | series | season | episode => exact List.Subset.refl _

theorem Placed.of_subset (h : Placed db) (hcandidates : db'.candidates ⊆ db.candidates)
    (hversions : db'.movieVersions = db.movieVersions) (hepisodes : db'.episodes = db.episodes) :
    Placed db' where
  versions c hc id hid := hversions ▸ h.versions c (hcandidates hc) id hid
  episodes c hc id hid := hepisodes ▸ h.episodes c (hcandidates hc) id hid
  once scope c hc c' hc' := h.once scope c (hcandidates hc) c' (hcandidates hc')

/-- The candidates of a scan: old ones, with their scopes, and new ones for media of the library. -/
theorem rows_collected (scope : RuleScope) (hkeys : PrimaryKeys db) (hplaced : Placed db)
    {c' : ReclaimCandidate} (hc' : c' ∈ (syncCandidates scope.candidateScope inputs.now
      (scope.collect inputs db) db).candidates) :
    IsOld db c' ∨ c'.id ∉ db.candidates.map ReclaimCandidate.id ∧ RecordPlaced db c'.target := by
  have hinput := syncInput_collect scope inputs hkeys hplaced
  refine (rows_syncCandidates scope.lawful hinput hc').imp_right ?_
  rintro ⟨hnew, record, hrecord, hcolumns⟩
  refine ⟨hnew, ?_⟩
  obtain ⟨hown, hrecordPlaced⟩ := columns_of_mem_collect scope hrecord
  exact Option.some.inj (hown.symm.trans hcolumns) ▸ hrecordPlaced

theorem placed_sync (scope : RuleScope) (inputs : ScanInputs) (hkeys : PrimaryKeys db)
    (hplaced : Placed db) :
    Placed (syncCandidates scope.candidateScope inputs.now (scope.collect inputs db) db) := by
  have hmirrors := syncCandidates_mirrors inputs.now scope.lawful
    (syncInput_collect scope inputs hkeys hplaced)
  constructor
  case versions =>
    intro c' hc' id hid
    rcases rows_collected scope hkeys hplaced hc' with ⟨c, hc, -, hscope⟩ | ⟨-, hnew⟩
    · have hmedia : c.mediaType = c'.mediaType := congrArg MediaTarget.mediaType hscope
      have hversion : c.movieVersionId = c'.movieVersionId :=
        congrArg MediaTarget.movieVersionId hscope
      rw [← hmedia]
      exact hplaced.versions c hc id (hversion ▸ hid)
    · exact hnew.versions id hid
  case episodes =>
    intro c' hc' id hid
    rcases rows_collected scope hkeys hplaced hc' with ⟨c, hc, -, hscope⟩ | ⟨-, hnew⟩
    · have hmedia : c.mediaType = c'.mediaType := congrArg MediaTarget.mediaType hscope
      have hseason : c.seasonId = c'.seasonId := congrArg MediaTarget.seasonId hscope
      have hepisode : c.episodeId = c'.episodeId := congrArg MediaTarget.episodeId hscope
      rw [← hmedia, ← hseason]
      exact hplaced.episodes c hc id (hepisode ▸ hid)
    · exact hnew.episodes id hid
  case once =>
    intro scope' c hc c' hc' hholds hholds' heq
    by_cases hscope : scope' = scope
    · subst hscope
      obtain ⟨record, hrecord, hkey⟩ := hmirrors.onlyMatched c hc hholds
      obtain ⟨row, -, -, honly⟩ := hmirrors.oneEach record hrecord
      rw [honly c hc (Bool.and_eq_true_iff.mp hholds).1 hkey,
        honly c' hc' (Bool.and_eq_true_iff.mp hholds').1 (heq.symm.trans hkey)]
    -- the candidates of the other scopes are the old rows
    · have hother : ∀ c ∈ (syncCandidates scope.candidateScope inputs.now
          (scope.collect inputs db) db).candidates, scope'.candidateScope.holds c = true →
          c ∈ db.candidates := by
        intro c hc hholds
        refine (hmirrors.others c (Bool.eq_false_iff.mpr fun hown => hscope ?_)).mp hc
        exact RuleScope.eq_of_holds hholds hown
      exact hplaced.once scope' c (hother c hc hholds) c' (hother c' hc' hholds') hholds hholds' heq

theorem placed_scan (scope : RuleScope) (inputs : ScanInputs) (hkeys : PrimaryKeys db)
    (hplaced : Placed db) : Placed (scope.scan inputs db) := by
  obtain ⟨hversions, -, hepisodes⟩ := scanScope_library scope inputs db
  by_cases hrules : inputs.rules.isEmpty
  · refine hplaced.of_subset (fun c hc => ?_) hversions hepisodes
    rw [RuleScope.scan, if_pos hrules] at hc
    exact (List.mem_filter.mp hc).1
  · refine (placed_sync scope inputs hkeys hplaced).of_subset (fun c hc => ?_)
      hversions hepisodes
    rw [RuleScope.scan, if_neg hrules] at hc
    exact sync_subset scope _ _ _ hc

theorem rows_scan (scope : RuleScope) (inputs : ScanInputs) (hkeys : PrimaryKeys db)
    (hplaced : Placed db) {c' : ReclaimCandidate} (hc' : c' ∈ (scope.scan inputs db).candidates) :
    IsOld db c' ∨ c'.id ∉ db.candidates.map ReclaimCandidate.id := by
  by_cases hrules : inputs.rules.isEmpty
  · rw [RuleScope.scan, if_pos hrules] at hc'
    exact .inl ⟨c', (List.mem_filter.mp hc').1, rfl, rfl⟩
  · rw [RuleScope.scan, if_neg hrules] at hc'
    exact (rows_collected scope hkeys hplaced (sync_subset scope _ _ _ hc')).imp_right And.left

end Scans

/-! ## The foreign keys -/

section ForeignKeys

variable {db db' : Tables}

theorem keepReference_eq_self {α : Type*} {rowId : α → Nat} {before after : List α}
    {ref : Option Nat} (h : ∀ id ∈ ref, id ∈ after.map rowId) :
    keepReference rowId before after ref = ref := by
  cases ref with
  | none => rfl
  | some id =>
    have hkept : ¬Requests.IsRemoved rowId before after id := fun hremoved => hremoved.2 (h id rfl)
    simp [keepReference, hkept]

theorem mem_episodes_enforceKeys {e : Episode} : e ∈ (enforceKeys db db').episodes ↔
    e ∈ db'.episodes ∧ ¬Requests.IsRemoved Season.id db.seasons db'.seasons e.seasonId := by
  simp [enforceKeys, Requests.deleteActions]

/-- When the rows that the candidates name are there, the foreign keys leave the candidates as
they are. -/
theorem enforceKeys_of_placed (hplaced : Placed db') (hseasons : ∀ c ∈ db'.candidates,
    ∀ id ∈ c.seasonId, ¬Requests.IsRemoved Season.id db.seasons db'.seasons id) :
    (enforceKeys db db').candidates = db'.candidates ∧ Placed (enforceKeys db db') := by
  have hepisodes : ∀ c ∈ db'.candidates, ∀ id ∈ c.episodeId,
      ∃ e ∈ (enforceKeys db db').episodes, e.id = id ∧ c.seasonId = some e.seasonId := by
    intro c hc id hid
    obtain ⟨-, e, he, heid, hseason⟩ := hplaced.episodes c hc id hid
    exact ⟨e, mem_episodes_enforceKeys.mpr ⟨he, hseasons c hc e.seasonId hseason⟩, heid, hseason⟩
  have hcandidates : (enforceKeys db db').candidates = db'.candidates := by
    refine (List.map_congr_left fun c hc => ?_).trans (List.map_id _)
    have hversion : keepReference MovieVersion.id db.movieVersions db'.movieVersions
        c.movieVersionId = c.movieVersionId :=
      keepReference_eq_self fun id hid => (hplaced.versions c hc id hid).2
    have hepisode : keepReference Episode.id db.episodes (enforceKeys db db').episodes
        c.episodeId = c.episodeId := by
      refine keepReference_eq_self fun id hid => ?_
      obtain ⟨e, he, heid, -⟩ := hepisodes c hc id hid
      exact List.mem_map.mpr ⟨e, he, heid⟩
    exact congrArg₂ (fun versionId episodeId => { c with movieVersionId := versionId, episodeId })
      hversion hepisode
  refine ⟨hcandidates, ?_, ?_, ?_⟩
  · exact fun c hc => hplaced.versions c (hcandidates ▸ hc)
  · intro c hc id hid
    have hc' : c ∈ db'.candidates := hcandidates ▸ hc
    exact ⟨(hplaced.episodes c hc' id hid).1, hepisodes c hc' id hid⟩
  · exact fun scope c hc c' hc' => hplaced.once scope c (hcandidates ▸ hc) c' (hcandidates ▸ hc')

/-- The rows that the remaining candidates name have stayed. -/
theorem placed_of_keepsNamed (hplaced : Placed db) (h : KeepsNamed db db')
    (hids : (db'.candidates.map ReclaimCandidate.id).Nodup) : Placed db' where
  versions c' hc' id hid := by
    obtain ⟨c, hc, -, htarget⟩ := h.candidates c' hc'
    have hmedia : c.mediaType = c'.mediaType := congrArg MediaTarget.mediaType htarget
    have hversion : c.movieVersionId = c'.movieVersionId :=
      congrArg MediaTarget.movieVersionId htarget
    obtain ⟨hmovie, hrow⟩ := hplaced.versions c hc id (hversion ▸ hid)
    exact ⟨hmedia ▸ hmovie, h.versions c' hc' id hid hrow⟩
  episodes c' hc' id hid := by
    obtain ⟨c, hc, -, htarget⟩ := h.candidates c' hc'
    have hmedia : c.mediaType = c'.mediaType := congrArg MediaTarget.mediaType htarget
    have hseason : c.seasonId = c'.seasonId := congrArg MediaTarget.seasonId htarget
    have hepisode : c.episodeId = c'.episodeId := congrArg MediaTarget.episodeId htarget
    obtain ⟨hseries, e, he, heid, hin⟩ := hplaced.episodes c hc id (hepisode ▸ hid)
    obtain ⟨e', he', heid', hsame⟩ := h.episodes c' hc' id hid e he heid
    exact ⟨hmedia ▸ hseries, e', he', heid', by rw [← hseason, hin, hsame]⟩
  once scope c₁ hc₁ c₂ hc₂ hholds₁ hholds₂ hkey := by
    have hold : ∀ c' ∈ db'.candidates, scope.candidateScope.holds c' = true →
        ∃ c ∈ db.candidates, c.id = c'.id ∧ c.target = c'.target ∧
          scope.candidateScope.holds c = true := by
      intro c' hc' hholds
      obtain ⟨c, hc, hid, htarget⟩ := h.candidates c' hc'
      refine ⟨c, hc, hid, htarget, ?_⟩
      rw [CandidateScope.holds, scope.lawful.inScope_congr c c' htarget, htarget]
      exact hholds
    obtain ⟨d₁, hd₁, hid₁, htarget₁, hin₁⟩ := hold c₁ hc₁ hholds₁
    obtain ⟨d₂, hd₂, hid₂, htarget₂, hin₂⟩ := hold c₂ hc₂ hholds₂
    rw [← htarget₁, ← htarget₂] at hkey
    obtain rfl := hplaced.once scope d₁ hd₁ d₂ hd₂ hin₁ hin₂ hkey
    exact List.inj_on_of_nodup_map hids hc₁ hc₂ (hid₁.symm.trans hid₂)

end ForeignKeys

/-! ## Runs -/

section Steps

variable {s s' : ScopeRun} {db' : Tables} {event : ScopeEvent}

theorem PrimaryKeys.candidates {db : Tables} (h : PrimaryKeys db) :
    (db.candidates.map ReclaimCandidate.id).Nodup := h.2.2.2.2.2

theorem step_eq_some (h : s.step event = some s') : ∃ db', event.run s.db = some db' ∧
    PrimaryKeys (enforceKeys s.db db') ∧ s' = s.advance (enforceKeys s.db db') := by
  obtain ⟨db'', hstored, rfl⟩ := Option.map_eq_some_iff.mp h
  obtain ⟨db', hrun, hkeys⟩ := Option.bind_eq_some_iff.mp hstored
  rw [stored] at hkeys
  split_ifs at hkeys with hprimary
  obtain rfl := Option.some.inj hkeys
  exact ⟨db', hrun, hprimary, rfl⟩

/-- Apart from the scans, the events keep the rows that the remaining candidates name. -/
theorem keepsNamed_event (hplaced : Placed s.db) (hspares : s.Spares event)
    (hscan : ∀ scope inputs, event ≠ .scan scope inputs) (hrun : event.run s.db = some db') :
    KeepsNamed s.db db' := by
  cases event with
  | scan scope inputs => exact absurd rfl (hscan scope inputs)
  | syncMovie world rows item =>
    obtain rfl := Option.some.inj hrun
    exact keepsNamed_syncMovie world hspares
  | softDeleteMovies world ids =>
    obtain rfl := Option.some.inj hrun
    exact keepsNamed_softDeleteMovies world s.db ids
  | syncOneSeries world maps item =>
    obtain ⟨state, hstate, rfl⟩ := Option.map_eq_some_iff.mp hrun
    exact keepsNamed_syncOneSeries hstate
  | supplementalPass seriesId entries =>
    obtain rfl := Option.some.inj hrun
    exact keepsNamed_supplementalPass s.db seriesId entries
  | softDeleteSeries world ids =>
    obtain rfl := Option.some.inj hrun
    exact keepsNamed_softDeleteSeries world s.db ids
  | clearVersions =>
    obtain rfl := Option.some.inj hrun
    exact keepsNamed_clearVersions hspares
  | delete handler env outcomes restrictToIds approvedBy =>
    obtain rfl := Option.some.inj hrun
    cases handler with
    | movie => exact keepsNamed_movie env outcomes.movie restrictToIds approvedBy hplaced hspares
    | series => exact keepsNamed_series env outcomes.series s.db restrictToIds approvedBy
    | season => exact keepsNamed_season env outcomes.season s.db restrictToIds approvedBy
    | episode => exact keepsNamed_episode env outcomes.episode restrictToIds approvedBy hplaced
  | markFailures now ids error =>
    obtain rfl := Option.some.inj hrun
    exact keepsNamed_of_marks (Tables.marks_markUnexplainedDeleteFailures _ _ _)
  | move env outcomes candidateIds approvedBy =>
    obtain rfl := Option.some.inj hrun
    exact keepsNamed_move env outcomes s.db candidateIds approvedBy
  | other write =>
    obtain rfl := Option.some.inj hrun
    exact keepsNamed_other write s.db

/-- The candidates behind an event: old ones, with their scopes, and new ones; the rows that they
name are there. -/
theorem rows_event (hkeys : PrimaryKeys s.db) (hplaced : Placed s.db) (hspares : s.Spares event)
    (hrun : event.run s.db = some db') (hids : (db'.candidates.map ReclaimCandidate.id).Nodup) :
    Placed db' ∧
      (∀ c ∈ db'.candidates, IsOld s.db c ∨ c.id ∉ s.db.candidates.map ReclaimCandidate.id) ∧
      ∀ c ∈ db'.candidates, ∀ id ∈ c.seasonId,
        ¬Requests.IsRemoved Season.id s.db.seasons db'.seasons id := by
  by_cases hscan : ∃ scope inputs, event = .scan scope inputs
  · obtain ⟨scope, inputs, rfl⟩ := hscan
    obtain rfl := Option.some.inj hrun
    refine ⟨placed_scan scope inputs hkeys hplaced,
      fun c hc => rows_scan scope inputs hkeys hplaced hc, fun c _ id _ hremoved => ?_⟩
    rw [(scanScope_library scope inputs s.db).2.1] at hremoved
    exact hremoved.2 hremoved.1
  · push Not at hscan
    have hkept := keepsNamed_event hplaced hspares hscan hrun
    refine ⟨placed_of_keepsNamed hplaced hkept hids, fun c hc => .inl ?_,
      fun c hc id hid hremoved => hremoved.2 (hkept.seasons c hc id hid hremoved.1)⟩
    obtain ⟨c₀, hc₀, hid, htarget⟩ := hkept.candidates c hc
    exact ⟨c₀, hc₀, hid, congrArg (fun target => { target with movieId := none }) htarget⟩

theorem keepsScopes_advance (hs : s.KeepsScopes) (hids : (db'.candidates.map
    ReclaimCandidate.id).Nodup) (hrows : ∀ c ∈ db'.candidates,
      IsOld s.db c ∨ c.id ∉ s.db.candidates.map ReclaimCandidate.id) :
    (s.advance db').KeepsScopes := by
  intro c hc
  dsimp only [ScopeRun.advance] at hc ⊢
  rcases hrows c hc with ⟨c₀, hc₀, hid, hscope⟩ | hnew
  · have hversion : c₀.movieVersionId = c.movieVersionId :=
      congrArg MediaTarget.movieVersionId hscope
    have hepisode : c₀.episodeId = c.episodeId := congrArg MediaTarget.episodeId hscope
    rw [if_pos (List.mem_map.mpr ⟨c₀, hc₀, hid⟩), ← hid, ← hversion, ← hepisode]
    exact hs c₀ hc₀
  -- a new candidate names the media that it is created for
  · rw [if_neg hnew]
    obtain ⟨c', hfind⟩ : ∃ c', db'.candidates.find? (·.id == c.id) = some c' :=
      Option.isSome_iff_exists.mp (List.find?_isSome.mpr ⟨c, hc, beq_self_eq_true c.id⟩)
    have hid : c'.id = c.id :=
      eq_of_beq (List.find?_some (p := fun row : ReclaimCandidate => row.id == c.id) hfind)
    obtain rfl := List.inj_on_of_nodup_map hids (List.mem_of_find?_eq_some hfind) hc hid
    exact ⟨c'.target, by rw [hfind]; rfl, rfl, rfl⟩

/-- What holds in every state of a run that spares what is named. -/
structure InScope (s : ScopeRun) : Prop where
  keys : PrimaryKeys s.db
  placed : Placed s.db
  kept : s.KeepsScopes

theorem inScope_start {tables : Tables} (h : PrimaryKeys tables) : InScope (.start tables) where
  keys := ⟨h.1, h.2.1, h.2.2.1, h.2.2.2.1, h.2.2.2.2.1, List.nodup_nil⟩
  placed := ⟨fun _ hc => absurd hc List.not_mem_nil, fun _ hc => absurd hc List.not_mem_nil,
    fun _ _ hc => absurd hc List.not_mem_nil⟩
  kept _ hc := absurd hc List.not_mem_nil

theorem inScope_step (hs : InScope s) (hspares : s.Spares event) (h : s.step event = some s') :
    InScope s' := by
  obtain ⟨db', hrun, hkeys, rfl⟩ := step_eq_some h
  have hids : (db'.candidates.map ReclaimCandidate.id).Nodup := by
    have hmap : (enforceKeys s.db db').candidates.map ReclaimCandidate.id =
        db'.candidates.map ReclaimCandidate.id := by
      rw [enforceKeys]
      exact List.map_map
    exact hmap ▸ hkeys.candidates
  obtain ⟨hplaced, hrows, hseasons⟩ := rows_event hs.keys hs.placed hspares hrun hids
  obtain ⟨hcandidates, hplaced'⟩ := enforceKeys_of_placed hplaced hseasons
  exact ⟨hkeys, hplaced', keepsScopes_advance hs.kept hkeys.candidates (hcandidates ▸ hrows)⟩

end Steps

/-- In a run in which no event deletes the version that a remaining candidate names, every
candidate keeps the version and the episode that it was created for. -/
theorem keepsScopes_run {tables : Tables} {events : List ScopeEvent} {s : ScopeRun}
    (hkeys : PrimaryKeys tables)
    (hspares : Runs.Meets ScopeRun.step ScopeRun.Spares (.start tables) events)
    (hrun : Runs.run ScopeRun.step (.start tables) events = some s) : s.KeepsScopes :=
  (Runs.invariant_of_meets (fun _ _ _ hs hspares h => inScope_step hs hspares h) hspares hrun
    (inScope_start hkeys)).kept

/-! ## Two runs -/

/-- A movie with two versions. -/
def twoVersionMovie : Tables where
  movies := [{ id := 1, tmdbId := 100, title := "Film" }]
  movieVersions :=
    [{ id := 1, movieId := 1, service := .plex, serviceItemId := "1", serviceMediaId := "11"
       size := 1000 },
     { id := 2, movieId := 1, service := .plex, serviceItemId := "1", serviceMediaId := "12"
       size := 500 }]

def versionRule : ReclaimRule where
  id := 1
  mediaType := .movie
  targetScope := some "movie_version"

/-- A scan in which every version matches. -/
def versionScan : ScopeEvent :=
  .scan .movieVersion
    { tables := ⟨id, id⟩, evaluate := fun _ _ => some ⟨∅, []⟩, texts := plainTexts, now := 0
      rules := [versionRule] }

/-- A sync of the movie with the versions that the server has. -/
def versionSync (mediaIds : List String) : ScopeEvent :=
  .syncMovie { now := 5 } twoVersionMovie.movies
    { externalIds := { tmdb := 100 }
      versions := mediaIds.map fun mediaId =>
        { service := .plex, serviceItemId := "1", serviceMediaId := mediaId } }

/-- The second version is gone from the server: its candidate becomes one of the movie. -/
theorem not_keepsScopes_prunedVersion : ∃ s, PrimaryKeys twoVersionMovie ∧
    Runs.run ScopeRun.step (.start twoVersionMovie) [versionScan, versionSync ["11"]] = some s ∧
      ¬s.KeepsScopes := by
  have hrun : ((Runs.run ScopeRun.step (.start twoVersionMovie)
      [versionScan, versionSync ["11"]]).any fun s =>
        s.db.candidates.any (fun c => c.id == 2 && c.movieVersionId.isNone) &&
          (s.created 2 == some
            { mediaType := .movie, movieId := some 1, movieVersionId := some 2 })) = true := by
    decide +kernel
  obtain ⟨s, hs, hwidened⟩ := (Option.any_eq_true _ _).mp hrun
  refine ⟨s, by decide, hs, fun hkept => ?_⟩
  obtain ⟨hcandidate, hcreated⟩ := (Bool.and_eq_true _ _).mp hwidened
  obtain ⟨c, hc, hnone⟩ := List.any_eq_true.mp hcandidate
  obtain ⟨hid, hnone⟩ := (Bool.and_eq_true _ _).mp hnone
  obtain ⟨target, htarget, hversion, -⟩ := hkept c hc
  rw [eq_of_beq hid, eq_of_beq hcreated] at htarget
  obtain rfl := Option.some.inj htarget
  rw [Option.isNone_iff_eq_none.mp hnone] at hversion
  cases hversion

/-- The server still has both versions. -/
theorem keepsScopes_run_sameVersions : ∃ s,
    Runs.run ScopeRun.step (.start twoVersionMovie) [versionScan, versionSync ["11", "12"]] =
      some s ∧ s.KeepsScopes := by
  have hsome : (Runs.run ScopeRun.step (.start twoVersionMovie)
      [versionScan, versionSync ["11", "12"]]).isSome = true := by decide +kernel
  obtain ⟨s, hs⟩ := Option.isSome_iff_exists.mp hsome
  have hmeets : Runs.Meets ScopeRun.step ScopeRun.Spares (.start twoVersionMovie)
      [versionScan, versionSync ["11", "12"]] := by
    refine ⟨trivial, fun s₁ hs₁ => ⟨?_, fun _ _ => trivial⟩⟩
    have hlocate : locateMovie twoVersionMovie.movies { tmdb := 100 } = some 1 := by decide
    have hstale : (ScopeRun.step (.start twoVersionMovie) versionScan).map
        (fun s => staleVersions s.db 1
          [{ service := .plex, serviceItemId := "1", serviceMediaId := "11" },
           { service := .plex, serviceItemId := "1", serviceMediaId := "12" }]) = some [] := by
      decide +kernel
    rw [hs₁] at hstale
    intro id hid c hc versionId hversion
    obtain rfl := Option.some.inj (hlocate.symm.trans hid)
    have hnone : staleVersions s₁.db 1
        [{ service := .plex, serviceItemId := "1", serviceMediaId := "11" },
         { service := .plex, serviceItemId := "1", serviceMediaId := "12" }] = [] :=
      Option.some.inj hstale
    exact hnone ▸ List.not_mem_nil
  exact ⟨s, hs, keepsScopes_run (by decide) hmeets hs⟩

end MediaMasterr.Candidates
