import MediaMasterr.Candidates.Reconcile
import MediaMasterr.Foundations.Joins

/-! # Candidates mirror the matched media

After a sync the candidates of its scope are those of the records: every record has
one, with what the record says, and there are no others. A candidate whose medium is
matched again keeps its row, so that its age and its failed deletions are not
forgotten. -/

namespace MediaMasterr.Candidates

open MediaMasterr.Database MediaMasterr.Foundations

/-! ## What the scopes have in common -/

structure CandidateScope.Lawful (scope : CandidateScope) : Prop where
  inScope_congr : ∀ c c', c.target = c'.target → scope.inScope c = scope.inScope c'
  update_eq : ∀ target c,
    scope.update target c = { c with movieId := (scope.update target c).movieId }
  inScope_update : ∀ target c, scope.inScope (scope.update target c) = scope.inScope c
  key_update : ∀ target c, scope.key (scope.update target c).target = scope.key c.target
  key_columns : ∀ target columns, scope.columns target = some columns →
    scope.key columns = scope.key target ∧ (scope.key target).isSome
  inScope_columns : ∀ target c, scope.columns target = some c.target → scope.inScope c = true

theorem seriesScope_lawful : seriesScope.Lawful where
  inScope_congr c c' h := by
    obtain ⟨htype, -, -, -, hseason, hepisode⟩ := MediaTarget.mk.inj h
    simp [seriesScope, htype, hseason, hepisode]
  update_eq _ _ := rfl
  inScope_update _ _ := rfl
  key_update _ _ := rfl
  key_columns target columns h := by
    obtain ⟨id, hid, rfl⟩ := Option.map_eq_some_iff.mp h
    simp [seriesScope, hid]
  inScope_columns target c h := by
    obtain ⟨id, -, hc⟩ := Option.map_eq_some_iff.mp h
    obtain ⟨htype, -, -, -, hseason, hepisode⟩ := MediaTarget.mk.inj hc
    simp [seriesScope, isSeriesScope, ← htype, ← hseason, ← hepisode]

theorem movieVersionScope_lawful : movieVersionScope.Lawful where
  inScope_congr c c' h := by
    obtain ⟨htype, -⟩ := MediaTarget.mk.inj h
    simp [movieVersionScope, htype]
  update_eq _ _ := rfl
  inScope_update _ _ := rfl
  key_update _ _ := rfl
  key_columns target columns h := by
    obtain ⟨versionId, hversion, h⟩ := Option.bind_eq_some_iff.mp h
    obtain ⟨movieId, -, h⟩ := Option.bind_eq_some_iff.mp h
    obtain rfl := Option.some.inj h
    simp [movieVersionScope, hversion]
  inScope_columns target c h := by
    obtain ⟨versionId, -, h⟩ := Option.bind_eq_some_iff.mp h
    obtain ⟨movieId, -, h⟩ := Option.bind_eq_some_iff.mp h
    obtain ⟨htype, -⟩ := MediaTarget.mk.inj (Option.some.inj h)
    simp [movieVersionScope, ← htype]

theorem seasonScope_lawful : seasonScope.Lawful where
  inScope_congr c c' h := by
    obtain ⟨htype, -, -, -, hseason, hepisode⟩ := MediaTarget.mk.inj h
    simp [seasonScope, htype, hseason, hepisode]
  update_eq _ _ := rfl
  inScope_update _ _ := rfl
  key_update _ _ := rfl
  key_columns target columns h := by
    obtain ⟨seasonId, hseason, h⟩ := Option.bind_eq_some_iff.mp h
    obtain ⟨seriesId, -, h⟩ := Option.bind_eq_some_iff.mp h
    obtain rfl := Option.some.inj h
    simp [seasonScope, hseason]
  inScope_columns target c h := by
    obtain ⟨seasonId, -, h⟩ := Option.bind_eq_some_iff.mp h
    obtain ⟨seriesId, -, h⟩ := Option.bind_eq_some_iff.mp h
    obtain ⟨htype, -, -, -, hseason, hepisode⟩ := MediaTarget.mk.inj (Option.some.inj h)
    simp [seasonScope, isSeasonScope, ← htype, ← hseason, ← hepisode]

theorem episodeScope_lawful : episodeScope.Lawful where
  inScope_congr c c' h := by
    obtain ⟨htype, -, -, -, -, hepisode⟩ := MediaTarget.mk.inj h
    simp [episodeScope, htype, hepisode]
  update_eq _ _ := rfl
  inScope_update _ _ := rfl
  key_update _ _ := rfl
  key_columns target columns h := by
    obtain ⟨episodeId, hepisode, h⟩ := Option.bind_eq_some_iff.mp h
    obtain ⟨seriesId, -, h⟩ := Option.bind_eq_some_iff.mp h
    obtain rfl := Option.some.inj h
    simp [episodeScope, hepisode]
  inScope_columns target c h := by
    obtain ⟨episodeId, -, h⟩ := Option.bind_eq_some_iff.mp h
    obtain ⟨seriesId, -, h⟩ := Option.bind_eq_some_iff.mp h
    obtain ⟨htype, -, -, -, -, hepisode⟩ := MediaTarget.mk.inj (Option.some.inj h)
    simp [episodeScope, isEpisodeScope, ← htype, ← hepisode]

/-! ## What a mirror is -/

/-- The candidate is in the scope and names the medium that the scope is about. -/
def CandidateScope.holds (scope : CandidateScope) (c : ReclaimCandidate) : Bool :=
  scope.inScope c && (scope.key c.target).isSome

/-- The candidate of a record. -/
structure Matches (scope : CandidateScope) (record : MatchedCandidateRecord)
    (c : ReclaimCandidate) : Prop where
  inScope : scope.inScope c = true
  key : scope.key c.target = scope.key record.target
  matchedRuleIds : c.matchedRuleIds = record.matchedRuleIds
  matchedCriteria : c.matchedCriteria = record.matchedCriteria
  reason : c.reason = record.reason
  reasonData : c.reasonData = record.reasonData
  estimatedSpaceBytes : c.estimatedSpaceBytes = record.estimatedSpaceBytes

/-- The row of a candidate goes on. -/
structure Survives (c c' : ReclaimCandidate) : Prop where
  id : c'.id = c.id
  createdAt : c'.createdAt = c.createdAt
  deleteAttempts : c'.deleteAttempts = c.deleteAttempts
  lastDeleteAttemptAt : c'.lastDeleteAttemptAt = c.lastDeleteAttemptAt
  lastDeleteError : c'.lastDeleteError = c.lastDeleteError

/-- What a sync leaves of the candidates, of which it owns some, and what it reports. -/
structure Mirrors (scope : CandidateScope) (owned : ReclaimCandidate → Bool)
    (records : List MatchedCandidateRecord) (before after : List ReclaimCandidate)
    (counts : SyncCounts) : Prop where
  ids : (after.map ReclaimCandidate.id).Nodup
  oneEach : ∀ record ∈ records, ∃ c ∈ after, Matches scope record c ∧
    ∀ c' ∈ after, scope.inScope c' = true → scope.key c'.target = scope.key record.target → c' = c
  onlyMatched : ∀ c ∈ after, owned c = true →
    ∃ record ∈ records, scope.key c.target = scope.key record.target
  survivors : ∀ c ∈ before, owned c = true →
    (∃ record ∈ records, scope.key c.target = scope.key record.target) →
      ∃ c' ∈ after, scope.key c'.target = scope.key c.target ∧ Survives c c'
  others : ∀ c, owned c = false → (c ∈ after ↔ c ∈ before)
  counted : counts.created + counts.updated = records.length
  accounted : counts.updated + counts.removed = before.countP owned

/-- At most one candidate of the scope for a medium, and one record. -/
structure SyncInput (scope : CandidateScope) (records : List MatchedCandidateRecord)
    (db : Tables) : Prop where
  ids : (db.candidates.map ReclaimCandidate.id).Nodup
  onePerTarget : ∀ c ∈ db.candidates, ∀ c' ∈ db.candidates, scope.holds c = true →
    scope.holds c' = true → scope.key c.target = scope.key c'.target → c = c'
  targets : ∀ record ∈ records, (scope.columns record.target).isSome
  distinct : (records.map fun record => scope.key record.target).Nodup

section Sync

variable {scope : CandidateScope} {now : Nat} {records : List MatchedCandidateRecord} {db : Tables}
variable {c : ReclaimCandidate} {record : MatchedCandidateRecord} {key : Nat}

theorem candidateLookup_keys_nodup (h : SyncInput scope records db) :
    ((db.candidates.filter scope.inScope).filterMap fun c => scope.key c.target).Nodup := by
  refine List.pairwise_filterMap.mpr ?_
  refine (h.ids.of_map.filter scope.inScope).imp_of_mem fun {c c'} hc hc' hne => ?_
  intro k hk k' hk' heq
  obtain ⟨hc, hscope⟩ := List.mem_filter.mp hc
  obtain ⟨hc', hscope'⟩ := List.mem_filter.mp hc'
  refine hne (h.onePerTarget c hc c' hc' ?_ ?_ (by rw [hk, hk', heq]))
  · simp [CandidateScope.holds, hscope, hk]
  · simp [CandidateScope.holds, hscope', hk']

theorem candidateLookup_get? (h : SyncInput scope records db) :
    (candidateLookup scope db).get? key = some c ↔
      c ∈ db.candidates ∧ scope.inScope c = true ∧ scope.key c.target = some key := by
  constructor
  · intro hget
    obtain ⟨c', hc', hkey, rfl⟩ := Dict.of_get?_build hget
    obtain ⟨hmem, hscope⟩ := List.mem_filter.mp hc'
    exact ⟨hmem, hscope, hkey⟩
  · rintro ⟨hmem, hscope, hkey⟩
    exact Dict.get?_build_of_mem (candidateLookup_keys_nodup h)
      (List.mem_filter.mpr ⟨hmem, hscope⟩) hkey

/-- What an update leaves of a candidate. -/
def matchChange (scope : CandidateScope) (record : MatchedCandidateRecord) (c : ReclaimCandidate) :
    ReclaimCandidate :=
  { scope.update record.target c with
    matchedRuleIds := record.matchedRuleIds
    matchedCriteria := record.matchedCriteria
    reason := record.reason
    reasonData := record.reasonData
    estimatedSpaceBytes := record.estimatedSpaceBytes }

theorem recordWrite_some {columns : MediaTarget}
    (hcolumns : scope.columns record.target = some columns)
    (hkey : scope.key record.target = some key)
    (hget : (candidateLookup scope db).get? key = some c) :
    recordWrite scope now (candidateLookup scope db) record =
      some (.update c.id (matchChange scope record)) := by
  simp only [recordWrite, hcolumns, hkey, Option.bind_eq_bind, Option.bind_some, hget]
  rfl

theorem recordWrite_none {columns : MediaTarget}
    (hcolumns : scope.columns record.target = some columns)
    (hkey : scope.key record.target = some key)
    (hget : (candidateLookup scope db).get? key = none) :
    recordWrite scope now (candidateLookup scope db) record =
      some (.insert (newCandidate now columns record)) := by
  simp only [recordWrite, hcolumns, hkey, Option.bind_eq_bind, Option.bind_some, hget]
  rfl

/-- The medium of the record has a candidate. -/
def IsMatched (scope : CandidateScope) (db : Tables) (record : MatchedCandidateRecord)
    (c : ReclaimCandidate) : Prop :=
  c ∈ db.candidates ∧ scope.inScope c = true ∧ scope.key c.target = scope.key record.target

/-- What the record writes: it updates the candidate of its medium or makes one. -/
theorem recordWrite_cases (hscope : scope.Lawful) (h : SyncInput scope records db)
    (hrecord : record ∈ records) :
    (∃ c, IsMatched scope db record c ∧ recordWrite scope now (candidateLookup scope db) record =
      some (.update c.id (matchChange scope record))) ∨
    (∃ columns, scope.columns record.target = some columns ∧ (∀ c, ¬IsMatched scope db record c) ∧
      recordWrite scope now (candidateLookup scope db) record =
        some (.insert (newCandidate now columns record))) := by
  obtain ⟨columns, hcolumns⟩ := Option.isSome_iff_exists.mp (h.targets record hrecord)
  obtain ⟨key, hkey⟩ := Option.isSome_iff_exists.mp (hscope.key_columns _ _ hcolumns).2
  cases hget : (candidateLookup scope db).get? key with
  | some c =>
    refine .inl ⟨c, ?_, recordWrite_some hcolumns hkey hget⟩
    rw [IsMatched, hkey]
    exact (candidateLookup_get? h).mp hget
  | none =>
    refine .inr ⟨columns, hcolumns, fun c hc => ?_, recordWrite_none hcolumns hkey hget⟩
    rw [IsMatched, hkey] at hc
    rw [(candidateLookup_get? h).mpr hc] at hget
    cases hget

theorem IsMatched.holds (hscope : scope.Lawful) (h : SyncInput scope records db)
    (hrecord : record ∈ records) (hc : IsMatched scope db record c) : scope.holds c = true := by
  obtain ⟨columns, hcolumns⟩ := Option.isSome_iff_exists.mp (h.targets record hrecord)
  have hkey := (hscope.key_columns _ _ hcolumns).2
  simp [CandidateScope.holds, hc.2.1, hc.2.2, hkey]

theorem IsMatched.unique (hscope : scope.Lawful) (h : SyncInput scope records db)
    (hrecord : record ∈ records) {c c' : ReclaimCandidate} (hc : IsMatched scope db record c)
    (hc' : IsMatched scope db record c') : c = c' :=
  h.onePerTarget c hc.1 c' hc'.1 (hc.holds hscope h hrecord) (hc'.holds hscope h hrecord)
    (hc.2.2.trans hc'.2.2.symm)

theorem record_unique (h : SyncInput scope records db) {record record' : MatchedCandidateRecord}
    (hrecord : record ∈ records) (hrecord' : record' ∈ records)
    (hkey : scope.key record.target = scope.key record'.target) : record = record' :=
  List.inj_on_of_nodup_map h.distinct hrecord hrecord' hkey

/-! ## The old rows -/

theorem update_mem_iff (now : Nat) (hscope : scope.Lawful) (h : SyncInput scope records db) {id : Nat}
    {change : ReclaimCandidate → ReclaimCandidate} :
    .update id change ∈ recordWrites scope now records db ↔
      ∃ record ∈ records, ∃ c, IsMatched scope db record c ∧ c.id = id ∧
        change = matchChange scope record := by
  rw [recordWrites, List.mem_filterMap]
  constructor
  · rintro ⟨record, hrecord, hwrite⟩
    rcases recordWrite_cases hscope h hrecord with ⟨c, hc, heq⟩ | ⟨columns, -, -, heq⟩
    · obtain ⟨hid, hchange⟩ := Write.update.inj (Option.some.inj (heq.symm.trans hwrite))
      exact ⟨record, hrecord, c, hc, hid, hchange.symm⟩
    · cases heq.symm.trans hwrite
  · rintro ⟨record, hrecord, c, hc, rfl, rfl⟩
    refine ⟨record, hrecord, ?_⟩
    rcases recordWrite_cases hscope h hrecord with ⟨c', hc', heq⟩ | ⟨columns, -, hnone, -⟩
    · rw [heq, hc'.unique hscope h hrecord hc]
    · exact absurd hc (hnone c)

theorem lt_nextId_of_update (now : Nat) (hscope : scope.Lawful) (h : SyncInput scope records db)
    {id : Nat} {change : ReclaimCandidate → ReclaimCandidate}
    (hmem : .update id change ∈ recordWrites scope now records db) :
    id < Write.nextId ReclaimCandidate.id db.candidates := by
  obtain ⟨record, -, c, hc, rfl, -⟩ := (update_mem_iff now hscope h).mp hmem
  exact Write.lt_nextId hc.1

theorem insert_mem_iff (now : Nat) (hscope : scope.Lawful) (h : SyncInput scope records db)
    {make : Nat → ReclaimCandidate} :
    .insert make ∈ recordWrites scope now records db ↔
      ∃ record ∈ records, ∃ columns, scope.columns record.target = some columns ∧
        (∀ c, ¬IsMatched scope db record c) ∧ make = newCandidate now columns record := by
  rw [recordWrites, List.mem_filterMap]
  constructor
  · rintro ⟨record, hrecord, hwrite⟩
    rcases recordWrite_cases hscope h hrecord with ⟨c, hc, heq⟩ | ⟨columns, hcolumns, hnone, heq⟩
    · cases heq.symm.trans hwrite
    · exact ⟨record, hrecord, columns, hcolumns, hnone,
        (Write.insert.inj (Option.some.inj (heq.symm.trans hwrite))).symm⟩
  · rintro ⟨record, hrecord, columns, hcolumns, hnone, rfl⟩
    refine ⟨record, hrecord, ?_⟩
    rcases recordWrite_cases hscope h hrecord with ⟨c, hc, -⟩ | ⟨columns', hcolumns', -, heq⟩
    · exact absurd hc (hnone c)
    · rw [heq, Option.some.inj (hcolumns.symm.trans hcolumns')]

theorem keyed_recordWrites (now : Nat) (hscope : scope.Lawful) (h : SyncInput scope records db) :
    ∀ w ∈ recordWrites scope now records db, w.Keyed ReclaimCandidate.id := by
  intro w hw
  cases w with
  | update id change =>
    obtain ⟨record, -, c, -, -, rfl⟩ := (update_mem_iff now hscope h).mp hw
    intro row
    change (scope.update record.target row).id = row.id
    rw [hscope.update_eq]
  | insert make =>
    obtain ⟨record, -, columns, -, -, rfl⟩ := (insert_mem_iff now hscope h).mp hw
    exact fun _ => rfl

/-- A matched candidate takes over what its record says. -/
theorem changed_of_isMatched (hscope : scope.Lawful) (h : SyncInput scope records db)
    (hrecord : record ∈ records) (hc : IsMatched scope db record c) :
    Write.changed ReclaimCandidate.id (recordWrites scope now records db) c =
      matchChange scope record c := by
  have hmem := (update_mem_iff now hscope h).mpr ⟨record, hrecord, c, hc, rfl, rfl⟩
  have hdistinct : (recordWrites scope now records db).Pairwise fun w w' =>
      w.updates = some c.id → w'.updates ≠ some c.id := by
    refine List.pairwise_filterMap.mpr ?_
    refine (List.pairwise_map.mp h.distinct).imp_of_mem fun {r r'} hr hr' hne => ?_
    intro w hw w' hw' hid hid'
    have hmatched {r : MatchedCandidateRecord} {w : Write ReclaimCandidate} (hr : r ∈ records)
        (hw : recordWrite scope now (candidateLookup scope db) r = some w)
        (hid : w.updates = some c.id) : scope.key r.target = scope.key c.target := by
      rcases recordWrite_cases hscope h hr with ⟨c', hc', heq⟩ | ⟨columns, -, -, heq⟩
      · obtain rfl := Option.some.inj (heq.symm.trans hw)
        obtain rfl := List.inj_on_of_nodup_map h.ids hc'.1 hc.1 (Option.some.inj hid)
        exact hc'.2.2.symm
      · obtain rfl := Option.some.inj (heq.symm.trans hw)
        cases hid
    exact hne ((hmatched hr hw hid).trans (hmatched hr' hw' hid').symm)
  rw [Write.changed, Write.changesOf_eq_singleton hmem hdistinct]
  rfl

/-- The other candidates are left alone. -/
theorem changed_of_not_isMatched (hscope : scope.Lawful) (h : SyncInput scope records db)
    (hc : c ∈ db.candidates) (hnone : ∀ record ∈ records, ¬IsMatched scope db record c) :
    Write.changed ReclaimCandidate.id (recordWrites scope now records db) c = c := by
  have hchanges : Write.changesOf (recordWrites scope now records db) c.id = [] := by
    refine Write.changesOf_eq_nil fun change hmem => ?_
    obtain ⟨record, hrecord, c', hc', hid, -⟩ := (update_mem_iff now hscope h).mp hmem
    obtain rfl := List.inj_on_of_nodup_map h.ids hc'.1 hc hid
    exact hnone record hrecord hc'
  rw [Write.changed, hchanges]
  rfl

theorem mem_staleIds_iff (h : SyncInput scope records db) {id : Nat} :
    id ∈ staleIds scope records db ↔ ∃ c ∈ db.candidates, scope.holds c = true ∧ c.id = id ∧
      ∀ record ∈ records, scope.key record.target ≠ scope.key c.target := by
  simp only [staleIds, List.mem_map (f := fun e : Nat × ReclaimCandidate => e.2.id),
    List.mem_filter, decide_eq_true_eq, Prod.exists, ← Dict.get?_eq_some_iff,
    candidateLookup_get? h]
  constructor
  · rintro ⟨key, c, ⟨⟨hc, hscope, hkey⟩, hnone⟩, hid⟩
    refine ⟨c, hc, by simp [CandidateScope.holds, hscope, hkey], hid, fun record hrecord heq => ?_⟩
    exact hnone (List.mem_filterMap.mpr ⟨record, hrecord, heq.trans hkey⟩)
  · rintro ⟨c, hc, hholds, hid, hnone⟩
    simp only [CandidateScope.holds, Bool.and_eq_true] at hholds
    obtain ⟨key, hkey⟩ := Option.isSome_iff_exists.mp hholds.2
    refine ⟨key, c, ⟨⟨hc, hholds.1, hkey⟩, fun hmem => ?_⟩, hid⟩
    obtain ⟨record, hrecord, heq⟩ := List.mem_filterMap.mp hmem
    exact hnone record hrecord (heq.trans hkey.symm)

/-! ## The rows after a sync -/

@[simp] theorem newCandidate_target (columns : MediaTarget) (id : Nat) :
    (newCandidate now columns record id).target = columns := rfl

theorem matchChange_target :
    (matchChange scope record c).target = (scope.update record.target c).target := rfl

theorem key_matchChange (hscope : scope.Lawful) :
    scope.key (matchChange scope record c).target = scope.key c.target := by
  rw [matchChange_target, hscope.key_update]

theorem inScope_matchChange (hscope : scope.Lawful) :
    scope.inScope (matchChange scope record c) = scope.inScope c := by
  rw [hscope.inScope_congr _ (scope.update record.target c) matchChange_target,
    hscope.inScope_update]

theorem survives_matchChange (hscope : scope.Lawful) :
    Survives c (matchChange scope record c) := by
  have hupdate := hscope.update_eq record.target c
  constructor
  · exact (congrArg ReclaimCandidate.id hupdate :)
  · exact (congrArg ReclaimCandidate.createdAt hupdate :)
  · exact (congrArg ReclaimCandidate.deleteAttempts hupdate :)
  · exact (congrArg ReclaimCandidate.lastDeleteAttemptAt hupdate :)
  · exact (congrArg ReclaimCandidate.lastDeleteError hupdate :)

theorem matches_matchChange (hscope : scope.Lawful) (hc : IsMatched scope db record c) :
    Matches scope record (matchChange scope record c) where
  inScope := (inScope_matchChange hscope).trans hc.2.1
  key := (key_matchChange hscope).trans hc.2.2
  matchedRuleIds := rfl
  matchedCriteria := rfl
  reason := rfl
  reasonData := rfl
  estimatedSpaceBytes := rfl

theorem matches_newCandidate (hscope : scope.Lawful) {columns : MediaTarget} (id : Nat)
    (hcolumns : scope.columns record.target = some columns) :
    Matches scope record (newCandidate now columns record id) where
  inScope := hscope.inScope_columns record.target _ hcolumns
  key := (hscope.key_columns _ _ hcolumns).1
  matchedRuleIds := rfl
  matchedCriteria := rfl
  reason := rfl
  reasonData := rfl
  estimatedSpaceBytes := rfl

/-- Different records make candidates for different media. -/
theorem insertedKeys_nodup (hscope : scope.Lawful) (h : SyncInput scope records db) :
    ((Write.inserts (recordWrites scope now records db)).map
      fun make => scope.key (make 0).target).Nodup := by
  refine List.pairwise_map.mpr (List.pairwise_filterMap.mpr (List.pairwise_filterMap.mpr ?_))
  refine (List.pairwise_map.mp h.distinct).imp_of_mem fun {r r'} hr hr' hne => ?_
  intro w hw w' hw' make hmake make' hmake' heq
  have hkey {r : MatchedCandidateRecord} {w : Write ReclaimCandidate} {make : Nat → ReclaimCandidate}
      (hr : r ∈ records) (hw : recordWrite scope now (candidateLookup scope db) r = some w)
      (hmake : w.makeOf = some make) : scope.key (make 0).target = scope.key r.target := by
    rcases recordWrite_cases hscope h hr with ⟨c, -, hwrite⟩ | ⟨columns, hcolumns, -, hwrite⟩
    · obtain rfl := Option.some.inj (hwrite.symm.trans hw)
      cases hmake
    · obtain rfl := Option.some.inj (hwrite.symm.trans hw)
      obtain rfl := Option.some.inj hmake
      exact (hscope.key_columns _ _ hcolumns).1
  exact hne ((hkey hr hw hmake).symm.trans (heq.trans (hkey hr' hw' hmake')))

/-- An old row that is not stale is matched, or the sync does not own it. -/
theorem oldRow_cases (hscope : scope.Lawful) (h : SyncInput scope records db) {d : ReclaimCandidate}
    (hd : d ∈ db.candidates) (hstale : d.id ∉ staleIds scope records db) :
    let row := Write.changed ReclaimCandidate.id (recordWrites scope now records db) d
    (∃ record ∈ records, ∃ d', IsMatched scope db record d' ∧ row = matchChange scope record d') ∨
      row ∈ db.candidates ∧ scope.holds row = false := by
  by_cases hmatched : ∃ record ∈ records, IsMatched scope db record d
  · obtain ⟨record, hrecord, hd'⟩ := hmatched
    exact .inl ⟨record, hrecord, d, hd', changed_of_isMatched hscope h hrecord hd'⟩
  · have hnone : ∀ record ∈ records, ¬IsMatched scope db record d := by simpa using hmatched
    dsimp only
    rw [changed_of_not_isMatched hscope h hd hnone]
    refine .inr ⟨hd, Bool.eq_false_iff.mpr fun hholds => ?_⟩
    refine hstale ((mem_staleIds_iff h).mpr ⟨d, hd, hholds, rfl, fun record hrecord heq => ?_⟩)
    exact hnone record hrecord ⟨hd, (Bool.and_eq_true_iff.mp hholds).1, heq.symm⟩

/-- The rows that a sync leaves: the matched candidates with what their records say, the
candidates that it does not own, and the new ones. -/
theorem mem_syncCandidates_iff (now : Nat) (hscope : scope.Lawful) (h : SyncInput scope records db) :
    ∃ created : List ReclaimCandidate,
      (created.map fun c => scope.key c.target).Nodup ∧
      (∀ c, c ∈ created → ∃ record ∈ records, (∀ d, ¬IsMatched scope db record d) ∧
        Matches scope record c) ∧
      (∀ record ∈ records, (∀ d, ¬IsMatched scope db record d) →
        ∃ c ∈ created, Matches scope record c) ∧
      ∀ c, c ∈ (syncCandidates scope now records db).candidates ↔
        (∃ record ∈ records, ∃ d, IsMatched scope db record d ∧ c = matchChange scope record d) ∨
          (c ∈ db.candidates ∧ scope.holds c = false) ∨ c ∈ created := by
  obtain ⟨created, happly, hcreated⟩ := Write.applyAll_eq (keyed_recordWrites now hscope h)
    fun id change => lt_nextId_of_update now hscope h
  refine ⟨created, ?_, fun c hc => ?_, fun record hrecord hnone => ?_, fun c => ?_⟩
  · rw [hcreated.map_eq (g := fun make => scope.key (make 0).target) fun make hmake id => by
      obtain ⟨record, -, columns, -, -, rfl⟩ :=
        (insert_mem_iff now hscope h).mp (Write.mem_inserts.mp hmake)
      rfl]
    exact insertedKeys_nodup hscope h
  · obtain ⟨make, hmake, id, -, rfl⟩ := hcreated.exists_of_mem hc
    obtain ⟨record, hrecord, columns, hcolumns, hnone, rfl⟩ :=
      (insert_mem_iff now hscope h).mp (Write.mem_inserts.mp hmake)
    exact ⟨record, hrecord, hnone, matches_newCandidate hscope id hcolumns⟩
  · obtain ⟨columns, hcolumns⟩ := Option.isSome_iff_exists.mp (h.targets record hrecord)
    have hmake := Write.mem_inserts.mpr
      ((insert_mem_iff now hscope h).mpr ⟨record, hrecord, columns, hcolumns, hnone, rfl⟩)
    obtain ⟨id, -, hmem⟩ := hcreated.exists_of_make hmake
    exact ⟨_, hmem, matches_newCandidate hscope id hcolumns⟩
  · have hfresh : ∀ row ∈ created, row.id ∉ staleIds scope records db := by
      intro row hrow hstale
      obtain ⟨make, hmake, id, hid, rfl⟩ := hcreated.exists_of_mem hrow
      obtain ⟨record, -, columns, -, -, rfl⟩ :=
        (insert_mem_iff now hscope h).mp (Write.mem_inserts.mp hmake)
      obtain ⟨d, hd, -, heq, -⟩ := (mem_staleIds_iff h).mp hstale
      have hlt : d.id < Write.nextId ReclaimCandidate.id db.candidates := Write.lt_nextId hd
      rw [heq] at hlt
      exact absurd hlt (Nat.not_lt.mpr hid)
    rw [syncCandidates, happly, List.mem_filter, List.mem_append, decide_eq_true_eq]
    constructor
    · rintro ⟨hold | hnew, hstale⟩
      · obtain ⟨d, hd, rfl⟩ := List.mem_map.mp hold
        rw [Write.rowId_changed (keyed_recordWrites now hscope h)] at hstale
        exact (oldRow_cases hscope h hd hstale).imp_right .inl
      · exact .inr (.inr hnew)
    · rintro (⟨record, hrecord, d, hd, rfl⟩ | ⟨hc, hholds⟩ | hnew)
      · refine ⟨.inl (List.mem_map.mpr ⟨d, hd.1, changed_of_isMatched hscope h hrecord hd⟩), ?_⟩
        rw [(survives_matchChange hscope).id, mem_staleIds_iff h]
        rintro ⟨d', hd', -, hid, hnone⟩
        obtain rfl := List.inj_on_of_nodup_map h.ids hd' hd.1 hid
        exact hnone record hrecord hd.2.2.symm
      · have hunmatched : ∀ record ∈ records, ¬IsMatched scope db record c := by
          intro record hrecord hmatched
          exact Bool.false_ne_true (hholds.symm.trans (hmatched.holds hscope h hrecord))
        refine ⟨.inl (List.mem_map.mpr ⟨c, hc, changed_of_not_isMatched hscope h hc hunmatched⟩), ?_⟩
        rw [mem_staleIds_iff h]
        rintro ⟨d, hd, hholds', hid, -⟩
        obtain rfl := List.inj_on_of_nodup_map h.ids hd hc hid
        exact Bool.false_ne_true (hholds.symm.trans hholds')
      · exact ⟨.inr hnew, hfresh c hnew⟩

/-! ## The counts -/

theorem updates_recordWrite (now : Nat) (hscope : scope.Lawful) (h : SyncInput scope records db)
    (hrecord : record ∈ records) :
    ∃ w, recordWrite scope now (candidateLookup scope db) record = some w ∧
      (w.updates.isSome = true ↔ ∃ c, IsMatched scope db record c) := by
  rcases recordWrite_cases hscope h hrecord with ⟨c, hc, heq⟩ | ⟨columns, -, hnone, heq⟩
  · exact ⟨_, heq, iff_of_true rfl ⟨c, hc⟩⟩
  · exact ⟨_, heq, iff_of_false (by simp [Write.updates]) fun ⟨c, hc⟩ => hnone c hc⟩

/-- Every record writes once. -/
theorem recordWrites_length (now : Nat) (hscope : scope.Lawful) (h : SyncInput scope records db) :
    (recordWrites scope now records db).length = records.length := by
  rw [recordWrites, List.length_filterMap_eq_countP, List.countP_eq_length]
  intro record hrecord
  obtain ⟨w, hw, -⟩ := updates_recordWrite now hscope h hrecord
  rw [hw]
  rfl

theorem created_add_updated (hscope : scope.Lawful) (h : SyncInput scope records db) :
    (syncCounts scope now records db).created + (syncCounts scope now records db).updated =
      records.length := by
  have hpartition := List.length_eq_countP_add_countP
    (fun w : Write ReclaimCandidate => w.updates.isNone) (l := recordWrites scope now records db)
  rw [← recordWrites_length now hscope h, hpartition]
  congr 1
  refine List.countP_congr fun w _ => ?_
  cases w.updates <;> simp

/-- The media of the candidates that the sync owns. -/
def ownedKeys (scope : CandidateScope) (db : Tables) : List Nat :=
  (db.candidates.filter scope.inScope).filterMap fun c => scope.key c.target

/-- The media of the records. -/
def recordKeys (scope : CandidateScope) (records : List MatchedCandidateRecord) : List Nat :=
  records.filterMap fun record => scope.key record.target

theorem ownedKeys_length : (ownedKeys scope db).length = db.candidates.countP scope.holds := by
  rw [ownedKeys, List.length_filterMap_eq_countP, List.countP_filter]
  refine List.countP_congr fun c _ => ?_
  rw [CandidateScope.holds, Bool.and_comm]

theorem mem_ownedKeys : key ∈ ownedKeys scope db ↔
    ∃ c ∈ db.candidates, scope.inScope c = true ∧ scope.key c.target = some key := by
  simp [ownedKeys, and_assoc]

theorem recordKeys_nodup (h : SyncInput scope records db) : (recordKeys scope records).Nodup := by
  refine List.pairwise_filterMap.mpr ((List.pairwise_map.mp h.distinct).imp fun hne => ?_)
  intro k hk k' hk' heq
  exact hne (by rw [hk, hk', heq])

theorem updated_eq_countP (hscope : scope.Lawful) (h : SyncInput scope records db) :
    (syncCounts scope now records db).updated =
      (recordKeys scope records).countP (· ∈ ownedKeys scope db) := by
  have hupdated : (syncCounts scope now records db).updated =
      (recordWrites scope now records db).countP (·.updates.isSome) := rfl
  rw [hupdated, recordWrites, recordKeys, List.countP_filterMap, List.countP_filterMap]
  refine List.countP_congr fun record hrecord => ?_
  obtain ⟨columns, hcolumns⟩ := Option.isSome_iff_exists.mp (h.targets record hrecord)
  obtain ⟨key, hkey⟩ := Option.isSome_iff_exists.mp (hscope.key_columns _ _ hcolumns).2
  obtain ⟨w, hw, hupdates⟩ := updates_recordWrite now hscope h hrecord
  simp [hw, hkey, hupdates, mem_ownedKeys, IsMatched]

theorem removed_eq_countP (h : SyncInput scope records db) :
    (syncCounts scope now records db).removed =
      (ownedKeys scope db).countP (· ∉ recordKeys scope records) := by
  have hkeys : (candidateLookup scope db).keys = ownedKeys scope db :=
    Dict.keys_build (candidateLookup_keys_nodup h)
  have hremoved : (syncCounts scope now records db).removed =
      (staleIds scope records db).length := rfl
  rw [hremoved, staleIds, List.length_map, ← List.countP_eq_length_filter, ← hkeys, Dict.keys,
    List.countP_map]
  rfl

theorem updated_add_removed (hscope : scope.Lawful) (h : SyncInput scope records db) :
    (syncCounts scope now records db).updated + (syncCounts scope now records db).removed =
      db.candidates.countP scope.holds := by
  have hpartition := List.length_eq_countP_add_countP
    (fun key => decide (key ∈ recordKeys scope records)) (l := ownedKeys scope db)
  have howned : (ownedKeys scope db).Nodup := candidateLookup_keys_nodup h
  rw [updated_eq_countP hscope h, removed_eq_countP h, countP_mem_comm (recordKeys_nodup h) howned,
    ← ownedKeys_length, hpartition]
  simp

/-! ## The mirror -/

theorem recordKey_isSome (hscope : scope.Lawful) (h : SyncInput scope records db)
    (hrecord : record ∈ records) : (scope.key record.target).isSome = true := by
  obtain ⟨columns, hcolumns⟩ := Option.isSome_iff_exists.mp (h.targets record hrecord)
  exact (hscope.key_columns _ _ hcolumns).2

theorem holds_matchChange (hscope : scope.Lawful) :
    scope.holds (matchChange scope record c) = scope.holds c := by
  rw [CandidateScope.holds, inScope_matchChange hscope, key_matchChange hscope,
    ← CandidateScope.holds]

theorem Matches.holds (hscope : scope.Lawful) (h : SyncInput scope records db)
    (hrecord : record ∈ records) (hc : Matches scope record c) : scope.holds c = true := by
  rw [CandidateScope.holds, hc.inScope, hc.key, recordKey_isSome hscope h hrecord]
  rfl

theorem syncCandidates_mirrors (now : Nat) (hscope : scope.Lawful) (h : SyncInput scope records db) :
    Mirrors scope scope.holds records db.candidates
      (syncCandidates scope now records db).candidates (syncCounts scope now records db) := by
  obtain ⟨created, hkeys, hcreated, hmade, hmem⟩ := mem_syncCandidates_iff now hscope h
  -- a candidate of the medium of a record is the updated or the new one
  have hcases : ∀ record ∈ records, ∀ c ∈ (syncCandidates scope now records db).candidates,
      scope.inScope c = true → scope.key c.target = scope.key record.target →
      (∃ d, IsMatched scope db record d ∧ c = matchChange scope record d) ∨
        (c ∈ created ∧ ∀ d, ¬IsMatched scope db record d) := by
    intro record hrecord c hc hin hkey
    rcases (hmem c).mp hc with ⟨record', hrecord', d, hd, rfl⟩ | ⟨-, hholds⟩ | hnew
    · rw [key_matchChange hscope, hd.2.2] at hkey
      obtain rfl := record_unique h hrecord' hrecord hkey
      exact .inl ⟨d, hd, rfl⟩
    · rw [CandidateScope.holds, hin, hkey, recordKey_isSome hscope h hrecord] at hholds
      cases hholds
    · obtain ⟨record', hrecord', hnone, hmatches⟩ := hcreated c hnew
      obtain rfl := record_unique h hrecord' hrecord (hmatches.key.symm.trans hkey)
      exact .inr ⟨hnew, hnone⟩
  constructor
  case ids =>
    refine syncCandidates_nodup (fun target c => ?_) records h.ids
    rw [hscope.update_eq]
  case oneEach =>
    intro record hrecord
    obtain ⟨c, hc, hmatches⟩ : ∃ c ∈ (syncCandidates scope now records db).candidates,
        Matches scope record c := by
      by_cases hmatched : ∃ d, IsMatched scope db record d
      · obtain ⟨d, hd⟩ := hmatched
        exact ⟨_, (hmem _).mpr (.inl ⟨record, hrecord, d, hd, rfl⟩), matches_matchChange hscope hd⟩
      · obtain ⟨c, hnew, hmatches⟩ := hmade record hrecord (not_exists.mp hmatched)
        exact ⟨c, (hmem c).mpr (.inr (.inr hnew)), hmatches⟩
    refine ⟨c, hc, hmatches, fun c' hc' hin hkey => ?_⟩
    rcases hcases record hrecord c hc hmatches.inScope hmatches.key with ⟨d, hd, rfl⟩ | ⟨hnew, hnone⟩
    · rcases hcases record hrecord c' hc' hin hkey with ⟨d', hd', rfl⟩ | ⟨-, hnone'⟩
      · rw [hd'.unique hscope h hrecord hd]
      · exact absurd hd (hnone' d)
    · rcases hcases record hrecord c' hc' hin hkey with ⟨d', hd', rfl⟩ | ⟨hnew', -⟩
      · exact absurd hd' (hnone d')
      · exact List.inj_on_of_nodup_map hkeys hnew' hnew (hkey.trans hmatches.key.symm)
  case onlyMatched =>
    intro c hc hholds
    rcases (hmem c).mp hc with ⟨record, hrecord, d, hd, rfl⟩ | ⟨-, hnot⟩ | hnew
    · exact ⟨record, hrecord, (key_matchChange hscope).trans hd.2.2⟩
    · exact absurd (hholds.symm.trans hnot) (by decide)
    · obtain ⟨record, hrecord, -, hmatches⟩ := hcreated c hnew
      exact ⟨record, hrecord, hmatches.key⟩
  case survivors =>
    rintro c hc hholds ⟨record, hrecord, hkey⟩
    have hd : IsMatched scope db record c := ⟨hc, (Bool.and_eq_true_iff.mp hholds).1, hkey⟩
    exact ⟨_, (hmem _).mpr (.inl ⟨record, hrecord, c, hd, rfl⟩), key_matchChange hscope,
      survives_matchChange hscope⟩
  case others =>
    intro c hholds
    rw [hmem]
    constructor
    · rintro (⟨record, hrecord, d, hd, rfl⟩ | ⟨hc, -⟩ | hnew)
      · rw [holds_matchChange hscope, hd.holds hscope h hrecord] at hholds
        cases hholds
      · exact hc
      · obtain ⟨record, hrecord, -, hmatches⟩ := hcreated c hnew
        rw [hmatches.holds hscope h hrecord] at hholds
        cases hholds
    · exact fun hc => .inr (.inl ⟨hc, hholds⟩)
  case counted => exact created_add_updated hscope h
  case accounted => exact updated_add_removed hscope h

end Sync

section Movies

variable {now : Nat} {records : List MatchedCandidateRecord} {db : Tables} {c : ReclaimCandidate}

/-- The candidate of a whole movie, from before there were candidates of versions. -/
def isLegacyMovie (c : ReclaimCandidate) : Bool := c.mediaType = .movie && c.movieVersionId.isNone

theorem mem_syncMovieVersionCandidates :
    c ∈ (syncMovieVersionCandidates now records db).candidates ↔
      c ∈ (syncCandidates movieVersionScope now records db).candidates ∧
        isLegacyMovie c = false := by
  rw [syncMovieVersionCandidates, List.mem_filter, Bool.not_eq_true', ← isLegacyMovie]

theorem movieVersionScope_holds (c : ReclaimCandidate) :
    movieVersionScope.holds c = (movieVersionScope.inScope c && !isLegacyMovie c) := by
  cases hversion : c.movieVersionId <;>
    simp [CandidateScope.holds, movieVersionScope, isLegacyMovie, ReclaimCandidate.target, hversion]

theorem isLegacyMovie_eq_false_of_key (h : (movieVersionScope.key c.target).isSome = true) :
    isLegacyMovie c = false := by
  have hversion : c.movieVersionId.isSome = true := h
  simp [isLegacyMovie, hversion]

/-- The movie sync owns all candidates of movies, and removes those without a version. -/
theorem syncMovieVersionCandidates_mirrors (h : SyncInput movieVersionScope records db) :
    Mirrors movieVersionScope movieVersionScope.inScope records db.candidates
      (syncMovieVersionCandidates now records db).candidates
      (syncMovieVersionCounts now records db) := by
  have hsync := syncCandidates_mirrors now movieVersionScope_lawful h
  constructor
  case ids => exact hsync.ids.sublist (List.filter_sublist.map _)
  case oneEach =>
    intro record hrecord
    obtain ⟨c, hc, hmatches, honly⟩ := hsync.oneEach record hrecord
    have hkey := recordKey_isSome movieVersionScope_lawful h hrecord
    rw [← hmatches.key] at hkey
    refine ⟨c, mem_syncMovieVersionCandidates.mpr ⟨hc, isLegacyMovie_eq_false_of_key hkey⟩,
      hmatches, fun c' hc' => honly c' (mem_syncMovieVersionCandidates.mp hc').1⟩
  case onlyMatched =>
    intro c hc hin
    obtain ⟨hc, hversion⟩ := mem_syncMovieVersionCandidates.mp hc
    refine hsync.onlyMatched c hc ?_
    rw [movieVersionScope_holds, hin, hversion]
    rfl
  case survivors =>
    rintro c hc hin ⟨record, hrecord, hkey⟩
    have hsome : (movieVersionScope.key c.target).isSome = true :=
      hkey ▸ recordKey_isSome movieVersionScope_lawful h hrecord
    have hholds : movieVersionScope.holds c = true := by
      rw [CandidateScope.holds, hin, hsome]
      rfl
    obtain ⟨c', hc', hkey', hsurvives⟩ := hsync.survivors c hc hholds ⟨record, hrecord, hkey⟩
    rw [← hkey'] at hsome
    exact ⟨c', mem_syncMovieVersionCandidates.mpr ⟨hc', isLegacyMovie_eq_false_of_key hsome⟩,
      hkey', hsurvives⟩
  case others =>
    intro c hout
    have hholds : movieVersionScope.holds c = false := by simp [CandidateScope.holds, hout]
    have hversion : isLegacyMovie c = false := by
      have htype : ¬c.mediaType = .movie := of_decide_eq_false hout
      simp [isLegacyMovie, htype]
    rw [mem_syncMovieVersionCandidates, hsync.others c hholds]
    exact and_iff_left hversion
  case counted => exact hsync.counted
  case accounted =>
    have hlegacy : db.candidates.countP (fun c => decide (c.mediaType = .movie ∧
        c.movieVersionId.isNone = true)) =
          (db.candidates.filter movieVersionScope.inScope).countP isLegacyMovie := by
      rw [List.countP_filter]
      refine List.countP_congr fun c _ => ?_
      simp only [isLegacyMovie, movieVersionScope, decide_eq_true_eq, Bool.and_eq_true]
      tauto
    have hholds : db.candidates.countP movieVersionScope.holds =
        (db.candidates.filter movieVersionScope.inScope).countP fun c => !isLegacyMovie c := by
      rw [List.countP_filter]
      refine List.countP_congr fun c _ => ?_
      rw [movieVersionScope_holds, Bool.and_comm]
    have hpartition := List.length_eq_countP_add_countP isLegacyMovie
      (l := db.candidates.filter movieVersionScope.inScope)
    have hsum := hsync.accounted
    rw [hholds] at hsum
    simp only [Bool.not_eq_true, Bool.decide_eq_false] at hpartition
    rw [List.countP_eq_length_filter, hpartition, syncMovieVersionCounts]
    dsimp only
    rw [hlegacy]
    omega

end Movies

/-- Every sync of the candidates mirrors its records and leaves the candidates of the other scopes
alone; that of the movies also owns the candidates of whole movies. -/
theorem sync_mirrors (now : Nat) (db : Tables) :
    (∀ records, SyncInput movieVersionScope records db →
      Mirrors movieVersionScope movieVersionScope.inScope records db.candidates
        (syncMovieVersionCandidates now records db).candidates
        (syncMovieVersionCounts now records db)) ∧
    (∀ records, SyncInput seriesScope records db →
      Mirrors seriesScope seriesScope.holds records db.candidates
        (syncSeriesCandidates now records db).candidates (syncCounts seriesScope now records db)) ∧
    (∀ records, SyncInput seasonScope records db →
      Mirrors seasonScope seasonScope.holds records db.candidates
        (syncSeasonCandidates now records db).candidates (syncCounts seasonScope now records db)) ∧
    (∀ records, SyncInput episodeScope records db →
      Mirrors episodeScope episodeScope.holds records db.candidates
        (syncEpisodeCandidates now records db).candidates
        (syncCounts episodeScope now records db)) :=
  ⟨fun _ => syncMovieVersionCandidates_mirrors,
    fun _ => syncCandidates_mirrors now seriesScope_lawful,
    fun _ => syncCandidates_mirrors now seasonScope_lawful,
    fun _ => syncCandidates_mirrors now episodeScope_lawful⟩

/-- A candidate of a version and one of its whole movie, which failed to be deleted. -/
def mixedCandidates : Tables :=
  { candidates :=
      [{ id := 1, mediaType := .movie, movieId := some 3, movieVersionId := some 5,
         deleteAttempts := 2, createdAt := 4 },
       { id := 2, mediaType := .movie, movieId := some 3 },
       { id := 3, mediaType := .series, seriesId := some 3, createdAt := 4 }] }

def versionRecords : List MatchedCandidateRecord :=
  [{ target := { mediaType := .movie, movieId := some 3, movieVersionId := some 5 }
     matchedRuleIds := [1], estimatedSpaceBytes := some 700 },
   { target := { mediaType := .movie, movieId := some 3, movieVersionId := some 6 }
     matchedRuleIds := [1] }]

theorem sync_mirrors_mixed :
    Mirrors movieVersionScope movieVersionScope.inScope versionRecords mixedCandidates.candidates
        (syncMovieVersionCandidates 9 versionRecords mixedCandidates).candidates ⟨1, 1, 1⟩ ∧
      Mirrors seriesScope seriesScope.holds [] mixedCandidates.candidates
        (syncSeriesCandidates 9 [] mixedCandidates).candidates ⟨0, 0, 1⟩ := by
  have hmovies : SyncInput movieVersionScope versionRecords mixedCandidates := by
    constructor <;> decide
  have hseries : SyncInput seriesScope [] mixedCandidates := by
    constructor <;> decide
  have h := sync_mirrors 9 mixedCandidates
  exact ⟨h.1 _ hmovies, h.2.1 _ hseries⟩

end MediaMasterr.Candidates
