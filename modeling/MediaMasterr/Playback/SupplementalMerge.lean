import MediaMasterr.Playback.SupplementalCounts

/-! # Supplemental play counts and maxima

Both supplemental syncs mean to take, for every row, the maximum of what is stored and of the
counts of all items that are linked to the row. Where several links of one select raise the
same row to different values, the last of them wins, so the maximum can be lost, and which
value is left depends on the order of the rows. The Playback Reporting sync also drops the
counts of all episodes when no parent of an episode is found. -/

namespace MediaMasterr.Playback

open MediaMasterr.Database MediaMasterr.Foundations MediaMasterr.Foundations.StaleMerges

/-- The values that come in for rows, of the links that have one. -/
def incoming (entry : String → Option Plays) (links : List (String × Nat)) : List (Nat × Plays) :=
  links.filterMap fun link => (entry link.1).map (link.2, ·)

/-- The values that come in through both selects. -/
def linkedPlays (entry : String → Option Plays) (links : LinkRows) : List (Nat × Plays) :=
  incoming entry links.direct ++ incoming entry links.mapped

/-- No row of a loop lowers a value. -/
def NoRowLowers (loop : List (String × Nat) → (Nat → Plays) → Nat → Plays)
    (links : List (String × Nat)) (read : Nat → Plays) : Prop :=
  ∀ pre link post, links = pre ++ link :: post → loop pre read ≤ loop (pre ++ [link]) read

/-- In every order of the rows of its selects a sync leaves the stored values and all linked ones
merged by maximum, lowers nothing on its way, and changes nothing when it runs again. -/
def MergesByMaximum (sync : (Level → LinkRows) → PlayColumns → PlayColumns)
    (loop : Level → List (String × Nat) → (Nat → Plays) → Nat → Plays)
    (entry : Level → String → Option Plays) (links : Level → LinkRows) (columns : PlayColumns) :
    Prop :=
  ∀ links' : Level → LinkRows, (∀ level, (links' level).Reorders (links level)) →
    (∀ level, sync links' columns level =
      joined (linkedPlays (entry level) (links level)) (columns level)) ∧
    (∀ level, NoRowLowers (loop level) (links' level).direct (columns level) ∧
      NoRowLowers (loop level) (links' level).mapped
        (loop level (links' level).direct (columns level))) ∧
    sync links' (sync links' columns) = sync links' columns

/-- The links of a select that would change the same row all lead to the same values. -/
def LinksAgree (entry : String → Option Plays) (links : LinkRows) (read : Nat → Plays) : Prop :=
  Agree (incoming entry links.direct) read ∧
    Agree (incoming entry links.mapped) (joined (incoming entry links.direct) read)

/-! ## One level -/

section Level

variable {entry : String → Option Plays} {links links' : LinkRows} {read : Nat → Plays}
  {loop : List (String × Nat) → (Nat → Plays) → Nat → Plays}

/-- What is asked of a level, in one order of its rows. -/
def LevelMerges (loop : List (String × Nat) → (Nat → Plays) → Nat → Plays)
    (entry : String → Option Plays) (links links' : LinkRows) (read : Nat → Plays) : Prop :=
  loop links'.mapped (loop links'.direct read) = joined (linkedPlays entry links) read ∧
    (NoRowLowers loop links'.direct read ∧
      NoRowLowers loop links'.mapped (loop links'.direct read)) ∧
    loop links'.mapped (loop links'.direct (loop links'.mapped (loop links'.direct read))) =
      loop links'.mapped (loop links'.direct read)

theorem joined_linkedPlays (h : links'.Reorders links) :
    joined (linkedPlays entry links') read = joined (linkedPlays entry links) read :=
  joined_perm ((h.1.filterMap _).append (h.2.filterMap _))

theorem levelMerges_iff_merges
    (hloop : ∀ links read, loop links read = mergeRows (incoming entry links) read)
    (h : links'.Reorders links) : LevelMerges loop entry links links' read ↔
      Merges (incoming entry links'.direct) (incoming entry links'.mapped) read := by
  unfold LevelMerges Merges NoRowLowers
  simp only [hloop, incoming, rising_filterMap_iff, ← joined_linkedPlays h]
  rw [linkedPlays, incoming, incoming]
  tauto

/-- A level whose loops run merges in every order exactly when its links agree. -/
theorem forall_levelMerges_iff
    (hloop : ∀ links read, loop links read = mergeRows (incoming entry links) read) :
    (∀ links', links'.Reorders links → LevelMerges loop entry links links' read) ↔
      LinksAgree entry links read := by
  rw [LinksAgree, ← merges_iff]
  constructor
  · intro h direct' mapped' hdirect hmapped
    obtain ⟨direct, hperm, rfl⟩ := exists_perm_filterMap hdirect
    obtain ⟨mapped, hperm', rfl⟩ := exists_perm_filterMap hmapped
    have hreorders : LinkRows.Reorders ⟨direct, mapped⟩ links := ⟨hperm, hperm'⟩
    exact (levelMerges_iff_merges hloop hreorders).mp (h _ hreorders)
  · intro h links' hreorders
    exact (levelMerges_iff_merges hloop hreorders).mpr
      (h _ _ (hreorders.1.filterMap _) (hreorders.2.filterMap _))

/-- A level whose loops do not run merges when nothing that is linked is new. -/
theorem levelMerges_iff_of_skipped (hloop : ∀ links read, loop links read = read) :
    LevelMerges loop entry links links' read ↔
      ∀ row ∈ linkedPlays entry links, row.2 ≤ read row.1 := by
  have hrising : ∀ links read, NoRowLowers loop links read := by
    intro links read pre link post _
    rw [hloop, hloop]
  unfold LevelMerges
  simp only [hloop, hrising, and_true]
  constructor
  · intro h row hrow
    rw [h]
    exact le_joined_of_mem hrow
  · intro h
    ext1 k
    exact le_antisymm le_joined (joined_le (le_refl _) fun row hrow hkey => hkey ▸ h row hrow)

end Level

/-! ## All levels -/

/-- A sync of two loops a level, of which some do not run. -/
theorem mergesByMaximum_iff {sync : (Level → LinkRows) → PlayColumns → PlayColumns}
    {loop : Level → List (String × Nat) → (Nat → Plays) → Nat → Plays} (runs : Level → Bool)
    {entry : Level → String → Option Plays} {links : Level → LinkRows} {columns : PlayColumns}
    (hsync : ∀ links columns level, sync links columns level =
      loop level (links level).mapped (loop level (links level).direct (columns level)))
    (hloop : ∀ level links read, loop level links read =
      if runs level then mergeRows (incoming (entry level) links) read else read) :
    MergesByMaximum sync loop entry links columns ↔
      ∀ level, (runs level → LinksAgree (entry level) (links level) (columns level)) ∧
        (runs level = false →
          ∀ row ∈ linkedPlays (entry level) (links level), row.2 ≤ columns level row.1) := by
  have hlevels : MergesByMaximum sync loop entry links columns ↔
      ∀ level, ∀ links', links'.Reorders (links level) →
        LevelMerges (loop level) (entry level) (links level) links' (columns level) := by
    constructor
    · intro h level links' hreorders
      have hall : ∀ level',
          (Function.update links level links' level').Reorders (links level') := by
        intro level'
        by_cases hlevel : level' = level
        · subst hlevel
          rwa [Function.update_self]
        · rw [Function.update_of_ne hlevel]
          exact ⟨List.Perm.refl _, List.Perm.refl _⟩
      obtain ⟨hmerged, hrising, hagain⟩ := h _ hall
      have hmerged := hmerged level
      have hrising := hrising level
      have hagain := congrFun hagain level
      simp only [hsync, Function.update_self] at hmerged hrising hagain
      exact ⟨hmerged, hrising, hagain⟩
    · intro h links' hreorders
      refine ⟨fun level => ?_, fun level => ?_, ?_⟩
      · rw [hsync]
        exact (h level _ (hreorders level)).1
      · exact (h level _ (hreorders level)).2.1
      · ext1 level
        simp only [hsync]
        exact (h level _ (hreorders level)).2.2
  rw [hlevels]
  refine forall_congr' fun level => ?_
  cases hruns : runs level
  · have hskip : ∀ links read, loop level links read = read := by simp [hloop, hruns]
    simp only [levelMerges_iff_of_skipped hskip]
    refine ⟨fun h => ⟨fun h' => by simp at h', fun _ => h (links level) ?_⟩,
      fun h _ _ => h.2 trivial⟩
    exact ⟨List.Perm.refl _, List.Perm.refl _⟩
  · have hrun : ∀ links read, loop level links read =
        mergeRows (incoming (entry level) links) read := by simp [hloop, hruns]
    rw [forall_levelMerges_iff hrun]
    simp

/-! ## Tautulli -/

theorem mergeLastViewed_eq (current : WithBot Int) (played : Option Datetime) :
    mergeLastViewed current played = current ⊔ (played.map Datetime.wallClock : WithBot Int) := by
  rcases played with _ | played
  · exact (sup_bot_eq current).symm
  · cases current with
    | bot => exact (bot_sup_eq _).symm
    | coe current => rfl

theorem max_unbotD_eq (current : WithBot Nat) (n : Nat) :
    ((max (current.unbotD 0) n : Nat) : WithBot Nat) = current ⊔ (n : WithBot Nat) := by
  cases current with
  | bot => simp
  | coe current => rfl

namespace TautulliWorld

variable (world : TautulliWorld)

/-- The values that Tautulli gives for an item. -/
def entry (level : Level) (sourceItemId : String) : Option Plays :=
  world.counts.bind fun counts => (world.playEntry (counts level) sourceItemId).map fun played =>
    ((played.1 : WithBot Nat), (played.2.map Datetime.wallClock : WithBot Int))

/-- A loop of the sync; there is none without counts. -/
def loop (level : Level) (links : List (String × Nat)) (read : Nat → Plays) : Nat → Plays :=
  match world.counts with
  | none => read
  | some counts => world.mergeLinks (counts level) links read

variable {world}

theorem mergeLink_eq (playCounts : TautulliCounts) (read written : Nat → Plays)
    (link : String × Nat) : world.mergeLink playCounts read written link =
      match world.playEntry playCounts link.1 with
      | none => written
      | some played => mergeRow read written (link.2,
          ((played.1 : WithBot Nat), (played.2.map Datetime.wallClock : WithBot Int))) := by
  unfold mergeLink
  rcases world.playEntry playCounts link.1 with _ | ⟨count, lastViewed⟩
  · rfl
  · simp only [max_unbotD_eq, mergeLastViewed_eq, mergeRow, Prod.ext_iff, Prod.fst_sup,
      Prod.snd_sup]
    split_ifs with hraises hsame
    · rcases hraises with h | h
      · exact absurd hsame.1 h
      · exact absurd hsame.2 h
    · rfl
    · rfl
    · rename_i hsame
      push Not at hraises
      exact absurd hraises hsame

theorem loop_eq (level : Level) (links : List (String × Nat)) (read : Nat → Plays) :
    world.loop level links read = mergeRows (incoming (world.entry level) links) read := by
  unfold loop entry
  rcases world.counts with _ | counts
  · simp [incoming, mergeRows]
  · rw [incoming, mergeRows, List.foldl_filterMap]
    refine congrArg (fun step => List.foldl step read links) ?_
    ext1 written
    ext1 link
    rw [mergeLink_eq]
    rcases hplayed : world.playEntry (counts level) link.1 with _ | played <;> simp [hplayed]

theorem sync_eq (links : Level → LinkRows) (columns : PlayColumns) (level : Level) :
    syncTautulliPlaybackData world links columns level =
      world.loop level (links level).mapped
        (world.loop level (links level).direct (columns level)) := by
  unfold syncTautulliPlaybackData
  rcases hcounts : world.counts with _ | counts
  · simp [loop, hcounts]
  · simp only [loop, hcounts]
    split_ifs with hempty
    · have hnone : ∀ links read, world.mergeLinks (counts level) links read = read := by
        intro links read
        have hentry : ∀ item, world.playEntry (counts level) item = none := by
          intro item
          simp [playEntry, Dict.get?, List.isEmpty_iff.mp hempty]
        induction links using List.reverseRecOn with
        | nil => rfl
        | append_singleton links link ih =>
          rw [mergeLinks, List.foldl_concat, mergeLink, hentry]
          exact ih
      rw [hnone, hnone]
    · rfl

end TautulliWorld

/-! ## Playback Reporting -/

/-- A count that comes without a time. -/
def countAlone (count : Nat) : Plays := ((count : WithBot Nat), ⊥)

/-- The values that the plugin gives for an item; a count of zero is none. -/
def reportedEntry (answers : Option ReportingCounts) (level : Level) (itemId : String) :
    Option Plays :=
  answers.bind fun answers =>
    (((reportedCounts answers level).get? itemId).filter (· ≠ 0)).map countAlone

/-- Whether the sync of a service gets to a level. -/
def reportsLevel (answers : Option ReportingCounts) (level : Level) : Bool :=
  answers.any (reachesLevel · level)

/-- A loop of the sync, if it gets there. -/
def reportingLoop (answers : Option ReportingCounts) (level : Level) (links : List (String × Nat))
    (read : Nat → Plays) : Nat → Plays :=
  match answers with
  | none => read
  | some answers =>
    if reachesLevel answers level then reportLinks (reportedCounts answers level) links read
    else read

theorem sup_count_of_lt {current : WithBot Nat} {n : Nat} (h : current.unbotD 0 < n) :
    current ⊔ (n : WithBot Nat) = (n : WithBot Nat) ∧ current ⊔ (n : WithBot Nat) ≠ current := by
  cases current with
  | bot => simp
  | coe current =>
    have hlt : current < n := h
    have hsup : ((current : WithBot Nat) ⊔ (n : WithBot Nat)) = (n : WithBot Nat) :=
      sup_eq_right.mpr (WithBot.coe_le_coe.mpr hlt.le)
    refine ⟨hsup, fun heq => ?_⟩
    exact hlt.ne' (WithBot.coe_injective (hsup.symm.trans heq))

theorem sup_count_of_not_lt {current : WithBot Nat} {n : Nat} (hn : n ≠ 0)
    (h : ¬current.unbotD 0 < n) : current ⊔ (n : WithBot Nat) = current := by
  cases current with
  | bot =>
    rw [WithBot.unbotD_bot] at h
    omega
  | coe current =>
    have hle : n ≤ current := Nat.le_of_not_lt h
    exact sup_eq_left.mpr (WithBot.coe_le_coe.mpr hle)

theorem mergeRow_countAlone {read written : Nat → Plays} {id count : Nat} (hcount : count ≠ 0) :
    mergeRow read written (id, countAlone count) =
      if (read id).1.unbotD 0 < count then
        Function.update written id ((count : WithBot Nat), (read id).2)
      else written := by
  have htime : (read id ⊔ countAlone count).2 = (read id).2 := sup_bot_eq _
  unfold mergeRow
  by_cases hlt : (read id).1.unbotD 0 < count
  · obtain ⟨hsup, hne⟩ := sup_count_of_lt hlt
    rw [if_pos hlt, if_neg fun heq => hne (congrArg Prod.fst heq)]
    exact congrArg _ (Prod.ext hsup htime)
  · rw [if_neg hlt, if_pos (Prod.ext (sup_count_of_not_lt hcount hlt) htime)]

/-- A loop that writes counts alone is a merge of counts without a time. -/
theorem reportLinks_eq (counts : Dict String Nat) (links : List (String × Nat))
    (read : Nat → Plays) : reportLinks counts links read =
      mergeRows (incoming (fun itemId => ((counts.get? itemId).filter (· ≠ 0)).map countAlone)
        links) read ∧
      ∀ id, (reportLinks counts links read id).2 = (read id).2 := by
  induction links using List.reverseRecOn with
  | nil => exact ⟨rfl, fun _ => rfl⟩
  | append_singleton links link ih =>
    obtain ⟨hsame, htimes⟩ := ih
    rw [incoming] at hsame
    have hconcat : reportLinks counts (links ++ [link]) read =
        reportLink counts read (reportLinks counts links read) link := List.foldl_concat ..
    rw [hconcat, incoming, List.filterMap_append, reportLink]
    rcases hcount : counts.get? link.1 with _ | count
    · rw [List.filterMap_cons_none (by simp [hcount]), List.filterMap_nil, List.append_nil]
      exact ⟨hsame, htimes⟩
    · by_cases hzero : count = 0
      · rw [List.filterMap_cons_none (by simp [hcount, hzero]), List.filterMap_nil,
          List.append_nil]
        simp only [hzero, ne_eq, not_true, false_and, if_false]
        exact ⟨hsame, htimes⟩
      · rw [List.filterMap_cons_some (b := (link.2, countAlone count)) (by simp [hcount, hzero]),
          List.filterMap_nil, mergeRows_concat, mergeRow_countAlone hzero, ← hsame]
        simp only [ne_eq, hzero, not_false_iff, true_and, htimes]
        intro id
        split_ifs
        · by_cases hid : id = link.2
          · rw [hid, Function.update_self]
          · rw [Function.update_of_ne hid]
            exact htimes id
        · exact htimes id

theorem reportingLoop_eq (answers : Option ReportingCounts) (level : Level)
    (links : List (String × Nat)) (read : Nat → Plays) :
    reportingLoop answers level links read =
      if reportsLevel answers level then
        mergeRows (incoming (reportedEntry answers level) links) read
      else read := by
  rcases answers with _ | answers
  · rfl
  · simp only [reportingLoop, reportsLevel, Option.any_some,
      (reportLinks_eq (reportedCounts answers level) links read).1]
    rfl

theorem syncPlaybackReporting_eq (answers : Option ReportingCounts) (links : Level → LinkRows)
    (columns : PlayColumns) (level : Level) :
    syncPlaybackReportingForService answers links columns level =
      reportingLoop answers level (links level).mapped
        (reportingLoop answers level (links level).direct (columns level)) := by
  rcases answers with _ | answers
  · rfl
  · simp only [syncPlaybackReportingForService, reportingLoop]
    split_ifs <;> rfl

/-- The Tautulli sync merges by maximum exactly when of every select the links that would change
one row lead to the same values; the Playback Reporting sync when besides that nothing new is
linked to rows of a level that it does not get to. -/
theorem mergesByMaximum_supplemental_iff (db : SupplementTables) (columns : PlayColumns) :
    (∀ world : TautulliWorld,
      MergesByMaximum (syncTautulliPlaybackData world) world.loop world.entry
          (selectLinks db .plex world.useMappedMatches) columns ↔
        ∀ level, LinksAgree (world.entry level)
          (selectLinks db .plex world.useMappedMatches level) (columns level)) ∧
    ∀ (service : Service) (useMappedMatches : Bool) (answers : Option ReportingCounts),
      MergesByMaximum (syncPlaybackReportingForService answers) (reportingLoop answers)
          (reportedEntry answers) (selectLinks db service useMappedMatches) columns ↔
        ∀ level,
          (reportsLevel answers level → LinksAgree (reportedEntry answers level)
            (selectLinks db service useMappedMatches level) (columns level)) ∧
          (reportsLevel answers level = false →
            ∀ row ∈ linkedPlays (reportedEntry answers level)
              (selectLinks db service useMappedMatches level), row.2 ≤ columns level row.1) := by
  constructor
  · intro world
    rw [mergesByMaximum_iff (fun _ => true) TautulliWorld.sync_eq
      fun level links read => (TautulliWorld.loop_eq level links read).trans (if_pos rfl).symm]
    simp
  · intro service useMappedMatches answers
    exact mergesByMaximum_iff (reportsLevel answers) (syncPlaybackReporting_eq answers)
      (reportingLoop_eq answers)

/-- A film in two libraries, with five plays of one item and three of the other. -/
def twoItems : SupplementTables where
  movies := [{ id := 1, tmdbId := 603, title := "The Matrix" }]
  movieVersions := [
    { id := 1, movieId := 1, service := .plex, serviceItemId := "10", serviceMediaId := "a" },
    { id := 2, movieId := 1, service := .plex, serviceItemId := "20", serviceMediaId := "b" }]

def twoItemsWorld : TautulliWorld where
  intOfStr item := if item = "10" then some 10 else some 20
  mainServer := some .plex
  playCounts := some fun
    | .movies => ⟨[(10, (5, none)), (20, (3, none))], by decide⟩
    | _ => ∅

/-- Three plays are left. -/
theorem not_mergesByMaximum_twoItems : ¬MergesByMaximum (syncTautulliPlaybackData twoItemsWorld)
    twoItemsWorld.loop twoItemsWorld.entry (selectLinks twoItems .plex
      twoItemsWorld.useMappedMatches) fun _ _ => (0, ⊥) := by
  intro h
  have hmovie := congrFun ((h _ fun _ => ⟨List.Perm.refl _, List.Perm.refl _⟩).1 .movies) 1
  exact absurd hmovie (by decide +kernel)

end MediaMasterr.Playback
