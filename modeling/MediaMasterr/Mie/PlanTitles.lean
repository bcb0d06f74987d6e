import MediaMasterr.Foundations.SelectStatements
import MediaMasterr.Mie.OverviewCounts

/-! # The titles of the cleanup plan

`_cleanup_plan_recommendations` joins the plan items with the movies and with the
series by the number in their target ids, whatever the type of the target is. There
is one recommendation for every item; it names its target exactly where the first
titled row that the number joins is the target. -/

namespace MediaMasterr.Mie.OperationsService

open MediaMasterr.Foundations MediaMasterr.Database

variable {α : Type*} (py : OperationsCalls)

/-- What the service reads, with the primary keys of the movies and of the series. -/
structure PlanWorld extends OperationsWorld where
  movies_nodup : (tables.movies.map (·.id)).Nodup := by decide
  series_nodup : (tables.series.map (·.id)).Nodup := by decide

variable (w : PlanWorld)

/-! ## The query -/

/-- The column of a target id, cast to an integer. -/
def castTarget (item : CleanupPlanItem) : Option Int := item.targetId.map py.castInteger

/-- The items with the movies and the series of their numbers, the 250 latest rows. -/
def planRows : List ((CleanupPlanItem × Option Movie) × Option Series) :=
  let joined := outerJoin (fun row (series : Series) =>
      castTarget py row.1 = some ((series.id : Nat) : Int))
    (outerJoin (fun item (movie : Movie) => castTarget py item = some ((movie.id : Nat) : Int))
      w.planItems w.tables.movies) w.tables.series
  (joined.mergeSort fun a b => b.1.1.createdAt ≤ a.1.1.createdAt).take 250

/-- The recommendation of a row. -/
def rowRecommendation (row : (CleanupPlanItem × Option Movie) × Option Series) :
    Recommendation where
  id := "plan-item:" ++ toString row.1.1.id
  cardKey := row.1.1.cardKey
  title := orText (row.1.2.map (·.title)) (orText (row.2.map (·.title)) row.1.1.title)
  action := row.1.1.action
  safetyLevel := coerceSafetyLevel row.1.1.safetyLevel
  targetType := row.1.1.targetType
  targetId := row.1.1.targetId
  estimatedRecoveryBytes := row.1.1.estimatedRecoveryBytes
  artworkMedia := planMedia py row.1.1

/-- `_cleanup_plan_recommendations`, row by row of the query. -/
def planRowRecommendations : List Recommendation := (planRows py w).map (rowRecommendation py)

/-! ## One row for every item -/

/-- The movie that the number of the item joins. -/
def joinedMovie (item : CleanupPlanItem) : Option Movie :=
  (castTarget py item).bind fun k =>
    w.tables.movies.find? fun movie => ((movie.id : Nat) : Int) = k

/-- The series that the number of the item joins. -/
def joinedSeries (item : CleanupPlanItem) : Option Series :=
  (castTarget py item).bind fun k =>
    w.tables.series.find? fun series => ((series.id : Nat) : Int) = k

theorem cast_ids_nodup {rows : List α} {id : α → Nat} (h : (rows.map id).Nodup) :
    (rows.map fun row => ((id row : Nat) : Int)).Nodup := by
  rw [show (fun row => ((id row : Nat) : Int)) = Int.ofNat ∘ id from rfl, ← List.map_map]
  exact h.map fun _ _ => Int.ofNat.inj

/-- As ids are primary keys, the joins give one row for every item. -/
theorem planRows_eq : planRows py w = (listedPlanItems w.toOperationsWorld).map fun item =>
    ((item, joinedMovie py w item), joinedSeries py w item) := by
  have hmovies : (w.tables.movies.map fun movie => ((movie.id : Nat) : Int)).Nodup   :=
    cast_ids_nodup w.movies_nodup
  have hseries : (w.tables.series.map fun series => ((series.id : Nat) : Int)).Nodup   :=
    cast_ids_nodup w.series_nodup
  simp only [planRows]
  rw [outerJoin_eq_map _ (castTarget py) _ hmovies,
    outerJoin_eq_map _ (fun row : CleanupPlanItem × Option Movie => castTarget py row.1) _ hseries,
    List.map_map, listedPlanItems, List.map_take]
  refine congrArg (List.take 250) (Eq.symm ?_)
  exact List.map_mergeSort fun _ _ _ _ => rfl

theorem planRecommendation_title (item : CleanupPlanItem) :
    (planRecommendation py w.toOperationsWorld item).title =
      orText ((joinedMovie py w item).map (·.title))
        (orText ((joinedSeries py w item).map (·.title)) item.title) := by
  simp only [planRecommendation, joinedMovie, joinedSeries, castTarget, movieTitle, seriesTitle]
  cases item.targetId <;> rfl

/-- The recommendations of the rows are those of the listed items. -/
theorem planRowRecommendations_eq :
    planRowRecommendations py w = cleanupPlanRecommendations py w.toOperationsWorld := by
  rw [planRowRecommendations, planRows_eq, List.map_map, cleanupPlanRecommendations]
  refine List.map_congr_left fun item _ => ?_
  simp only [Function.comp, rowRecommendation, ← planRecommendation_title]
  rfl

/-! ## The target of an item -/

/-- The title of the movie or series that the type and the target id of an item name; of a row with
an empty title it is that title. -/
def targetRow (item : CleanupPlanItem) : Option String :=
  if item.targetType = "movie" then
    (w.tables.movies.find? fun movie => item.targetId = some (toString movie.id)).map (·.title)
  else if item.targetType = "series" then
    (w.tables.series.find? fun series => item.targetId = some (toString series.id)).map (·.title)
  else none

/-- The title that names the target of an item. -/
def targetTitle (item : CleanupPlanItem) : String := (targetRow w item).getD item.title

/-- One recommendation for every item, titled by the target. -/
structure NamesTargets (rows : List Recommendation) : Prop where
  one_each : w.planItems.length ≤ 250 → rows.length = w.planItems.length ∧
    ∀ item ∈ w.planItems, ∃ row, rows.filter (·.id = "plan-item:" ++ toString item.id) = [row]
  titles : ∀ item ∈ w.planItems, ∀ row ∈ rows, row.id = "plan-item:" ++ toString item.id →
    row.title = targetTitle w item

/-- The titled rows that the number of an item joins: the kind, the id and the title. -/
def joinedTitles (item : CleanupPlanItem) : List (String × Nat × String) :=
  (((joinedMovie py w item).map fun movie => ("movie", movie.id, movie.title)).toList ++
    ((joinedSeries py w item).map fun series => ("series", series.id, series.title)).toList).filter
      (·.2.2 ≠ "")

/-- When the recommendation of an item names its target: the first titled row that the number joins
is the target, or has the title of the target; without such a row the target, if it is there, and
the item have no title. -/
def NamedByNumber (item : CleanupPlanItem) : Prop :=
  match (joinedTitles py w item).head? with
  | some (kind, id, title) => item.targetType = kind ∧ item.targetId = some (toString id) ∨
      title = targetTitle w item
  | none => targetRow w item ≠ none → item.title = ""

/-! ## One recommendation for every item -/

variable {py w}

theorem listedPlanItems_perm (h : w.planItems.length ≤ 250) :
    (listedPlanItems w.toOperationsWorld).Perm w.planItems := by
  rw [listedPlanItems, List.take_of_length_le]
  · exact List.mergeSort_perm _ _
  · rwa [List.length_mergeSort]

theorem recommendations_one_each (h : w.planItems.length ≤ 250) :
    (planRowRecommendations py w).length = w.planItems.length ∧
      ∀ item ∈ w.planItems, ∃ row, (planRowRecommendations py w).filter
        (·.id = "plan-item:" ++ toString item.id) = [row] := by
  have hperm := listedPlanItems_perm h
  rw [planRowRecommendations_eq, cleanupPlanRecommendations]
  refine ⟨by rw [List.length_map, hperm.length_eq], fun item hitem => ?_⟩
  have hids : (((listedPlanItems w.toOperationsWorld).map
      (planRecommendation py w.toOperationsWorld)).map (·.id)).Nodup := by
    rw [List.map_map]
    refine List.Nodup.map_on ?_ (hperm.nodup_iff.mpr (List.Nodup.of_map _ w.planItems_nodup))
    intro a ha b hb hid
    exact List.inj_on_of_nodup_map w.planItems_nodup (hperm.mem_iff.mp ha) (hperm.mem_iff.mp hb)
      (PythonText.repr_injective (PythonText.append_cancel hid))
  exact ⟨_, filter_key_eq_singleton hids
    (List.mem_map.mpr ⟨item, hperm.mem_iff.mpr hitem, rfl⟩)⟩

/-! ## Titles -/

/-- The title of a recommendation is that of the first titled row that the number joins, else the
one of the item. -/
theorem title_eq (item : CleanupPlanItem) :
    (planRecommendation py w.toOperationsWorld item).title =
      (((joinedTitles py w item).head?).map (·.2.2)).getD item.title := by
  rw [planRecommendation_title, joinedTitles]
  cases joinedMovie py w item with
  | none =>
    cases joinedSeries py w item with
    | none => rfl
    | some series => by_cases hs : series.title = "" <;> simp [orText, hs]
  | some movie =>
    by_cases hm : movie.title = ""
    · cases joinedSeries py w item with
      | none => simp [orText, hm]
      | some series => by_cases hs : series.title = "" <;> simp [orText, hm, hs]
    · simp [orText, hm]

theorem find?_toString_eq_some {rows : List α} {id : α → Nat} (h : (rows.map id).Nodup) {row : α}
    (hrow : row ∈ rows) {target : Option String} (htarget : target = some (toString (id row))) :
    rows.find? (fun row => target = some (toString (id row))) = some row := by
  refine find?_eq_some_of_key h hrow (decide_eq_true htarget) fun other hother => ?_
  exact PythonText.repr_injective (Option.some.inj ((of_decide_eq_true hother).symm.trans htarget))

/-- A joined row is one of the table. -/
theorem joinedMovie_mem {item : CleanupPlanItem} {movie : Movie}
    (h : joinedMovie py w item = some movie) : movie ∈ w.tables.movies := by
  obtain ⟨_, -, hfind⟩ := Option.bind_eq_some_iff.mp h
  exact List.mem_of_find?_eq_some hfind

theorem joinedSeries_mem {item : CleanupPlanItem} {series : Series}
    (h : joinedSeries py w item = some series) : series ∈ w.tables.series := by
  obtain ⟨_, -, hfind⟩ := Option.bind_eq_some_iff.mp h
  exact List.mem_of_find?_eq_some hfind

/-- A titled row that the number joins has the title to be shown when it is the target. -/
theorem title_of_joinedTitles {item : CleanupPlanItem} {kind title : String} {id : Nat}
    (h : (kind, id, title) ∈ joinedTitles py w item) (hkind : item.targetType = kind)
    (hid : item.targetId = some (toString id)) : title = targetTitle w item := by
  rw [joinedTitles, List.mem_filter, List.mem_append, Option.mem_toList, Option.mem_toList] at h
  rcases h.1 with hmovie | hseries
  · obtain ⟨movie, hjoined, heq⟩ := Option.map_eq_some_iff.mp hmovie
    obtain ⟨rfl, rfl, rfl⟩ : "movie" = kind ∧ movie.id = id ∧ movie.title = title := by
      simpa using heq
    rw [targetTitle, targetRow, if_pos hkind,
      find?_toString_eq_some w.movies_nodup (joinedMovie_mem hjoined) hid]
    rfl
  · obtain ⟨series, hjoined, heq⟩ := Option.map_eq_some_iff.mp hseries
    obtain ⟨rfl, rfl, rfl⟩ : "series" = kind ∧ series.id = id ∧ series.title = title := by
      simpa using heq
    rw [targetTitle, targetRow, if_neg (by rw [hkind]; decide), if_pos hkind,
      find?_toString_eq_some w.series_nodup (joinedSeries_mem hjoined) hid]
    rfl

section Cast

variable (hcast : ∀ n : Nat, py.castInteger (toString n) = n)
include hcast

/-- The row that is found by the text of its key is the one that the number joins. -/
theorem find?_cast_eq_some {rows : List α} {id : α → Nat} (h : (rows.map id).Nodup) {row : α}
    {item : CleanupPlanItem}
    (hfind : rows.find? (fun row => item.targetId = some (toString (id row))) = some row) :
    ((castTarget py item).bind fun k => rows.find? fun row => ((id row : Nat) : Int) = k) =
      some row := by
  have htarget : item.targetId = some (toString (id row)) := by
    simpa using List.find?_some hfind
  rw [castTarget, htarget, Option.map_some, hcast, Option.bind_some]
  exact find?_eq_some_of_key h (List.mem_of_find?_eq_some hfind) (decide_eq_true rfl)
    fun other hother => Int.ofNat.inj (of_decide_eq_true hother)

/-- When the number joins no titled row, the target has no title. -/
theorem targetRow_blank {item : CleanupPlanItem} (h : joinedTitles py w item = []) {title : String}
    (htarget : targetRow w item = some title) : title = "" := by
  rw [joinedTitles, List.filter_eq_nil_iff] at h
  unfold targetRow at htarget
  split_ifs at htarget
  · obtain ⟨movie, hfind, rfl⟩ := Option.map_eq_some_iff.mp htarget
    have hjoined : joinedMovie py w item = some movie :=
      find?_cast_eq_some hcast w.movies_nodup hfind
    simpa [hjoined] using h ("movie", movie.id, movie.title)
  · obtain ⟨series, hfind, rfl⟩ := Option.map_eq_some_iff.mp htarget
    have hjoined : joinedSeries py w item = some series :=
      find?_cast_eq_some hcast w.series_nodup hfind
    simpa [hjoined] using h ("series", series.id, series.title)

theorem title_eq_target_iff (item : CleanupPlanItem) :
    (planRecommendation py w.toOperationsWorld item).title = targetTitle w item ↔
      NamedByNumber py w item := by
  rw [title_eq, NamedByNumber]
  cases hhead : (joinedTitles py w item).head? with
  | none =>
    have hnil := List.head?_eq_none_iff.mp hhead
    change item.title = _ ↔ _
    rw [targetTitle]
    cases htarget : targetRow w item with
    | none => simp
    | some title => simp [targetRow_blank hcast hnil htarget]
  | some row =>
    obtain ⟨kind, id, title⟩ := row
    have hmem : (kind, id, title) ∈ joinedTitles py w item := List.mem_of_head? hhead
    change title = _ ↔ _
    constructor
    · exact .inr
    · rintro (⟨hkind, hid⟩ | htitle)
      · exact title_of_joinedTitles hmem hkind hid
      · exact htitle

/-- The recommendations name their targets exactly where the numbers of the listed items do. -/
theorem namesTargets_iff : NamesTargets w (planRowRecommendations py w) ↔
    ∀ item ∈ listedPlanItems w.toOperationsWorld, NamedByNumber py w item := by
  have hrows := planRowRecommendations_eq py w
  constructor
  · intro h item hitem
    rw [← title_eq_target_iff hcast]
    refine h.titles item (mem_planItems hitem) _ ?_ rfl
    rw [hrows]
    exact List.mem_map.mpr ⟨item, hitem, rfl⟩
  · intro h
    refine ⟨recommendations_one_each, fun item hitem row hrow hid => ?_⟩
    rw [hrows] at hrow
    obtain ⟨listed, hlisted, rfl⟩ := List.mem_map.mp hrow
    have heq : listed = item := List.inj_on_of_nodup_map w.planItems_nodup
      (mem_planItems hlisted) hitem (PythonText.repr_injective (PythonText.append_cancel hid))
    rw [← heq]
    exact (title_eq_target_iff hcast listed).mpr (h listed hlisted)

end Cast

/-! ## A torrent with the number of a movie -/

/-- The functions on ASCII texts, with the cast of decimal numbers. -/
def castingCalls : OperationsCalls where
  toPythonCalls := asciiCalls.toPythonCalls
  sha1 := asciiCalls.sha1
  digits := asciiCalls.digits
  castInteger text := (Nat.ofDigitChars 10 (text.toList.takeWhile Char.isDigit) 0 : Nat)

/-- A plan item for the series 5. -/
def seriesItem : CleanupPlanItem :=
  { id := 1, cardKey := "leftover_files", title := "Leftovers", targetType := "series"
    targetId := some "5" }

/-- The item in a library whose series 5 is the only row with that number. -/
def seriesPlan : PlanWorld where
  tables := { series := [{ id := 5, tmdbId := 4614, title := "Firefly" }] }
  planItems := [seriesItem]

/-- The item in a library that has a movie with the same number. -/
def movieAndSeriesPlan : PlanWorld where
  tables := { movies := [{ id := 5, tmdbId := 949, title := "Heat" }]
              series := [{ id := 5, tmdbId := 4614, title := "Firefly" }] }
  planItems := [seriesItem]

theorem castingCalls_castInteger (n : Nat) : castingCalls.castInteger (toString n) = n := by
  change ((Nat.ofDigitChars 10 (n.repr.toList.takeWhile Char.isDigit) 0 : Nat) : Int) = n
  rw [List.takeWhile_eq_self_iff.mpr PythonText.isDigit_of_mem_repr, PythonText.ofDigitChars_repr]

theorem namesTargets_seriesPlan :
    (planRowRecommendations castingCalls seriesPlan).map (·.title) = ["Firefly"] ∧
      NamesTargets seriesPlan (planRowRecommendations castingCalls seriesPlan) := by
  refine ⟨by decide +kernel, (namesTargets_iff castingCalls_castInteger).mpr ?_⟩
  intro item hitem
  obtain rfl : item = seriesItem := List.mem_singleton.mp (mem_planItems hitem)
  have htitles : joinedTitles castingCalls seriesPlan seriesItem = [("series", 5, "Firefly")] := by
    decide +kernel
  rw [NamedByNumber, htitles]
  exact .inl ⟨rfl, by decide +kernel⟩

/-- The item for the series is titled by the movie with the same number. -/
theorem not_namesTargets_movieAndSeries :
    (planRowRecommendations castingCalls movieAndSeriesPlan).map (fun row =>
        (row.id, row.targetType, row.title)) = [("plan-item:1", "series", "Heat")] ∧
      targetTitle movieAndSeriesPlan seriesItem = "Firefly" ∧
      ¬NamesTargets movieAndSeriesPlan
        (planRowRecommendations castingCalls movieAndSeriesPlan) := by
  refine ⟨by decide +kernel, by decide +kernel, fun h => ?_⟩
  have hwrong : ∃ row ∈ planRowRecommendations castingCalls movieAndSeriesPlan,
      row.id = "plan-item:" ++ toString seriesItem.id ∧
        row.title ≠ targetTitle movieAndSeriesPlan seriesItem := by decide +kernel
  obtain ⟨row, hrow, hid, htitle⟩ := hwrong
  exact htitle (h.titles seriesItem List.mem_cons_self row hrow hid)

end MediaMasterr.Mie.OperationsService
