import Mathlib.Data.List.ReduceOption
import Mathlib.Data.String.Basic
import MediaMasterr.Foundations.Loops
import MediaMasterr.Foundations.StableSort
import MediaMasterr.Mie.OperationsService

/-! # Recommendations about protected media

No producer of the recommendations looks at the protections, and the snapshot
recommends to detach exactly where there is one. So a detaching recommendation of
protected media is missing only where no producer has a row for such media. -/

namespace MediaMasterr.Mie.OperationsService

open MediaMasterr.Foundations MediaMasterr.Database

variable {py : OperationsCalls} {w : OperationsWorld}

/-- The actions that detach a torrent or delete files. -/
def detachingActions : List String := ["detach_torrent", "delete_files"]

/-- The media is a protected movie or series. -/
def protectedMedia (w : OperationsWorld) : Option MediaType × Option Nat → Bool
  | (some mediaType, some id) => isProtected w mediaType id
  | _ => false

/-! ## The order of the rows -/

theorem rowPrecedes_trans (a b c : Recommendation) (hab : rowPrecedes py a b) (hbc : rowPrecedes py b c) :
    rowPrecedes py a c := by
  simp only [rowPrecedes, Bool.or_eq_true, Bool.and_eq_true, decide_eq_true_eq, beq_iff_eq] at *
  rcases hab with hab | ⟨hrank, hab | ⟨hbytes, hab⟩⟩ <;>
    rcases hbc with hbc | ⟨hrank', hbc | ⟨hbytes', hbc⟩⟩
  · exact .inl (by omega)
  · exact .inl (by omega)
  · exact .inl (by omega)
  · exact .inl (by omega)
  · exact .inr ⟨by omega, .inl (by omega)⟩
  · exact .inr ⟨by omega, .inl (by omega)⟩
  · exact .inl (by omega)
  · exact .inr ⟨by omega, .inl (by omega)⟩
  · exact .inr ⟨by omega, .inr ⟨by omega, le_trans hab hbc⟩⟩

theorem rowPrecedes_total (a b : Recommendation) : rowPrecedes py a b || rowPrecedes py b a := by
  simp only [rowPrecedes, Bool.or_eq_true, Bool.and_eq_true, decide_eq_true_eq, beq_iff_eq]
  rcases lt_trichotomy a.safetyLevel.rank b.safetyLevel.rank with hrank | hrank | hrank
  · exact .inl (.inl hrank)
  · rcases lt_trichotomy a.estimatedRecoveryBytes b.estimatedRecoveryBytes with hbytes | hbytes | hbytes
    · exact .inr (.inr ⟨hrank.symm, .inl hbytes⟩)
    · rcases le_total (py.lower a.title) (py.lower b.title) with hle | hle
      · exact .inl (.inr ⟨hrank, .inr ⟨hbytes.symm, hle⟩⟩)
      · exact .inr (.inr ⟨hrank.symm, .inr ⟨hbytes, hle⟩⟩)
    · exact .inl (.inr ⟨hrank, .inl hbytes⟩)
  · exact .inr (.inl hrank)

/-- The number of fallback rows that come before the row. -/
def precedingRows (py : OperationsCalls) (w : OperationsWorld) (row : Recommendation) : Nat :=
  StableSort.precedingCount (rowPrecedes py) row (fallbackRows py w)

theorem mem_fallbackRecommendations_iff {row : Recommendation} :
    row ∈ fallbackRecommendations py w ↔ row ∈ fallbackRows py w ∧ precedingRows py w row < 250 := by
  constructor
  · intro hmem
    have hrow := List.mem_mergeSort.mp (List.mem_of_mem_take hmem)
    exact ⟨hrow,
      (StableSort.mem_take_mergeSort_iff rowPrecedes_trans rowPrecedes_total hrow 250).mp hmem⟩
  · rintro ⟨hrow, hcount⟩
    exact (StableSort.mem_take_mergeSort_iff rowPrecedes_trans rowPrecedes_total hrow 250).mpr hcount

/-! ## Where the rows come from -/

/-- The producer of a row, with what it is made from. -/
inductive RowSource (py : OperationsCalls) (w : OperationsWorld) : Recommendation → Prop
  | plan {item} (h : item ∈ listedPlanItems w) : RowSource py w (planRecommendation py w item)
  | healthy : RowSource py w healthyRecommendation
  | candidate {c} (h : c ∈ listedCandidates w)
      (hkept : precedingRows py w (candidateRecommendation w c) < 250) :
      RowSource py w (candidateRecommendation w c)
  | duplicate (movie) : RowSource py w (duplicateRecommendation movie)
  | torrent {torrentId media row} (hmem : (torrentId, media) ∈ (correlatedTorrents py w).entries)
      (hrow : torrentRecommendation torrentId (((rawById py w).get? torrentId).getD {}) media =
        some row)
      (hkept : precedingRows py w row < 250) : RowSource py w row
  | artwork {asset row} (hrow : artworkRecommendation w asset = some row) : RowSource py w row
  | issue {graph issue} (h : issue ∈ detectIssues py graph) :
      RowSource py w (issueRecommendation graph issue)
  | detached (graph) : RowSource py w (detachedRecommendation graph)
  | ready {g} (h : g ∈ loadCorrelationGraphs w) (hready : readyToDetachGraph g) :
      RowSource py w (readyRecommendation g)
  | download {item row} (hrow : downloadRecommendation item = some row) : RowSource py w row

theorem rowSource_of_mem_fallback {row : Recommendation}
    (hmem : row ∈ fallbackRecommendations py w) : RowSource py w row := by
  obtain ⟨hrow, hkept⟩ := mem_fallbackRecommendations_iff.mp hmem
  unfold fallbackRows at hrow
  simp only at hrow
  split_ifs at hrow with hempty
  · obtain rfl := List.mem_singleton.mp hrow
    exact .healthy
  · simp only [List.mem_append, List.mem_map, List.mem_filterMap] at hrow
    rcases hrow with ((⟨c, hc, rfl⟩ | ⟨movie, -, rfl⟩) | htorrent) | ⟨asset, -, hasset⟩
    · exact .candidate hc hkept
    · exact .duplicate movie
    · obtain ⟨⟨torrentId, media⟩, hentry, hrow⟩ := List.mem_filterMap.mp htorrent
      exact .torrent hentry hrow hkept
    · exact .artwork hasset

theorem rowSource_of_mem {row : Recommendation} (hmem : row ∈ producedRows py w) :
    RowSource py w row := by
  simp only [producedRows, List.mem_append] at hmem
  rcases hmem with ((((hplan | hfallback) | hissue) | hdetached) | hready) | hdownload
  · obtain ⟨item, hitem, rfl⟩ := List.mem_map.mp hplan
    exact .plan hitem
  · exact rowSource_of_mem_fallback hfallback
  · obtain ⟨graph, -, hrow⟩ := List.mem_flatMap.mp hissue
    obtain ⟨issue, hdetected, rfl⟩ := List.mem_map.mp hrow
    exact .issue hdetected
  · obtain ⟨graph, -, rfl⟩ := List.mem_map.mp hdetached
    exact .detached graph
  · obtain ⟨graph, hgraph, rfl⟩ := List.mem_map.mp hready
    obtain ⟨hgraph, hready⟩ := List.mem_filter.mp hgraph
    exact .ready hgraph hready
  · obtain ⟨item, -, hrow⟩ :=
      List.mem_filterMap.mp (List.mem_mergeSort.mp (List.mem_of_mem_take hdownload))
    exact .download hrow

theorem detachedRecommendation_id (graph : CorrelationGraph) :
    (detachedRecommendation graph).id = "detached_media:" ++
      (mediaTypeValue graph.mediaType ++ (":" ++ toString graph.mediaId)) :=
  String.append_assoc.trans String.append_assoc

/-! ## The ids of the rows -/

/-- The part of the id before the first colon, by which the producers differ. -/
def idTag (row : Recommendation) : String := PythonText.beforeFirst ':' row.id

theorem idTag_of_id {row : Recommendation} {p x tag : String} (hid : row.id = p ++ x)
    (hcolon : ':' ∈ p.toList) (htag : PythonText.beforeFirst ':' p = tag) : idTag row = tag := by
  rw [idTag, hid, PythonText.beforeFirst_append hcolon, htag]

/-- What the producers list: four kinds of rows detach or delete, all others do not and have other
ids. -/
inductive Produced (py : OperationsCalls) (w : OperationsWorld) : Recommendation → Prop
  | plan {item} (h : item ∈ listedPlanItems w) : Produced py w (planRecommendation py w item)
  | candidate {c} (h : c ∈ listedCandidates w)
      (hkept : precedingRows py w (candidateRecommendation w c) < 250) :
      Produced py w (candidateRecommendation w c)
  | torrent {torrentId raw mediaType mediaId row}
      (hmem : (torrentId, some (mediaType, mediaId)) ∈ (correlatedTorrents py w).entries)
      (hraw : ((rawById py w).get? torrentId).getD {} = raw)
      (hrow : torrentRecommendation torrentId raw (some (mediaType, mediaId)) = some row)
      (hkept : precedingRows py w row < 250) : Produced py w row
  | graph {g} (h : g ∈ loadCorrelationGraphs w) (hready : readyToDetachGraph g) :
      Produced py w (readyRecommendation g)
  | other {row} (haction : row.action ∉ detachingActions)
      (htag : idTag row ∉ ["plan-item", "candidate", "detach_torrent", "ready_to_detach"]) :
      Produced py w row

/-- A row whose action is harmless and whose id starts with another producer's tag. -/
theorem produced_other {row : Recommendation} {p x : String} (hid : row.id = p ++ x)
    (hcolon : ':' ∈ p.toList)
    (htag : PythonText.beforeFirst ':' p ∉
      ["plan-item", "candidate", "detach_torrent", "ready_to_detach"])
    (haction : row.action ∉ detachingActions) : Produced py w row := by
  refine .other haction ?_
  rwa [idTag, hid, PythonText.beforeFirst_append hcolon]

/-- The types of the issues that the rules detect, with their actions. -/
def issueKinds : List (String × String) :=
  [("missing_request", "sync_request"), ("artwork_gap", "refresh_artwork"),
    ("failed_import", "repair_import"), ("torrent_stalled", "investigate_torrent"),
    ("filesystem_inconsistency", "repair_filesystem"), ("duplicate_identity", "review_identity")]

theorem issue_kind {graph : CorrelationGraph} {issue : DetectedIssue}
    (h : issue ∈ detectIssues py graph) : (issue.issueType, issue.action) ∈ issueKinds := by
  rw [detectIssues, List.reduceOption_mem_iff] at h
  simp only [List.mem_cons, List.not_mem_nil, or_false] at h
  rcases h with h | h | h | h | h | h
  · unfold detectMissingRequest at h
    split_ifs at h
    cases h
    simp [issueKinds]
  · unfold detectArtworkGap at h
    split_ifs at h
    cases h
    simp [issueKinds]
  · unfold detectFailedImport at h
    split_ifs at h
    cases h
    simp [issueKinds]
  · unfold detectTorrentHealth at h
    split_ifs at h
    cases h
    simp [issueKinds]
  · unfold detectFilesystemInconsistency at h
    split_ifs at h <;> (cases h; simp [issueKinds])
  · unfold detectDuplicateIdentity at h
    split_ifs at h
    cases h
    simp [issueKinds]

theorem issue_action {graph : CorrelationGraph} {issue : DetectedIssue}
    (h : issue ∈ detectIssues py graph) : issue.action ∉ detachingActions := by
  have hkinds : ∀ kind ∈ issueKinds, kind.2 ∉ detachingActions := by decide
  exact hkinds _ (issue_kind h)

theorem downloadAction_notMem (cleanup : DownloadCleanupClassification) :
    (downloadAction cleanup).1 ∉ detachingActions := by
  cases cleanup <;> decide

theorem produced_of_mem {row : Recommendation} (hmem : row ∈ producedRows py w) :
    Produced py w row := by
  cases rowSource_of_mem hmem with
  | plan hitem => exact .plan hitem
  | healthy => exact .other (by simp [detachingActions, healthyRecommendation]) (by decide)
  | candidate hc hkept => exact .candidate hc hkept
  | duplicate movie =>
    have haction : "merge_duplicates" ∉ detachingActions := by decide
    exact produced_other (p := "duplicate_release:movie:") rfl (by decide) (by decide) haction
  | @torrent torrentId media _ hentry hrow hkept =>
    cases media with
    | none =>
      obtain rfl := Option.some.inj hrow
      exact produced_other (p := "orphan_torrent:") rfl (by decide) (by decide)
        (by simp [detachingActions])
    | some media => exact .torrent hentry rfl hrow hkept
  | artwork hrow =>
    obtain ⟨media, -, rfl⟩ := Option.map_eq_some_iff.mp hrow
    exact produced_other (p := "artwork_issue:") rfl (by decide) (by decide)
      (by simp [detachingActions])
  | @issue graph issue hdetected =>
    have hid : (issueRecommendation graph issue).id = "issue:" ++
        (mediaTypeValue graph.mediaType ++
          ("-" ++ (toString graph.mediaId ++ (":" ++ issue.issueType)))) := by
      simp only [issueRecommendation, String.append_assoc]
    exact produced_other hid (by decide) (by decide) (issue_action hdetected)
  | detached graph =>
    have haction : "monitor_detached_media" ∉ detachingActions := by decide
    exact produced_other (detachedRecommendation_id graph) (by decide) (by decide) haction
  | ready hgraph hready => exact .graph hgraph hready
  | @download item _ hrow =>
    unfold downloadRecommendation at hrow
    by_cases hnone : item.cleanupClassification = .none
    · simp [hnone] at hrow
    · rw [if_neg hnone] at hrow
      obtain rfl := Option.some.inj hrow
      exact produced_other (p := "download:") rfl (by decide) (by decide)
        (downloadAction_notMem item.cleanupClassification)

/-! ## Rows with one id -/

theorem mem_planItems {item : CleanupPlanItem} (h : item ∈ listedPlanItems w) : item ∈ w.planItems :=
  List.mem_mergeSort.mp (List.mem_of_mem_take h)

theorem mem_candidates {c : ReclaimCandidate} (h : c ∈ listedCandidates w) :
    c ∈ w.tables.candidates :=
  List.mem_mergeSort.mp (List.mem_of_mem_take h)

theorem idTag_plan (item : CleanupPlanItem) : idTag (planRecommendation py w item) = "plan-item" :=
  idTag_of_id (p := "plan-item:") (x := toString item.id) rfl (by decide) (by decide)

theorem idTag_candidate (c : ReclaimCandidate) : idTag (candidateRecommendation w c) = "candidate" :=
  idTag_of_id (p := "candidate:") (x := toString c.id) rfl (by decide) (by decide)

theorem readyRecommendation_id (g : CorrelationGraph) : (readyRecommendation g).id =
    "ready_to_detach:" ++ (mediaTypeValue g.mediaType ++ (":" ++ toString g.mediaId)) :=
  (String.append_assoc).trans String.append_assoc

theorem idTag_graph (g : CorrelationGraph) : idTag (readyRecommendation g) = "ready_to_detach" :=
  idTag_of_id (readyRecommendation_id g) (by decide) (by decide)

/-- The row of a torrent that is ready to detach. -/
theorem torrentRecommendation_eq_some {torrentId : String} {raw : RawTorrent} {mediaType : MediaType}
    {mediaId : Nat} {row : Recommendation}
    (h : torrentRecommendation torrentId raw (some (mediaType, mediaId)) = some row) :
    readyToDetachTorrent raw ∧ row.id = "detach_torrent:" ++ torrentId ∧
      row.action = "detach_torrent" ∧ row.artworkMedia = (some mediaType, some mediaId) := by
  rw [torrentRecommendation] at h
  split_ifs at h with hready
  obtain rfl := Option.some.inj h
  exact ⟨hready, rfl, rfl, rfl⟩

theorem idTag_torrent {row : Recommendation} {torrentId : String}
    (h : row.id = "detach_torrent:" ++ torrentId) : idTag row = "detach_torrent" :=
  idTag_of_id h (by decide) (by decide)

/-- Of the rows with the tag of a producer that detaches, each is one of its rows. -/
theorem Produced.of_tag {row : Recommendation} (h : Produced py w row) :
    (idTag row = "plan-item" → ∃ item ∈ listedPlanItems w, row = planRecommendation py w item) ∧
      (idTag row = "candidate" → ∃ c ∈ listedCandidates w, row = candidateRecommendation w c) ∧
      (idTag row = "detach_torrent" → ∃ torrentId raw mediaType mediaId,
        (torrentId, some (mediaType, mediaId)) ∈ (correlatedTorrents py w).entries ∧
        torrentRecommendation torrentId raw (some (mediaType, mediaId)) = some row) ∧
      (idTag row = "ready_to_detach" → ∃ g, row = readyRecommendation g) := by
  cases h with
  | @plan item hitem =>
    rw [idTag_plan]
    exact ⟨fun _ => ⟨item, hitem, rfl⟩, fun h => absurd h (by decide), fun h => absurd h (by decide),
      fun h => absurd h (by decide)⟩
  | @candidate c hc _ =>
    rw [idTag_candidate]
    exact ⟨fun h => absurd h (by decide), fun _ => ⟨c, hc, rfl⟩, fun h => absurd h (by decide),
      fun h => absurd h (by decide)⟩
  | torrent hmem _ hrow _ =>
    rw [idTag_torrent (torrentRecommendation_eq_some hrow).2.1]
    exact ⟨fun h => absurd h (by decide), fun h => absurd h (by decide),
      fun _ => ⟨_, _, _, _, hmem, hrow⟩, fun h => absurd h (by decide)⟩
  | @graph g _ _ =>
    rw [idTag_graph]
    exact ⟨fun h => absurd h (by decide), fun h => absurd h (by decide),
      fun h => absurd h (by decide), fun _ => ⟨g, rfl⟩⟩
  | other _ htag =>
    simp only [List.mem_cons, List.not_mem_nil, or_false, not_or] at htag
    exact ⟨fun h => absurd h htag.1, fun h => absurd h htag.2.1, fun h => absurd h htag.2.2.1,
      fun h => absurd h htag.2.2.2⟩

theorem mediaTypeValue_append_inj {mediaType mediaType' : MediaType} {x y : String}
    (h : mediaTypeValue mediaType ++ x = mediaTypeValue mediaType' ++ y) :
    mediaType = mediaType' ∧ x = y := by
  have hhead := congrArg (fun s : String => s.toList.head?) h
  simp only [String.toList_append] at hhead
  cases mediaType <;> cases mediaType'
  · exact ⟨rfl, PythonText.append_cancel h⟩
  · simp [mediaTypeValue] at hhead
  · simp [mediaTypeValue] at hhead
  · exact ⟨rfl, PythonText.append_cancel h⟩

/-- Two rows with one id, of which one detaches, both detach and concern the same media. -/
theorem Produced.eq_of_id {row row' : Recommendation} (h : Produced py w row)
    (h' : Produced py w row') (hid : row.id = row'.id) (haction : row.action ∈ detachingActions) :
    row'.action ∈ detachingActions ∧ row'.artworkMedia = row.artworkMedia := by
  have htag : idTag row' = idTag row := congrArg (PythonText.beforeFirst ':') hid.symm
  obtain ⟨hplan, hcandidate, htorrent, hgraph⟩ := h'.of_tag
  cases h with
  | @plan item hitem =>
    obtain ⟨item', hitem', rfl⟩ := hplan (htag.trans (idTag_plan item))
    have hids := PythonText.repr_injective (PythonText.append_cancel hid)
    have heq : item = item' := List.inj_on_of_nodup_map w.planItems_nodup
      (mem_planItems hitem) (mem_planItems hitem') hids
    exact ⟨heq ▸ haction, heq ▸ rfl⟩
  | @candidate c hc _ =>
    obtain ⟨c', hc', rfl⟩ := hcandidate (htag.trans (idTag_candidate c))
    have hids := PythonText.repr_injective (PythonText.append_cancel hid)
    have heq : c = c' := List.inj_on_of_nodup_map w.candidates_nodup
      (mem_candidates hc) (mem_candidates hc') hids
    exact ⟨heq ▸ haction, heq ▸ rfl⟩
  | torrent hmem _ hrow _ =>
    obtain ⟨-, hid', haction', hmedia⟩ := torrentRecommendation_eq_some hrow
    obtain ⟨torrentId, raw, mediaType, mediaId, hmem', hrow'⟩ := htorrent (htag.trans (idTag_torrent hid'))
    obtain ⟨-, hid'', haction'', hmedia'⟩ := torrentRecommendation_eq_some hrow'
    obtain rfl := PythonText.append_cancel (hid'.symm.trans (hid.trans hid''))
    have heq := (Dict.get?_eq_some_iff.mpr hmem).symm.trans (Dict.get?_eq_some_iff.mpr hmem')
    obtain ⟨rfl, rfl⟩ := Prod.mk.inj (Option.some.inj (Option.some.inj heq))
    exact ⟨by rw [haction'']; decide, hmedia'.trans hmedia.symm⟩
  | @graph g hg hready =>
    obtain ⟨g', rfl⟩ := hgraph (htag.trans (idTag_graph g))
    rw [readyRecommendation_id, readyRecommendation_id] at hid
    obtain ⟨htype, hrest⟩ := mediaTypeValue_append_inj (PythonText.append_cancel hid)
    have hids := PythonText.repr_injective (PythonText.append_cancel hrest)
    exact ⟨haction, Prod.ext (congrArg some htype.symm) (congrArg some hids.symm)⟩
  | other hother => exact absurd haction hother

/-! ## The whole list -/

theorem mem_producedRows_of_mem {row : Recommendation} (h : row ∈ recommendations py w) :
    row ∈ producedRows py w := by
  obtain ⟨id, hget⟩ := Dict.mem_values_iff.mp (List.mem_mergeSort.mp h)
  obtain ⟨_, hmem, -, rfl⟩ := Dict.of_get?_build hget
  exact hmem

theorem exists_recommendation_of_mem {row : Recommendation} (h : row ∈ producedRows py w) :
    ∃ row' ∈ recommendations py w, row'.id = row.id := by
  have hfind : ((producedRows py w).reverse.find? (some ·.id = some row.id)).isSome :=
    List.find?_isSome.mpr ⟨row, List.mem_reverse.mpr h, by simp⟩
  obtain ⟨row', hrow'⟩ := Option.isSome_iff_exists.mp hfind
  have hget : (uniqueById (producedRows py w)).get? row.id = some row' := by
    rw [uniqueById, Dict.get?_build, hrow', Option.map_some, id]
  refine ⟨row', List.mem_mergeSort.mpr (Dict.mem_values_iff.mpr ⟨row.id, hget⟩), ?_⟩
  simpa using List.find?_some hrow'

/-- The recommendations spare protected media exactly where all produced rows do. -/
theorem recommendations_spare_iff :
    (∀ row ∈ recommendations py w, row.action ∈ detachingActions → ¬protectedMedia w row.artworkMedia) ↔
      ∀ row ∈ producedRows py w, row.action ∈ detachingActions → ¬protectedMedia w row.artworkMedia := by
  constructor
  · intro h row hmem haction
    obtain ⟨row', hmem', hid⟩ := exists_recommendation_of_mem hmem
    obtain ⟨haction', hmedia⟩ := (produced_of_mem hmem).eq_of_id
      (produced_of_mem (mem_producedRows_of_mem hmem')) hid.symm haction
    rw [← hmedia]
    exact h row' hmem' haction'
  · intro h row hmem
    exact h row (mem_producedRows_of_mem hmem)

/-- No producer has a detaching row of protected media, and no protected movie or series has a
torrent. -/
structure SourcesSpare (py : OperationsCalls) (w : OperationsWorld) : Prop where
  planItems : ∀ item ∈ listedPlanItems w, item.action ∈ detachingActions →
    ¬protectedMedia w (planMedia py item)
  candidates : ∀ c ∈ listedCandidates w, precedingRows py w (candidateRecommendation w c) < 250 →
    ¬protectedMedia w (some (candidateMedia c).1, (candidateMedia c).2)
  torrents : ∀ torrentId mediaType mediaId row,
    (torrentId, some (mediaType, mediaId)) ∈ (correlatedTorrents py w).entries →
      torrentRecommendation torrentId (((rawById py w).get? torrentId).getD {})
        (some (mediaType, mediaId)) = some row →
      precedingRows py w row < 250 → ¬isProtected w mediaType mediaId
  graphs : ∀ g ∈ loadCorrelationGraphs w, readyToDetachGraph g →
    ¬isProtected w g.mediaType g.mediaId
  movies : ∀ movie ∈ w.tables.movies, movie.removedAt = none → isProtected w .movie movie.id →
    some (.movie, movie.id) ∉ (correlatedTorrents py w).values
  series : ∀ series ∈ w.tables.series, series.removedAt = none → isProtected w .series series.id →
    some (.series, series.id) ∉ (correlatedTorrents py w).values

/-- Nothing that the operations recommend detaches or deletes protected media. -/
def SparesProtected (py : OperationsCalls) (w : OperationsWorld) : Prop :=
  (∀ row ∈ recommendations py w, row.action ∈ detachingActions →
      ¬protectedMedia w row.artworkMedia) ∧
    ∀ write ∈ assetWrites w (correlatedTorrents py w).values,
      write.state.recommendation = some "detach_torrent" →
        ¬isProtected w write.mediaType write.mediaId

/-- The snapshot recommends to detach exactly the protected media with a torrent. -/
theorem assetState_detaches_iff (hasTorrent isProtected hasFiles : Bool) :
    (assetState hasTorrent isProtected hasFiles).recommendation = some "detach_torrent" ↔
      hasTorrent ∧ isProtected := by
  cases hasTorrent <;> cases isProtected <;> cases hasFiles <;> decide +kernel

theorem AssetWrite.mem_apply {write : AssetWrite} {assets : List MediaAsset} {asset : MediaAsset}
    (h : asset ∈ write.apply assets) :
    asset ∈ assets ∨ write.concerns asset = true ∧ asset.state = write.state := by
  unfold AssetWrite.apply at h
  by_cases hany : assets.any write.concerns = true
  · rw [if_pos hany] at h
    obtain ⟨old, hold, hasset⟩ := List.mem_map.mp h
    by_cases hconcerns : write.concerns old = true
    · rw [if_pos hconcerns] at hasset
      subst hasset
      exact .inr ⟨hconcerns, rfl⟩
    · rw [if_neg hconcerns] at hasset
      exact .inl (hasset ▸ hold)
  · rw [if_neg hany] at h
    rcases List.mem_append.mp h with h | h
    · exact .inl h
    · obtain rfl := List.mem_singleton.mp h
      refine .inr ⟨?_, rfl⟩
      cases hmedia : write.mediaType <;> simp [AssetWrite.concerns, hmedia]

/-- Every row after the snapshot is an old one or shows what was written for its media. -/
theorem mem_refreshMediaAssetsSnapshot {asset : MediaAsset}
    (h : asset ∈ refreshMediaAssetsSnapshot py w) :
    asset ∈ w.mediaAssets ∨ ∃ write ∈ assetWrites w (correlatedTorrents py w).values,
      write.concerns asset = true ∧ asset.state = write.state := by
  refine Loops.foldl_invariant (P := fun assets => ∀ asset ∈ assets, asset ∈ w.mediaAssets ∨
    ∃ write ∈ assetWrites w (correlatedTorrents py w).values,
      write.concerns asset = true ∧ asset.state = write.state) ?_ (fun _ hmem => .inl hmem) asset h
  intro write hwrite assets ih asset hmem
  rcases AssetWrite.mem_apply hmem with hold | hnew
  · exact ih asset hold
  · exact .inr ⟨write, hwrite, hnew⟩

theorem assetWrites_spare_iff (correlated : List (Option (MediaType × Nat))) :
    (∀ write ∈ assetWrites w correlated, write.state.recommendation = some "detach_torrent" →
        ¬isProtected w write.mediaType write.mediaId) ↔
      (∀ movie ∈ w.tables.movies, movie.removedAt = none → isProtected w .movie movie.id →
        some (.movie, movie.id) ∉ correlated) ∧
      ∀ series ∈ w.tables.series, series.removedAt = none → isProtected w .series series.id →
        some (.series, series.id) ∉ correlated := by
  unfold assetWrites
  simp only [List.mem_append, List.mem_map, List.mem_filter, Option.isNone_iff_eq_none, or_imp,
    forall_and]
  refine and_congr ?_ ?_
  · constructor
    · intro h movie hmovie hkept hprotected hmem
      exact h _ ⟨movie, ⟨hmovie, hkept⟩, rfl⟩
        ((assetState_detaches_iff _ _ _).mpr ⟨decide_eq_true hmem, hprotected⟩) hprotected
    · rintro h write ⟨movie, ⟨hmovie, hkept⟩, rfl⟩ hdetach hprotected
      exact h movie hmovie hkept hprotected
        (of_decide_eq_true ((assetState_detaches_iff _ _ _).mp hdetach).1)
  · constructor
    · intro h series hseries hkept hprotected hmem
      exact h _ ⟨series, ⟨hseries, hkept⟩, rfl⟩
        ((assetState_detaches_iff _ _ _).mpr ⟨decide_eq_true hmem, hprotected⟩) hprotected
    · rintro h write ⟨series, ⟨hseries, hkept⟩, rfl⟩ hdetach hprotected
      exact h series hseries hkept hprotected
        (of_decide_eq_true ((assetState_detaches_iff _ _ _).mp hdetach).1)

/-! ## What the producers list -/

theorem mem_producedRows_of_fallback {row : Recommendation} (hrow : row ∈ fallbackRows py w)
    (hkept : precedingRows py w row < 250) : row ∈ producedRows py w := by
  have hmem := mem_fallbackRecommendations_iff.mpr ⟨hrow, hkept⟩
  simp only [producedRows, List.mem_append]
  exact .inl (.inl (.inl (.inl (.inr hmem))))

theorem mem_fallbackRows {row : Recommendation}
    (h : row ∈ (listedCandidates w).map (candidateRecommendation w) ∨
      row ∈ torrentRecommendations py w) : row ∈ fallbackRows py w := by
  have hmem : row ∈ (listedCandidates w).map (candidateRecommendation w) ++
      (duplicateMovies w).map duplicateRecommendation ++ torrentRecommendations py w ++
      (artworkIssueAssets w).filterMap (artworkRecommendation w) := by
    simp only [List.mem_append]
    rcases h with h | h
    · exact .inl (.inl (.inl h))
    · exact .inl (.inr h)
  unfold fallbackRows
  simp only
  rwa [if_neg (List.ne_nil_of_mem hmem)]

/-- The produced rows spare protected media exactly where no source lists any. -/
theorem producedRows_spare_iff :
    (∀ row ∈ producedRows py w, row.action ∈ detachingActions → ¬protectedMedia w row.artworkMedia) ↔
      (∀ item ∈ listedPlanItems w, item.action ∈ detachingActions →
        ¬protectedMedia w (planMedia py item)) ∧
      (∀ c ∈ listedCandidates w, precedingRows py w (candidateRecommendation w c) < 250 →
        ¬protectedMedia w (some (candidateMedia c).1, (candidateMedia c).2)) ∧
      (∀ torrentId mediaType mediaId row,
        (torrentId, some (mediaType, mediaId)) ∈ (correlatedTorrents py w).entries →
          torrentRecommendation torrentId (((rawById py w).get? torrentId).getD {})
            (some (mediaType, mediaId)) = some row →
          precedingRows py w row < 250 → ¬isProtected w mediaType mediaId) ∧
      ∀ g ∈ loadCorrelationGraphs w, readyToDetachGraph g → ¬isProtected w g.mediaType g.mediaId := by
  constructor
  · intro h
    refine ⟨?_, ?_, ?_, ?_⟩
    · intro item hitem haction
      refine h (planRecommendation py w item) ?_ haction
      simp only [producedRows, List.mem_append]
      exact .inl (.inl (.inl (.inl (.inl (List.mem_map.mpr ⟨item, hitem, rfl⟩)))))
    · intro c hc hkept
      have hrow : candidateRecommendation w c ∈ fallbackRows py w :=
        mem_fallbackRows (.inl (List.mem_map.mpr ⟨c, hc, rfl⟩))
      exact h _ (mem_producedRows_of_fallback hrow hkept) (List.mem_cons_of_mem _ List.mem_cons_self)
    · intro torrentId mediaType mediaId row hmem hrow hkept
      obtain ⟨-, -, haction, hmedia⟩ := torrentRecommendation_eq_some hrow
      have hlisted := mem_fallbackRows (.inr (List.mem_filterMap.mpr ⟨_, hmem, hrow⟩))
      have hspare := h row (mem_producedRows_of_fallback hlisted hkept)
        (haction ▸ List.mem_cons_self)
      rwa [hmedia] at hspare
    · intro g hg hready
      refine h (readyRecommendation g) ?_ List.mem_cons_self
      simp only [producedRows, List.mem_append]
      exact .inl (.inr (List.mem_map.mpr ⟨g, List.mem_filter.mpr ⟨hg, hready⟩, rfl⟩))
  · rintro ⟨hplan, hcandidate, htorrent, hgraph⟩ row hmem haction
    cases produced_of_mem hmem with
    | @plan item hitem => exact hplan item hitem haction
    | @candidate c hc hkept => exact hcandidate c hc hkept
    | @torrent torrentId raw mediaType mediaId row hentry hraw hrow hkept =>
      subst hraw
      rw [(torrentRecommendation_eq_some hrow).2.2.2]
      exact htorrent torrentId mediaType mediaId row hentry hrow hkept
    | @graph g hg hready => exact hgraph g hg hready
    | other hother => exact absurd haction hother

/-- The operations spare protected media exactly where no source lists any. -/
theorem sparesProtected_iff (py : OperationsCalls) (w : OperationsWorld) :
    SparesProtected py w ↔ SourcesSpare py w := by
  rw [SparesProtected, recommendations_spare_iff, producedRows_spare_iff, assetWrites_spare_iff]
  constructor
  · rintro ⟨⟨hplan, hcandidate, htorrent, hgraph⟩, hmovies, hseries⟩
    exact ⟨hplan, hcandidate, htorrent, hgraph, hmovies, hseries⟩
  · intro h
    exact ⟨⟨h.planItems, h.candidates, h.torrents, h.graphs⟩, h.movies, h.series⟩

/-! ## A protected movie -/

/-- The functions on ASCII texts. -/
def asciiCalls : OperationsCalls where
  lower := PythonText.asciiLower
  upper := id
  str _ := ""
  int _ := none
  sha1 := id
  digits _ := none
  castInteger _ := 0

/-- A protected movie with a file and a candidate, and a torrent that seeds its folder. -/
def protectedMovie : OperationsWorld where
  tables :=
    { movies := [{ id := 5, tmdbId := 949, title := "Heat" }]
      movieVersions := [{ id := 1, movieId := 5, service := .plex, serviceItemId := "1"
                          serviceMediaId := "1", path := some "/media/movies/Heat (1995)/Heat.mkv" }]
      candidates := [{ id := 7, mediaType := .movie, movieId := some 5, estimatedSpaceBytes := some 2000 }]
      protectedMedia := [{ id := 1, mediaType := .movie, movieId := some 5 }] }
  torrents := [some { hash := some "c12fe1c0", name := some "Heat 1995", state := some "uploading"
                      savePath := some "/media/movies/Heat (1995)" }]
  resolveTorrentArtwork _ := some (.movie, 5)

/-- The candidate of the protected movie is recommended for deletion, and the snapshot recommends to
detach its torrent. -/
theorem not_sparesProtected :
    isProtected protectedMovie .movie 5 = true ∧
      (recommendations asciiCalls protectedMovie).map
        (fun row => (row.id, row.action, row.artworkMedia)) =
          [("candidate:7", "delete_files", (some .movie, some 5))] ∧
      (assetWrites protectedMovie (correlatedTorrents asciiCalls protectedMovie).values).map
        (fun write => (write.mediaType, write.mediaId, write.state.recommendation)) =
          [(.movie, 5, some "detach_torrent")] ∧
      ¬SparesProtected asciiCalls protectedMovie := by
  refine ⟨by decide +kernel, by decide +kernel, by decide +kernel, fun h => ?_⟩
  have hrow : ∃ row ∈ recommendations asciiCalls protectedMovie, row.action ∈ detachingActions ∧
      protectedMedia protectedMovie row.artworkMedia := by decide +kernel
  obtain ⟨row, hmem, haction, hprotected⟩ := hrow
  exact h.1 row hmem haction hprotected

end MediaMasterr.Mie.OperationsService
