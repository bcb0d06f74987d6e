import Mathlib.Data.List.Dedup
import MediaMasterr.Mie.ProtectedRecommendations
import MediaMasterr.Mie.WorkflowBoard

/-! # Every asset of the workflow board once

An issue of the intelligence run comes to the board twice: as the recommendation
that it was turned into, and as the issue. The downloads and all other
recommendations come once, so the ids of the assets differ exactly where the run
has no issues. -/

namespace MediaMasterr.Mie.OperationsService

open MediaMasterr.Foundations MediaMasterr.Database

variable {py : OperationsCalls}

/-- The asset is on the board, and it is the only one there with its id. -/
def IsOnly (board : OperationsWorkflowBoard) (asset : OperationsWorkflowAsset) : Prop :=
  board.assets.filter (·.id = asset.id) = [asset]

/-- Every asset is on the board once, and the counts are right. -/
structure AssetsOnce (py : OperationsCalls) (recommendations : List Recommendation)
    (issues : List OperationsIssue) (downloads : List WorkflowDownload)
    (board : OperationsWorkflowBoard) : Prop where
  ids_nodup : (board.assets.map (·.id)).Nodup
  stage_count : ∀ stage ∈ board.stages, stage.count = stage.assets.length
  download_once : ∀ row ∈ downloads, IsOnly board (downloadAsset row)
  recommendation_once : ∀ item ∈ recommendations, ¬forListedDownload downloads item →
    IsOnly board (recommendationAsset py item)
  issue_once : ∀ issue ∈ issues, IsOnly board (issueAsset issue)
  filter_count : ∀ filter ∈ board.filters,
    filter.count = board.assets.countP (filter.key ∈ ·.filters)

/-! ## What is on the board -/

section Board

variable (py) (recommendations : List Recommendation) (issues : List OperationsIssue)
  (downloads : List WorkflowDownload)

/-- The assets in the order in which the loops append them. -/
def appendedAssets : List OperationsWorkflowAsset :=
  downloads.map downloadAsset ++
    (recommendations.filter (!forListedDownload downloads ·)).map (recommendationAsset py) ++
    issues.map issueAsset

theorem stageAssets_apply (stage : WorkflowStageKey) :
    stageAssets py recommendations issues downloads stage =
      (appendedAssets py recommendations issues downloads).filter (·.currentStage = stage) := by
  have hskip : ∀ (assets : Buckets WorkflowStageKey OperationsWorkflowAsset),
      recommendations.foldl (fun assets item =>
        if forListedDownload downloads item then assets
        else assets.append (stageForRecommendation py item) (recommendationAsset py item)) assets =
      (recommendations.filter (!forListedDownload downloads ·)).foldl (fun assets item =>
        assets.append (stageForRecommendation py item) (recommendationAsset py item)) assets := by
    intro assets
    rw [List.foldl_filter]
    congr 1
    funext assets item
    by_cases hlisted : forListedDownload downloads item <;> simp [hlisted]
  rw [stageAssets, hskip]
  simp only [Buckets.foldl_append_apply, Buckets.empty_apply, List.nil_append, appendedAssets,
    List.filter_append, List.filter_map]
  rfl

theorem workflowStageMeta_keys (stage : WorkflowStageKey) :
    stage ∈ workflowStageMeta.map Prod.fst := by
  cases stage <;> decide

/-- The stages hold all appended assets. -/
theorem assets_perm : (buildWorkflowBoard py recommendations issues downloads).assets.Perm
    (appendedAssets py recommendations issues downloads) := by
  have hstages : (buildWorkflowBoard py recommendations issues downloads).assets =
      workflowStageMeta.flatMap fun stage =>
        (stageAssets py recommendations issues downloads stage.1).mergeSort (assetPrecedes py) := by
    simp only [OperationsWorkflowBoard.assets, buildWorkflowBoard, boardStages, List.flatMap_map]
  have hsorted : (workflowStageMeta.flatMap fun stage =>
      (stageAssets py recommendations issues downloads stage.1).mergeSort (assetPrecedes py)).Perm
        ((workflowStageMeta.map Prod.fst).flatMap fun stage =>
          (appendedAssets py recommendations issues downloads).filter
            (·.currentStage = stage)) := by
    rw [List.flatMap_map]
    refine List.Perm.flatMap_left _ fun stage _ => ?_
    rw [← stageAssets_apply]
    exact List.mergeSort_perm _ _
  rw [hstages]
  exact hsorted.trans (Buckets.flatMap_filter_perm OperationsWorkflowAsset.currentStage (by decide)
    fun asset _ => workflowStageMeta_keys asset.currentStage)

theorem mem_assets_iff {asset : OperationsWorkflowAsset} :
    asset ∈ (buildWorkflowBoard py recommendations issues downloads).assets ↔
      (∃ row ∈ downloads, downloadAsset row = asset) ∨
      (∃ item ∈ recommendations, forListedDownload downloads item = false ∧
        recommendationAsset py item = asset) ∨
      ∃ issue ∈ issues, issueAsset issue = asset := by
  rw [(assets_perm py recommendations issues downloads).mem_iff]
  simp only [appendedAssets, List.mem_append, List.mem_map, List.mem_filter, Bool.not_eq_true',
    or_assoc, and_assoc]

/-! ## The counts -/

theorem sortedFilters_nodup (filters : List WorkflowFilterKey) : (sortedFilters filters).Nodup :=
  (List.mergeSort_perm _ _).nodup_iff.mpr (List.nodup_dedup filters)

theorem filters_nodup {asset : OperationsWorkflowAsset}
    (h : asset ∈ (buildWorkflowBoard py recommendations issues downloads).assets) :
    asset.filters.Nodup := by
  rcases (mem_assets_iff py recommendations issues downloads).mp h with
    ⟨row, -, rfl⟩ | ⟨item, -, -, rfl⟩ | ⟨issue, -, rfl⟩
  · exact List.nodup_singleton _
  · exact sortedFilters_nodup _
  · exact sortedFilters_nodup _

theorem filterCounts_eq (stages : List OperationsWorkflowStage) (key : WorkflowFilterKey) :
    filterCounts stages key = ((stages.flatMap (·.assets)).flatMap (·.filters)).count key := by
  have hfold : filterCounts stages =
      ((stages.flatMap (·.assets)).flatMap (·.filters)).foldl tally fun _ => 0 := by
    simp only [filterCounts, List.foldl_flatMap]
  rw [hfold, foldl_tally_apply, Nat.zero_add]

/-- The count of a filter is the number of assets that carry it. -/
theorem filter_count {filter : OperationsWorkflowFilter}
    (h : filter ∈ (buildWorkflowBoard py recommendations issues downloads).filters) :
    filter.count = (buildWorkflowBoard py recommendations issues downloads).assets.countP
      (filter.key ∈ ·.filters) := by
  obtain ⟨entry, -, rfl⟩ := List.mem_map.mp (List.mem_mergeSort.mp h)
  refine (filterCounts_eq _ entry.1).trans ?_
  exact count_flatMap_labels OperationsWorkflowAsset.filters
    (fun asset => filters_nodup py recommendations issues downloads) entry.1

/-- The count of a stage is the number of its assets. -/
theorem stage_count {stage : OperationsWorkflowStage}
    (h : stage ∈ (buildWorkflowBoard py recommendations issues downloads).stages) :
    stage.count = stage.assets.length := by
  obtain ⟨entry, -, rfl⟩ := List.mem_map.mp h
  rfl

/-- On a board whose ids differ every asset is there once. -/
theorem assetsOnce_of_nodup
    (h : ((appendedAssets py recommendations issues downloads).map (·.id)).Nodup) :
    AssetsOnce py recommendations issues downloads
      (buildWorkflowBoard py recommendations issues downloads) := by
  have hids := ((assets_perm py recommendations issues downloads).map (·.id)).nodup_iff.mpr h
  have honly : ∀ asset ∈ (buildWorkflowBoard py recommendations issues downloads).assets,
      IsOnly (buildWorkflowBoard py recommendations issues downloads) asset :=
    fun asset hasset => filter_key_eq_singleton hids hasset
  have hmem := fun {asset} => (@mem_assets_iff py recommendations issues downloads asset).mpr
  exact
    { ids_nodup := hids
      stage_count := fun _ => stage_count py recommendations issues downloads
      download_once := fun row hrow => honly _ (hmem (.inl ⟨row, hrow, rfl⟩))
      recommendation_once := fun item hitem hlisted =>
        honly _ (hmem (.inr (.inl ⟨item, hitem, by simpa using hlisted, rfl⟩)))
      issue_once := fun issue hissue => honly _ (hmem (.inr (.inr ⟨issue, hissue, rfl⟩)))
      filter_count := fun _ => filter_count py recommendations issues downloads }

end Board

/-! ## The ids of the recommendations -/

section Ids

variable {w : OperationsWorld}

/-- The tags of the producers whose rows the board may have from another source. -/
def boardTags : List String := ["issue", "download"]

theorem notMem_boardTags {row : Recommendation} {p x : String} (hid : row.id = p ++ x)
    (hcolon : ':' ∈ p.toList) (htag : PythonText.beforeFirst ':' p ∉ boardTags) :
    idTag row ∉ boardTags := by
  rwa [idTag_of_id hid hcolon rfl]

theorem issueRecommendation_id (graph : CorrelationGraph) (issue : DetectedIssue) :
    (issueRecommendation graph issue).id = "issue:" ++ (operationsIssue graph issue).key := by
  simp only [issueRecommendation, operationsIssue, String.append_assoc]

/-- The row of a download has its path in the id and as target. -/
theorem downloadRecommendation_eq_some {item : DownloadLifecycleObject} {row : Recommendation}
    (h : downloadRecommendation item = some row) : row.id = "download:" ++ item.path ∧
      row.targetType = "download_object" ∧ row.targetId = some item.path := by
  unfold downloadRecommendation at h
  by_cases hnone : item.cleanupClassification = .none
  · simp [hnone] at h
  · rw [if_neg hnone] at h
    obtain rfl := Option.some.inj h
    exact ⟨rfl, rfl, rfl⟩

/-- A row is that of an issue or of a download, or its id has another tag. -/
theorem producedRows_cases {row : Recommendation} (h : row ∈ producedRows py w) :
    (∃ graph issue, row = issueRecommendation graph issue) ∨
      (∃ item, downloadRecommendation item = some row) ∨ idTag row ∉ boardTags := by
  cases rowSource_of_mem h with
  | plan =>
    exact .inr (.inr (notMem_boardTags (p := "plan-item:") rfl (by decide) (by decide)))
  | healthy => exact .inr (.inr (by decide))
  | candidate =>
    exact .inr (.inr (notMem_boardTags (p := "candidate:") rfl (by decide) (by decide)))
  | duplicate =>
    exact .inr (.inr (notMem_boardTags (p := "duplicate_release:movie:") rfl (by decide)
      (by decide)))
  | @torrent torrentId media _ _ hrow =>
    cases media with
    | none =>
      obtain rfl := Option.some.inj hrow
      exact .inr (.inr (notMem_boardTags (p := "orphan_torrent:") rfl (by decide)
        (by decide)))
    | some media =>
      exact .inr (.inr (notMem_boardTags (torrentRecommendation_eq_some hrow).2.1 (by decide)
        (by decide)))
  | artwork hrow =>
    obtain ⟨media, -, rfl⟩ := Option.map_eq_some_iff.mp hrow
    exact .inr (.inr (notMem_boardTags (p := "artwork_issue:") rfl (by decide) (by decide)))
  | @issue graph issue => exact .inl ⟨graph, issue, rfl⟩
  | detached graph =>
    exact .inr (.inr (notMem_boardTags (detachedRecommendation_id graph) (by decide)
      (by decide)))
  | ready =>
    exact .inr (.inr (notMem_boardTags (readyRecommendation_id _) (by decide) (by decide)))
  | download hrow => exact .inr (.inl ⟨_, hrow⟩)

theorem idTag_issue {row : Recommendation} {key : String} (h : row.id = "issue:" ++ key) :
    idTag row = "issue" := idTag_of_id h (by decide) (by decide)

theorem idTag_download {row : Recommendation} {path : String} (h : row.id = "download:" ++ path) :
    idTag row = "download" := idTag_of_id h (by decide) (by decide)

/-- A recommendation with the id of a listed download is for that download. -/
theorem forListedDownload_of_id {downloads : List WorkflowDownload} {d : WorkflowDownload}
    (hd : d ∈ downloads) {row : Recommendation} (h : row ∈ producedRows py w)
    (hid : row.id = (downloadAsset d).id) : forListedDownload downloads row = true := by
  have htag := idTag_download hid
  rcases producedRows_cases h with ⟨graph, issue, rfl⟩ | ⟨item, hitem⟩ | hother
  · rw [idTag_issue (issueRecommendation_id graph issue)] at htag
    exact absurd htag (by decide)
  · obtain ⟨hid', htype, htarget⟩ := downloadRecommendation_eq_some hitem
    have hpath : item.path = d.path := PythonText.append_cancel (hid'.symm.trans hid)
    have hany : downloads.any (fun d' => decide (some d'.path = some item.path)) = true :=
      List.any_eq_true.mpr ⟨d, hd, decide_eq_true (congrArg some hpath.symm)⟩
    rw [forListedDownload, htype, htarget, hany]
    rfl
  · exact absurd (htag ▸ List.mem_cons_of_mem _ List.mem_cons_self) hother

/-- A recommendation with the id of an issue is for no download. -/
theorem not_forListedDownload_of_id {downloads : List WorkflowDownload} {row : Recommendation}
    (h : row ∈ producedRows py w) {key : String} (hid : row.id = "issue:" ++ key) :
    forListedDownload downloads row = false := by
  have htag := idTag_issue hid
  rcases producedRows_cases h with ⟨graph, issue, rfl⟩ | ⟨item, hitem⟩ | hother
  · have htype : mediaTypeValue graph.mediaType ≠ "download_object" := by
      cases graph.mediaType <;> decide
    simp [forListedDownload, issueRecommendation, htype]
  · rw [idTag_download (downloadRecommendation_eq_some hitem).1] at htag
    exact absurd htag (by decide)
  · exact absurd (htag ▸ List.mem_cons_self) hother

/-- The rows of the dictionary are under their ids. -/
theorem uniqueById_ids (rows : List Recommendation) :
    (uniqueById rows).values.map (·.id) = (uniqueById rows).keys := by
  rw [Dict.values, Dict.keys, List.map_map]
  refine List.map_congr_left fun e he => ?_
  obtain ⟨_, -, hkey, hvalue⟩ := Dict.of_get?_build (Dict.get?_eq_some_iff.mpr he)
  exact (congrArg (·.id) hvalue).symm.trans (Option.some.inj hkey)

theorem recommendations_ids_nodup : ((recommendations py w).map (·.id)).Nodup := by
  have hperm := (List.mergeSort_perm (uniqueById (producedRows py w)).values
    (rowPrecedes py)).map (·.id)
  exact hperm.nodup_iff.mpr (uniqueById_ids (producedRows py w) ▸ (uniqueById _).nodup)

/-- Every issue of the run is among the recommendations. -/
theorem exists_recommendation_of_issue {issue : OperationsIssue}
    (h : issue ∈ intelligenceIssues py w) :
    ∃ row ∈ recommendations py w, row.id = (issueAsset issue).id := by
  obtain ⟨graph, hgraph, hissue⟩ := List.mem_flatMap.mp h
  obtain ⟨detected, hdetected, rfl⟩ := List.mem_map.mp hissue
  have hproduced : issueRecommendation graph detected ∈ producedRows py w := by
    simp only [producedRows, List.mem_append]
    exact .inl (.inl (.inl (.inr
      (List.mem_flatMap.mpr ⟨graph, hgraph, List.mem_map.mpr ⟨detected, hdetected, rfl⟩⟩))))
  obtain ⟨row, hrow, hid⟩ := exists_recommendation_of_mem hproduced
  exact ⟨row, hrow, hid.trans (issueRecommendation_id graph detected)⟩

end Ids

/-! ## The board of the workspace -/

section Workspace

variable (py) (w : WorkspaceWorld)

theorem listedDownloads_ids_nodup : ((listedDownloads w).map (downloadAsset ·|>.id)).Nodup := by
  have hpaths : ((listedDownloads w).map (·.path)).Nodup :=
    (((List.mergeSort_perm w.downloadItems _).map (·.path)).nodup_iff.mpr w.paths_nodup).sublist
      ((List.take_sublist 500 _).map _)
  rw [show (fun row => (downloadAsset row).id) = ("download:" ++ ·) ∘ (·.path) from rfl,
    ← List.map_map]
  exact hpaths.map fun _ _ => PythonText.append_cancel

/-- Without issues the ids of the downloads and of the other recommendations all differ. -/
theorem appended_ids_nodup : ((appendedAssets py (recommendations py w.toOperationsWorld) []
    (listedDownloads w)).map (·.id)).Nodup := by
  simp only [appendedAssets, List.map_nil, List.append_nil, List.map_append, List.map_map]
  refine List.Nodup.append (listedDownloads_ids_nodup w) ?_ ?_
  · exact recommendations_ids_nodup.sublist (List.filter_sublist.map _)
  · intro id hdownload hrow
    obtain ⟨d, hd, rfl⟩ := List.mem_map.mp hdownload
    obtain ⟨row, hrow, hid⟩ := List.mem_map.mp hrow
    obtain ⟨hmem, hskip⟩ := List.mem_filter.mp hrow
    have hlisted := forListedDownload_of_id hd (mem_producedRows_of_mem hmem) hid
    simp [hlisted] at hskip

/-- An issue is on the board as a recommendation too. -/
theorem appended_ids_not_nodup {issue : OperationsIssue}
    (h : issue ∈ intelligenceIssues py w.toOperationsWorld) :
    ¬((appendedAssets py (recommendations py w.toOperationsWorld)
      (intelligenceIssues py w.toOperationsWorld) (listedDownloads w)).map (·.id)).Nodup := by
  intro hnodup
  obtain ⟨row, hrow, hid⟩ := exists_recommendation_of_issue h
  have hkept : forListedDownload (listedDownloads w) row = false :=
    not_forListedDownload_of_id (mem_producedRows_of_mem hrow) hid
  rw [appendedAssets, List.map_append, List.map_append, List.append_assoc] at hnodup
  have hrest := (List.nodup_append.mp hnodup).2.1
  refine (List.nodup_append.mp hrest).2.2 row.id ?_ (issueAsset issue).id ?_ hid
  · exact List.mem_map.mpr ⟨_, List.mem_map.mpr ⟨row, List.mem_filter.mpr ⟨hrow, by simp [hkept]⟩,
      rfl⟩, rfl⟩
  · exact List.mem_map.mpr ⟨_, List.mem_map.mpr ⟨issue, h, rfl⟩, rfl⟩

/-- Every asset is on the board once exactly where the run has no issues. -/
theorem assetsOnce_iff : AssetsOnce py (recommendations py w.toOperationsWorld)
      (intelligenceIssues py w.toOperationsWorld) (listedDownloads w) (workspaceBoard py w) ↔
    intelligenceIssues py w.toOperationsWorld = [] := by
  constructor
  · intro h
    refine List.eq_nil_iff_forall_not_mem.mpr fun issue hissue => ?_
    exact appended_ids_not_nodup py w hissue
      (((assets_perm py _ _ _).map (·.id)).nodup_iff.mp h.ids_nodup)
  · intro hnone
    rw [workspaceBoard, hnone]
    exact assetsOnce_of_nodup py _ _ _ (appended_ids_nodup py w)

end Workspace

/-! ## A movie without artwork -/

/-- A movie whose graph has no poster. -/
def posterlessMovie : WorkspaceWorld where
  graphSubjects := [(.movie, 5)]
  mediaGraph _ _ := some
    { mediaType := .movie, mediaId := 5, title := "Heat", requestState := "available" }
  planItems := []
  planItems_nodup := List.nodup_nil

/-- The artwork gap of the movie is twice on the board. -/
theorem not_assetsOnce_posterlessMovie :
    (intelligenceIssues asciiCalls posterlessMovie.toOperationsWorld).map (·.key) =
        ["movie-5:artwork_gap"] ∧
      (workspaceBoard asciiCalls posterlessMovie).assets.countP
        (·.id = "issue:movie-5:artwork_gap") = 2 ∧
      ¬AssetsOnce asciiCalls (recommendations asciiCalls posterlessMovie.toOperationsWorld)
        (intelligenceIssues asciiCalls posterlessMovie.toOperationsWorld)
        (listedDownloads posterlessMovie) (workspaceBoard asciiCalls posterlessMovie) := by
  refine ⟨by decide +kernel, ?_, fun h => ?_⟩
  · rw [workspaceBoard, (assets_perm asciiCalls _ _ _).countP_eq, appendedAssets,
      List.countP_append, List.countP_append, List.countP_map, List.countP_map, List.countP_filter,
      recommendations, (List.mergeSort_perm _ _).countP_eq]
    decide +kernel
  · have hissue : ∃ issue, issue ∈
        intelligenceIssues asciiCalls posterlessMovie.toOperationsWorld :=
      List.exists_mem_of_ne_nil _ (by decide +kernel)
    obtain ⟨issue, hissue⟩ := hissue
    exact appended_ids_not_nodup asciiCalls posterlessMovie hissue
      (((assets_perm asciiCalls _ _ _).map (·.id)).nodup_iff.mp h.ids_nodup)

end MediaMasterr.Mie.OperationsService
