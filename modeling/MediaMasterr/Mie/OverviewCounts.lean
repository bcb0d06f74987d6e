import MediaMasterr.Foundations.Buckets
import MediaMasterr.Mie.ProtectedRecommendations

/-! # The cards of the overview

`OperationsService._graph_overview_counts` counts what other methods list, by
conditions of its own. The cards of the issues agree with the list on all graphs;
the two cards of the torrents and the list agree under exact conditions on the
graphs. -/

namespace MediaMasterr.Mie.OperationsService

open MediaMasterr.Foundations MediaMasterr.Database

variable (py : OperationsCalls)

/-! ## The counts -/

/-- The graph has a torrent in one of the states. -/
def CorrelationGraph.inState (graph : CorrelationGraph) (states : List String) : Bool :=
  graph.torrents.any (·.computedState ∈ states)

/-- `issue_counts`: the number of issues of a type. -/
def issueCount (graphs : List CorrelationGraph) (issueType : String) : Nat :=
  (graphs.flatMap (detectIssues py)).countP (·.issueType = issueType)

/-- The test of the overview for graphs that are ready to detach. -/
def countedReady (graph : CorrelationGraph) : Bool :=
  graph.inState ["completed", "seeding", "imported"]

/-- The test of the overview for detached media. -/
def countedDetached (graph : CorrelationGraph) : Bool :=
  graph.torrents.isEmpty && graph.missingFiles = 0

/-- `_graph_overview_counts`, for the graphs and the issues of one run. -/
def graphOverviewCounts (candidates : List ReclaimCandidate) (graphs : List CorrelationGraph) :
    List (String × Nat) :=
  [("downloading", graphs.countP (·.inState ["downloading", "queued", "waiting"])),
    ("import_pending", issueCount py graphs "missing_request"),
    ("ready_to_detach", graphs.countP countedReady),
    ("protected_seeding", 0),
    ("detached_media", graphs.countP countedDetached),
    ("orphaned_torrents", 0),
    ("orphaned_files", 0),
    ("broken_imports", issueCount py graphs "failed_import" +
      issueCount py graphs "filesystem_inconsistency"),
    ("unknown_files", issueCount py graphs "artwork_gap"),
    ("duplicate_releases", 0),
    ("duplicate_torrents", 0),
    ("empty_folders", 0),
    ("leftover_files", 0),
    ("space_recovery", (candidates.map fun c => c.estimatedSpaceBytes.getD 0).sum),
    ("identity_issues", issueCount py graphs "duplicate_identity")]

/-- The cards that count issues. -/
def issueCards : List String :=
  ["import_pending", "broken_imports", "unknown_files", "identity_issues"]

/-- The cards count what the list shows, and no graph is listed as detached and as ready to
detach. -/
structure CardsCountLists (counts : List (String × Nat)) (graphs : List CorrelationGraph) :
    Prop where
  ready : counts.lookup "ready_to_detach" = some (readyToDetachGraphRecommendations graphs).length
  detached : counts.lookup "detached_media" = some (detachedMediaRecommendations graphs).length
  issues : ∀ card ∈ issueCards,
    counts.lookup card = some ((graphIssueRecommendations py graphs).countP (·.cardKey = card))
  listed_once : ∀ graph ∈ graphs, ¬(isDetached graph ∧ readyToDetachGraph graph)

/-! ## The cards of the issues -/

/-- The items of a card are those whose issue has a type of the card. -/
theorem countP_cardKey (graphs : List CorrelationGraph) (card : String) (types : List String)
    (h : ∀ kind ∈ issueKinds, issueToCard kind.1 = card ↔ kind.1 ∈ types) :
    (graphIssueRecommendations py graphs).countP (·.cardKey = card) =
      (graphs.flatMap (detectIssues py)).countP (·.issueType ∈ types) := by
  rw [graphIssueRecommendations, List.countP_flatMap, List.countP_flatMap]
  refine congrArg List.sum (List.map_congr_left fun graph _ => ?_)
  rw [Function.comp, List.countP_map]
  refine List.countP_congr fun issue hissue => ?_
  simpa [issueRecommendation] using h _ (issue_kind hissue)

theorem issueCard_counts (candidates : List ReclaimCandidate) (graphs : List CorrelationGraph)
    {card : String} (hcard : card ∈ issueCards) :
    (graphOverviewCounts py candidates graphs).lookup card =
      some ((graphIssueRecommendations py graphs).countP (·.cardKey = card)) := by
  simp only [issueCards, List.mem_cons, List.not_mem_nil, or_false] at hcard
  rcases hcard with rfl | rfl | rfl | rfl
  · rw [countP_cardKey py graphs _ ["missing_request"] (by decide)]
    simp only [List.mem_singleton]
    rfl
  · rw [countP_cardKey py graphs _ ["failed_import", "filesystem_inconsistency"] (by decide)]
    have hsplit : (graphs.flatMap (detectIssues py)).countP
        (·.issueType ∈ ["failed_import", "filesystem_inconsistency"]) =
          issueCount py graphs "failed_import" +
            issueCount py graphs "filesystem_inconsistency" := by
      rw [countP_add_countP_not _ fun issue => decide (issue.issueType = "failed_import")]
      refine congrArg₂ _ (List.countP_congr fun issue _ => ?_)
        (List.countP_congr fun issue _ => ?_)
      · by_cases h : issue.issueType = "failed_import" <;> simp [h]
      · by_cases h : issue.issueType = "failed_import" <;> simp [h]
    rw [hsplit]
    rfl
  · rw [countP_cardKey py graphs _ ["artwork_gap"] (by decide)]
    simp only [List.mem_singleton]
    rfl
  · rw [countP_cardKey py graphs _ ["duplicate_identity"] (by decide)]
    simp only [List.mem_singleton]
    rfl

/-! ## The cards of the torrents -/

/-- The library files of the graph are there. -/
def CorrelationGraph.filesComplete (graph : CorrelationGraph) : Bool :=
  graph.missingFiles ≤ 0 && 0 < graph.totalSizeBytes

/-- No torrent of the graph is active. -/
def CorrelationGraph.idle (graph : CorrelationGraph) : Bool :=
  !graph.inState ["downloading", "queued", "waiting", "seeding"]

/-- When the cards count what the list shows. -/
structure CountedAsListed (graphs : List CorrelationGraph) : Prop where
  /-- A graph with a finished transfer misses no file. -/
  finished : ∀ graph ∈ graphs, graph.inState ["completed", "seeding", "imported"] →
    graph.missingFiles ≤ 0
  /-- There are as many graphs without torrents, missing files and bytes as graphs that have their
  files and only idle torrents. -/
  balanced : graphs.countP (fun graph => graph.torrents.isEmpty && graph.missingFiles = 0 &&
      !graph.filesComplete) =
    graphs.countP (fun graph => graph.filesComplete && graph.idle &&
      !(graph.torrents.isEmpty && graph.missingFiles = 0))
  /-- A graph with all files and a completed or imported torrent has an active one too. -/
  active : ∀ graph ∈ graphs, graph.filesComplete → graph.inState ["completed", "imported"] →
    ¬graph.idle

theorem isDetached_eq (graph : CorrelationGraph) :
    isDetached graph = (graph.filesComplete && graph.idle) := by
  rw [isDetached, CorrelationGraph.idle, CorrelationGraph.filesComplete, CorrelationGraph.inState,
    Bool.and_assoc, Bool.and_comm]

theorem readyToDetachGraph_eq (graph : CorrelationGraph) :
    readyToDetachGraph graph = (countedReady graph && graph.missingFiles ≤ 0) := rfl

/-- The card of the graphs that are ready to detach is that of the list when none of those it counts
misses a file. -/
theorem ready_count_iff (graphs : List CorrelationGraph) :
    graphs.countP countedReady = (readyToDetachGraphRecommendations graphs).length ↔
      ∀ graph ∈ graphs, graph.inState ["completed", "seeding", "imported"] →
        graph.missingFiles ≤ 0 := by
  rw [readyToDetachGraphRecommendations, List.length_map, ← List.countP_eq_length_filter,
    countP_eq_countP_iff]
  have hnone :
      graphs.countP (fun graph => readyToDetachGraph graph && !countedReady graph) = 0 := by
    refine List.countP_eq_zero.mpr fun graph _ => ?_
    rw [readyToDetachGraph_eq]
    cases countedReady graph <;> simp
  rw [hnone, List.countP_eq_zero]
  refine forall₂_congr fun graph _ => ?_
  rw [readyToDetachGraph_eq, ← countedReady]
  cases countedReady graph <;> simp

/-- The card of the detached media is that of the list when as many graphs are only counted as are
only listed. -/
theorem detached_count_iff (graphs : List CorrelationGraph) :
    graphs.countP countedDetached = (detachedMediaRecommendations graphs).length ↔
      graphs.countP (fun graph => graph.torrents.isEmpty && graph.missingFiles = 0 &&
          !graph.filesComplete) =
        graphs.countP (fun graph => graph.filesComplete && graph.idle &&
          !(graph.torrents.isEmpty && graph.missingFiles = 0)) := by
  rw [detachedMediaRecommendations, List.length_map, ← List.countP_eq_length_filter,
    countP_eq_countP_iff]
  have honly : graphs.countP (fun graph => countedDetached graph && !isDetached graph) =
      graphs.countP fun graph => graph.torrents.isEmpty && graph.missingFiles = 0 &&
        !graph.filesComplete := by
    refine List.countP_congr fun graph _ => ?_
    rw [isDetached_eq, countedDetached]
    cases htorrents : graph.torrents with
    | nil => simp [CorrelationGraph.idle, CorrelationGraph.inState, htorrents]
    | cons torrent torrents => simp
  rw [honly]
  simp only [isDetached_eq, countedDetached]

/-- A graph is listed twice when it has its files, a completed or imported torrent and no active
one. -/
theorem listed_once_iff (graph : CorrelationGraph) :
    ¬(isDetached graph ∧ readyToDetachGraph graph) ↔
      (graph.filesComplete → graph.inState ["completed", "imported"] → ¬graph.idle) := by
  have hstates : graph.idle →
      (countedReady graph ↔ graph.inState ["completed", "imported"]) := by
    intro hidle
    simp only [countedReady, CorrelationGraph.inState, List.any_eq_true, decide_eq_true_eq]
    refine exists_congr fun torrent => and_congr_right fun hmem => ?_
    have hseeding : torrent.computedState ≠ "seeding" := by
      rintro hstate
      simp only [CorrelationGraph.idle, CorrelationGraph.inState, Bool.not_eq_true',
        List.any_eq_false] at hidle
      simpa [hstate] using hidle torrent hmem
    simp [hseeding]
  rw [isDetached_eq, readyToDetachGraph_eq]
  simp only [Bool.and_eq_true, decide_eq_true_eq]
  constructor
  · intro h hfiles hstate hidle
    have hmissing : graph.missingFiles ≤ 0 := by
      simp only [CorrelationGraph.filesComplete, Bool.and_eq_true, decide_eq_true_eq] at hfiles
      exact hfiles.1
    exact h ⟨⟨hfiles, hidle⟩, (hstates hidle).mpr hstate, hmissing⟩
  · rintro h ⟨⟨hfiles, hidle⟩, hready, -⟩
    exact h hfiles ((hstates hidle).mp hready) hidle

/-- The cards count what the list shows exactly under the conditions on the graphs. -/
theorem cardsCountLists_iff (candidates : List ReclaimCandidate) (graphs : List CorrelationGraph) :
    CardsCountLists py (graphOverviewCounts py candidates graphs) graphs ↔
      CountedAsListed graphs := by
  constructor
  · intro h
    exact
      { finished := (ready_count_iff graphs).mp (Option.some.inj h.ready)
        balanced := (detached_count_iff graphs).mp (Option.some.inj h.detached)
        active := fun graph hgraph => (listed_once_iff graph).mp (h.listed_once graph hgraph) }
  · intro h
    exact
      { ready := congrArg some ((ready_count_iff graphs).mpr h.finished)
        detached := congrArg some ((detached_count_iff graphs).mpr h.balanced)
        issues := fun _ => issueCard_counts py candidates graphs
        listed_once := fun graph hgraph => (listed_once_iff graph).mpr (h.active graph hgraph) }

/-! ## An imported movie -/

/-- The graph of a movie with its file, whose torrent is completed. -/
def completedMovie : CorrelationGraph where
  mediaType := .movie
  mediaId := 5
  title := "Heat"
  torrents := [{ computedState := "completed" }]
  mediaFiles := 1
  totalSizeBytes := 2000
  requestState := "available"

/-- The movie is listed as detached and as ready to detach, and the overview counts no detached
media. -/
theorem not_cardsCountLists_completedMovie :
    (detachedMediaRecommendations [completedMovie] ++
        readyToDetachGraphRecommendations [completedMovie]).map (·.id) =
        ["detached_media:movie:5", "ready_to_detach:movie:5"] ∧
      (graphOverviewCounts asciiCalls [] [completedMovie]).lookup "detached_media" = some 0 ∧
      ¬CardsCountLists asciiCalls (graphOverviewCounts asciiCalls [] [completedMovie])
        [completedMovie] := by
  refine ⟨by decide +kernel, by decide +kernel, fun h => ?_⟩
  exact h.listed_once completedMovie List.mem_cons_self (by decide +kernel)

end MediaMasterr.Mie.OperationsService
