import MediaMasterr.Foundations.Accumulators
import MediaMasterr.Mie.DownloadsInUse
import MediaMasterr.Mie.OperationsService

/-! # Totals of the downloads

The classification, the summary and the recommendations each decide by themselves
which bytes are recoverable; over the objects that the classification makes, the
three agree. The retention of an object is counted for imported objects alone. -/

namespace MediaMasterr.Mie

open MediaMasterr.Foundations MediaMasterr.RuleEngine OperationsService

/-! ## Retention -/

/-- A row of the client's torrent list with the ratio, which only the retention reads. -/
structure SharedTorrent extends Torrent where
  ratio : Option Float := none

/-- A classified object with its torrent, its retention and its confidence. -/
structure RetainedDownload extends DownloadLifecycleObject where
  torrent : Option String
  retentionPolicy : String
  retentionRemainingHours : Option Nat
  confidenceScore : Nat
  deriving DecidableEq, Repr

/-- `int` on a float, which cuts towards zero; NaN and the infinities have no value. -/
def intOfFloat (x : Float) : Option Int :=
  match x.toModel.unpack with
  | .finite sign mantissa exponent _ =>
    some (sign.apply (if 0 ≤ exponent then mantissa <<< exponent.toNat
      else mantissa >>> (-exponent).toNat : Nat))
  | .zero _ => some 0
  | _ => none

/-- The hours that are left to a seeding torrent with a ratio below 1. -/
def seedingHours (ratio : Float) : Except PyError (Option Nat) :=
  if ratio < 1.0 then
    match intOfFloat ((1.0 - ratio) * 72) with
    | some hours => .ok (some hours.toNat)
    | none => .error .overflowError
  else .ok none

/-- `retention_policy` and `retention_remaining_hours`. -/
def retentionOf (abandonedHours : Int) (item : DownloadLifecycleObject)
    (torrent : Option SharedTorrent) : Except PyError (String × Option Nat) := do
  let (policy, remainingHours) ←
    if item.torrentState = some .seeding then do
      let hours ← seedingHours ((torrent.bind (·.ratio)).getD 0.0)
      pure ("seeding_retention", hours)
    else if item.lifecycleState = .imported ∧ torrent.isNone then
      .ok ("grace_period", some (abandonedHours - item.ageHours).toNat)
    else .ok ("none", none)
  if policy = "grace_period" ∧ remainingHours = some 0 then return ("expired", remainingHours)
  else return (policy, remainingHours)

/-- `_confidence`. -/
def confidence (media request arr timeline torrent : Bool) : Nat :=
  min 99 (45 + (if media then 20 else 0) + (if request then 10 else 0) + (if arr then 10 else 0) +
    (if timeline then 8 else 0) + (if torrent then 7 else 0))

/-- The text of an object's torrent. -/
def torrentText (torrent : SharedTorrent) : String :=
  let name := torrent.name.getD ""
  let hash := torrent.hash.getD ""
  if name ≠ "" ∧ hash ≠ "" then name ++ " (" ++ hash ++ ")" else name

section Classification

variable (py : PythonCalls) (w : Downloads)

/-- `_classify_entry` with all that the totals read, behind the lookup of the entry's media. -/
def classifyRetained (entry : FilesystemIndexEntry) (evidence : MediaEvidence)
    (torrent : Option SharedTorrent) : Except PyError RetainedDownload := do
  let item := classify py w entry evidence (torrent.map (·.toTorrent))
  let (policy, remainingHours) ←
    retentionOf (loadAbandonedHours py w.abandonedHoursVar) item torrent
  let graph := evidence.graph
  return { item with
    torrent := torrent.map torrentText
    retentionPolicy := policy
    retentionRemainingHours := remainingHours
    confidenceScore := confidence graph.isSome (requestKnown graph) (arrKnown graph)
      (timelineOf graph ≠ []) torrent.isSome }

/-- `_torrent_for_entry`. -/
def sharedTorrentForEntry (entry : FilesystemIndexEntry) (torrents : List SharedTorrent) :
    Option SharedTorrent :=
  bestAtLeast (fun torrent => torrentScore py entry torrent.toTorrent) (-1) 4 torrents

/-- `_classify_entry`. -/
def classifyRetainedEntry (torrents : List SharedTorrent) (entry : FilesystemIndexEntry) :
    Except PyError RetainedDownload := do
  let evidence ← mediaEvidence py w entry
  classifyRetained py w entry evidence (sharedTorrentForEntry py entry torrents)

end Classification

/-! ## The summary and the recommendations -/

/-- The object is in its retention. -/
def RetainedDownload.isActive (item : RetainedDownload) : Bool :=
  item.retentionPolicy ∈ ["seeding_retention", "grace_period"]

/-- The retention of the object is over. -/
def RetainedDownload.isExpired (item : RetainedDownload) : Bool :=
  !item.isActive && item.retentionPolicy = "expired"

structure RetentionSummary extends DownloadsHealthSummary where
  completedWaitingForImport : Nat := 0
  retentionActive : Nat := 0
  retentionExpired : Nat := 0
  deriving DecidableEq, Repr

/-- `_summarize`. -/
def summarizeRetained (items : List RetainedDownload) : RetentionSummary where
  toDownloadsHealthSummary := summarize (items.map (·.toDownloadLifecycleObject))
  completedWaitingForImport := items.countP fun item =>
    item.lifecycleState ∈ [.downloading, .queued, .checking, .moving] ∧
      item.importStatus = "in_progress" ∧ 60 ≤ item.confidenceScore
  retentionActive := items.countP (·.isActive)
  retentionExpired := items.countP (·.isExpired)

/-- `_to_recommendation`. -/
def toRecommendation (item : RetainedDownload) : Option Recommendation :=
  downloadRecommendation item.toDownloadLifecycleObject

/-- The object is one that a run with the threshold of `hours` makes. -/
def Classified (py : PythonCalls) (hours : Int) (item : RetainedDownload) : Prop :=
  ∃ w torrents entry, loadAbandonedHours py w.abandonedHoursVar = hours ∧
    classifyRetainedEntry py w torrents entry = .ok item

/-- The bytes and the numbers of the summary are those of the objects and of their
recommendations. -/
structure TotalsAddUp (items : List RetainedDownload) : Prop where
  objects : (summarizeRetained items).recoverableSpace =
    (items.map (·.recoverableSpaceBytes)).sum
  recommended : ((summarizeRetained items).recoverableSpace : Int) =
    ((items.filterMap toRecommendation).map (·.estimatedRecoveryBytes)).sum
  safe_to_delete : (summarizeRetained items).safeToDelete =
    (items.filterMap toRecommendation).countP (·.action = (downloadAction .safeToDelete).1)
  duplicates : (summarizeRetained items).duplicateDownloads =
    (items.filterMap toRecommendation).countP (·.action = (downloadAction .duplicateDownload).1)
  one_each : (items.filterMap toRecommendation).length =
    items.countP (·.cleanupClassification ≠ .none)

/-- The object counts as active in the retention while hours remain, and then as expired. -/
def CountedOnce (hours : Int) (item : RetainedDownload) : Prop :=
  (item.isActive ↔ item.ageHours < hours) ∧ (item.isExpired ↔ hours ≤ item.ageHours)

/-- The objects in one of the states that have no torrent are counted once in the retention. -/
def RetentionCounted (hours : Int) (states : List DownloadLifecycleState)
    (items : List RetainedDownload) : Prop :=
  ∀ item ∈ items, item.lifecycleState ∈ states → item.torrent = none → CountedOnce hours item

/-! ## One object -/

section Object

variable {py : PythonCalls} {w : Downloads} {hours : Int} {entry : FilesystemIndexEntry}
    {evidence : MediaEvidence} {torrent : Option SharedTorrent} {item : RetainedDownload}

theorem retentionOf_eq_ok {base : DownloadLifecycleObject} {retention : String × Option Nat}
    (h : retentionOf hours base torrent = .ok retention) :
    (base.torrentState = some .seeding ∧ retention.1 = "seeding_retention") ∨
      (base.torrentState ≠ some .seeding ∧ base.lifecycleState = .imported ∧ torrent = none ∧
        retention.1 = if hours ≤ base.ageHours then "expired" else "grace_period") ∨
      (base.torrentState ≠ some .seeding ∧ ¬(base.lifecycleState = .imported ∧ torrent = none) ∧
        retention.1 = "none") := by
  unfold retentionOf at h
  by_cases hseeding : base.torrentState = some .seeding
  · rw [if_pos hseeding] at h
    cases hhours : seedingHours ((torrent.bind (·.ratio)).getD 0.0) with
    | error e => simp [hhours, bind, Except.bind] at h
    | ok left =>
      obtain rfl : ("seeding_retention", left) = retention := by
        simpa [hhours, bind, Except.bind, pure, Except.pure] using h
      exact Or.inl ⟨hseeding, rfl⟩
  · rw [if_neg hseeding] at h
    refine Or.inr ?_
    by_cases himported : base.lifecycleState = .imported ∧ torrent.isNone
    · rw [if_pos himported] at h
      refine Or.inl ⟨hseeding, himported.1, Option.isNone_iff_eq_none.mp himported.2, ?_⟩
      have hover : (hours - base.ageHours).toNat = 0 ↔ hours ≤ base.ageHours := by omega
      simp only [bind, Except.bind, pure, Except.pure, true_and, Option.some.injEq, hover] at h
      split_ifs at h ⊢ <;> simp [← Except.ok.inj h]
    · rw [if_neg himported] at h
      refine Or.inr ⟨hseeding, by simpa using himported, ?_⟩
      obtain rfl : ("none", none) = retention := by
        simpa [bind, Except.bind, pure, Except.pure] using h
      rfl

theorem classifyRetained_eq_ok (h : classifyRetained py w entry evidence torrent = .ok item) :
    item.toDownloadLifecycleObject =
        classify py w entry evidence (torrent.map (·.toTorrent)) ∧
      item.torrent = torrent.map torrentText ∧
      ∃ retention, item.retentionPolicy = retention.1 ∧
        retentionOf (loadAbandonedHours py w.abandonedHoursVar) item.toDownloadLifecycleObject
          torrent = .ok retention := by
  unfold classifyRetained at h
  cases hretention : retentionOf (loadAbandonedHours py w.abandonedHoursVar)
      (classify py w entry evidence (torrent.map (·.toTorrent))) torrent with
  | error e => simp [hretention, bind, Except.bind] at h
  | ok retention =>
    simp only [hretention, bind, Except.bind, pure, Except.pure, Except.ok.injEq] at h
    subst h
    exact ⟨rfl, rfl, retention, rfl, hretention⟩

theorem classifyRetainedEntry_eq_ok {torrents : List SharedTorrent}
    (h : classifyRetainedEntry py w torrents entry = .ok item) : ∃ evidence,
      mediaEvidence py w entry = .ok evidence ∧
        classifyRetained py w entry evidence (sharedTorrentForEntry py entry torrents) =
          .ok item := by
  unfold classifyRetainedEntry at h
  cases hevidence : mediaEvidence py w entry with
  | error e => simp [hevidence, bind, Except.bind] at h
  | ok evidence => exact ⟨evidence, rfl, by simpa [hevidence, bind, Except.bind] using h⟩

/-- The object is the one of the classification that reads no ratio. -/
theorem classifyEntry_of_retained {torrents : List SharedTorrent}
    (h : classifyRetainedEntry py w torrents entry = .ok item) :
    classifyEntry py w (torrents.map (·.toTorrent)) entry =
      .ok item.toDownloadLifecycleObject := by
  obtain ⟨evidence, hevidence, hitem⟩ := classifyRetainedEntry_eq_ok h
  refine classifyEntry_eq_ok_iff.mpr ⟨evidence, hevidence, ?_⟩
  rw [(classifyRetained_eq_ok hitem).1, torrentForEntry, bestAtLeast_map]
  rfl

/-- What the classification makes of an entry, behind the lookups. -/
theorem Classified.exists_eq (h : Classified py hours item) :
    ∃ (w : Downloads) (entry : FilesystemIndexEntry) (evidence : MediaEvidence)
      (torrent : Option SharedTorrent), loadAbandonedHours py w.abandonedHoursVar = hours ∧
        classifyRetained py w entry evidence torrent = .ok item := by
  obtain ⟨w, torrents, entry, hhours, hentry⟩ := h
  obtain ⟨evidence, -, hitem⟩ := classifyRetainedEntry_eq_ok hentry
  exact ⟨w, entry, evidence, _, hhours, hitem⟩

theorem cleanupOf_ne_abandoned (graph : Option MediaGraph) (state : DownloadLifecycleState)
    (torrentState : Option DownloadLifecycleState) :
    (cleanupOf graph state torrentState).1 ≠ .abandonedDownload := by
  unfold cleanupOf
  split_ifs <;> decide

/-- The abandoned class stays empty: without a torrent an entry has another class. -/
theorem Classified.ne_abandoned (h : Classified py hours item) :
    item.cleanupClassification ≠ .abandonedDownload := by
  obtain ⟨w, entry, evidence, torrent, -, hitem⟩ := h.exists_eq
  rw [(classifyRetained_eq_ok hitem).1]
  cases torrent with
  | none =>
    simp only [classify, Option.map_none, cleanupOf_none_ne_none, false_and, if_false]
    exact cleanupOf_ne_abandoned _ _ _
  | some torrent =>
    have hkept : (classify py w entry evidence (some torrent.toTorrent)).cleanupClassification ∉
        recoverableClasses := classify_some_notMem
    intro habandoned
    rw [Option.map_some] at habandoned
    rw [habandoned] at hkept
    exact hkept (by decide)

/-- The recoverable bytes of a classified object are those of the two classes that the summary and
the recommendations count. -/
theorem Classified.recoverableSpaceBytes_eq (h : Classified py hours item) :
    item.recoverableSpaceBytes =
      if item.cleanupClassification = .safeToDelete ∨
        item.cleanupClassification = .duplicateDownload then item.sizeBytes else 0 := by
  have habandoned := h.ne_abandoned
  obtain ⟨w, entry, evidence, torrent, -, hitem⟩ := h.exists_eq
  have hbytes : item.recoverableSpaceBytes =
      if item.cleanupClassification ∈ recoverableClasses then item.sizeBytes else 0 := by
    rw [(classifyRetained_eq_ok hitem).1]
    rfl
  simp [hbytes, recoverableClasses, habandoned]

/-- An imported or stale object without a torrent has no torrent state, for an entry with a torrent
has one. -/
theorem Classified.retention (h : Classified py hours item) (hnone : item.torrent = none) :
    item.retentionPolicy =
      if item.lifecycleState = .imported then
        if hours ≤ item.ageHours then "expired" else "grace_period"
      else "none" := by
  obtain ⟨w, entry, evidence, torrent, hhours, hitem⟩ := h.exists_eq
  obtain ⟨hbase, htorrent, retention, hpolicy, hretention⟩ := classifyRetained_eq_ok hitem
  obtain rfl : torrent = none := Option.map_eq_none_iff.mp (htorrent.symm.trans hnone)
  have hstate : item.torrentState = none := by
    rw [hbase]
    rfl
  rw [hhours] at hretention
  rcases retentionOf_eq_ok hretention with ⟨hseeding, -⟩ | ⟨-, himported, -, heq⟩ | ⟨-, hother, heq⟩
  · rw [hstate] at hseeding
    cases hseeding
  · rw [hpolicy, heq, if_pos himported]
  · rw [hpolicy, heq, if_neg fun himported => hother ⟨himported, rfl⟩]

theorem Classified.countedOnce (h : Classified py hours item)
    (himported : item.lifecycleState = .imported) (hnone : item.torrent = none) :
    CountedOnce hours item := by
  have hpolicy := h.retention hnone
  rw [if_pos himported] at hpolicy
  unfold CountedOnce RetainedDownload.isExpired RetainedDownload.isActive
  by_cases hover : hours ≤ item.ageHours
  · rw [if_pos hover] at hpolicy
    simp [hpolicy, hover]
  · rw [if_neg hover] at hpolicy
    simp [hpolicy, not_le.mp hover]

/-- A stale object is in no retention. -/
theorem Classified.not_counted (h : Classified py hours item)
    (hstale : item.lifecycleState = .stale) (hnone : item.torrent = none) :
    item.isActive = false ∧ item.isExpired = false := by
  have hpolicy := h.retention hnone
  rw [hstale, if_neg (by decide)] at hpolicy
  simp [RetainedDownload.isExpired, RetainedDownload.isActive, hpolicy]

end Object

/-! ## The totals -/

section Totals

variable {items : List RetainedDownload}

theorem toRecommendation_eq (item : RetainedDownload) (h : item.cleanupClassification ≠ .none) :
    ∃ row, toRecommendation item = some row ∧
      row.action = (downloadAction item.cleanupClassification).1 ∧
      row.estimatedRecoveryBytes =
        if item.cleanupClassification ∈ [.safeToDelete, .duplicateDownload] then
          (item.sizeBytes : Int) else 0 := by
  rw [toRecommendation, downloadRecommendation, if_neg h]
  exact ⟨_, rfl, rfl, rfl⟩

theorem toRecommendation_eq_none (item : RetainedDownload)
    (h : item.cleanupClassification = .none) : toRecommendation item = none := by
  rw [toRecommendation, downloadRecommendation, if_pos h]

theorem downloadAction_injective :
    Function.Injective fun cleanup => (downloadAction cleanup).1 := by
  intro cleanup other h
  cases cleanup <;> cases other <;> first | rfl | simp [downloadAction] at h

/-- The recommendations with the action of a class are those of the objects of the class. -/
theorem countP_action (items : List RetainedDownload) {cleanup : DownloadCleanupClassification}
    (hcleanup : cleanup ≠ .none) :
    (items.filterMap toRecommendation).countP (·.action = (downloadAction cleanup).1) =
      items.countP (·.cleanupClassification = cleanup) := by
  rw [List.countP_filterMap]
  refine List.countP_congr fun item _ => ?_
  by_cases hnone : item.cleanupClassification = .none
  · simp [toRecommendation_eq_none item hnone, hnone, hcleanup.symm]
  · obtain ⟨row, hrow, haction, -⟩ := toRecommendation_eq item hnone
    simp [hrow, haction, downloadAction_injective.eq_iff]

theorem length_recommendations (items : List RetainedDownload) :
    (items.filterMap toRecommendation).length = items.countP (·.cleanupClassification ≠ .none) := by
  rw [List.length_filterMap_eq_countP]
  refine List.countP_congr fun item _ => ?_
  by_cases hnone : item.cleanupClassification = .none
  · simp [toRecommendation_eq_none item hnone, hnone]
  · obtain ⟨row, hrow, -⟩ := toRecommendation_eq item hnone
    simp [hrow, hnone]

theorem summarizeRetained_recoverableSpace (items : List RetainedDownload) :
    (summarizeRetained items).recoverableSpace = (items.map fun item =>
      if item.cleanupClassification = .safeToDelete ∨
        item.cleanupClassification = .duplicateDownload then item.sizeBytes else 0).sum := by
  rw [summarizeRetained, summarize, sum_map_filter, List.map_map]
  simp [Function.comp_def]

theorem sum_estimatedRecoveryBytes (items : List RetainedDownload) :
    ((items.filterMap toRecommendation).map (·.estimatedRecoveryBytes)).sum =
      ((summarizeRetained items).recoverableSpace : Int) := by
  rw [summarizeRetained_recoverableSpace]
  refine sum_map_filterMap (fun item => ?_) items
  by_cases hnone : item.cleanupClassification = .none
  · simp [toRecommendation_eq_none item hnone, hnone]
  · obtain ⟨row, hrow, -, hbytes⟩ := toRecommendation_eq item hnone
    rw [hrow, Option.map_some, Option.getD_some, hbytes]
    simp only [List.mem_cons, List.not_mem_nil, or_false]
    split_ifs <;> rfl

theorem totalsAddUp {py : PythonCalls} {hours : Int}
    (hitems : ∀ item ∈ items, Classified py hours item) : TotalsAddUp items where
  objects := by
    rw [summarizeRetained_recoverableSpace]
    exact congrArg List.sum (List.map_congr_left fun item hitem =>
      (hitems item hitem).recoverableSpaceBytes_eq.symm)
  recommended := (sum_estimatedRecoveryBytes items).symm
  safe_to_delete := List.countP_map.trans (countP_action items (by decide)).symm
  duplicates := List.countP_map.trans (countP_action items (by decide)).symm
  one_each := length_recommendations items

end Totals

/-! ## An imported and a stale object -/

/-- The calls on ASCII texts, with the number of the movie and that of the threshold. -/
def decimalCalls : PythonCalls where
  toCaseTables := asciiCalls.toCaseTables
  str := asciiCalls.str
  int := fun text => if text = "7" then some 7 else if text = "336" then some 336 else none

/-- A file of a library movie that no request and no service owns. -/
def ownerlessEntry : FilesystemIndexEntry where
  rootId := 1
  path := "/media/downloads/Movie/movie.mkv"
  entryType := "file"
  sizeBytes := 1000
  metadataJson := [("movie_id", .str "7")]
  indexedAt := 0

def ownerlessDownload : Downloads where
  mediaGraph := fun _ _ => .ok (some { totalSizeBytes := 1000, overallHealthScore := 90 })

def ownedDownload : Downloads where
  mediaGraph := fun _ _ =>
    .ok (some { ownership := ["radarr:1"], totalSizeBytes := 1000, overallHealthScore := 90 })

def staleObject : RetainedDownload where
  path := "/media/downloads/Movie/movie.mkv"
  entryType := "file"
  mediaType := some .movie
  mediaId := some 7
  lifecycleState := .stale
  importStatus := "completed_waiting_cleanup"
  torrentState := none
  ageHours := 0
  sizeBytes := 1000
  cleanupClassification := .safeToDelete
  cleanupReason :=
    some "No active ownership remains and object is not required for active transfer."
  recoverableSpaceBytes := 1000
  torrent := none
  retentionPolicy := "none"
  retentionRemainingHours := none
  confidenceScore := 65

theorem classified_staleObject : Classified decimalCalls 336 staleObject :=
  ⟨ownerlessDownload, [], ownerlessEntry, by decide +kernel, rfl⟩

/-- The object of the entry when a service owns the movie. -/
def importedObject : RetainedDownload :=
  { staleObject with
    lifecycleState := .imported
    cleanupClassification := .duplicateDownload
    cleanupReason := some "Media already exists in canonical library while download copy remains."
    retentionPolicy := "grace_period"
    retentionRemainingHours := some 336
    confidenceScore := 75 }

theorem classified_importedObject : Classified decimalCalls 336 importedObject :=
  ⟨ownedDownload, [], ownerlessEntry, by decide +kernel, rfl⟩

/-- The totals of the objects that the classification makes add up, and the imported ones without a
torrent are counted once in the retention; stale ones are in no retention. -/
theorem totalsAddUp_and_retentionCounted (py : PythonCalls) (hours : Int)
    (items : List RetainedDownload) (hitems : ∀ item ∈ items, Classified py hours item) :
    TotalsAddUp items ∧ RetentionCounted hours [.imported] items ∧
      ∀ item ∈ items, item.lifecycleState = .stale → item.torrent = none →
        item.isActive = false ∧ item.isExpired = false := by
  refine ⟨totalsAddUp hitems, fun item hitem hstate hnone => ?_, fun item hitem hstale hnone => ?_⟩
  · exact (hitems item hitem).countedOnce (List.mem_singleton.mp hstate) hnone
  · exact (hitems item hitem).not_counted hstale hnone

theorem totalsAddUp_importedObject : TotalsAddUp [staleObject, importedObject] ∧
    RetentionCounted 336 [.imported] [staleObject, importedObject] :=
  have h := totalsAddUp_and_retentionCounted decimalCalls 336 [staleObject, importedObject]
    fun item hitem => by
      rcases List.mem_pair.mp hitem with rfl | rfl
      · exact classified_staleObject
      · exact classified_importedObject
  ⟨h.1, h.2.1⟩

/-- The stale object has no retention, with 336 hours left. -/
theorem not_totalsAddUp_staleObject : ¬∀ (py : PythonCalls) (hours : Int)
    (items : List RetainedDownload), (∀ item ∈ items, Classified py hours item) →
      TotalsAddUp items ∧ RetentionCounted hours [.imported, .stale] items := by
  intro h
  have hcounted := (h decimalCalls 336 [staleObject] fun item hitem => by
    rw [List.mem_singleton.mp hitem]
    exact classified_staleObject).2 staleObject List.mem_cons_self (by decide) rfl
  have hactive := hcounted.1.mpr (by decide)
  exact absurd hactive (by decide)

end MediaMasterr.Mie
