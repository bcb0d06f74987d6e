import MediaMasterr.Mie.FileEvidence

/-! # One canonical folder, and every copy against it

The canonical folder holds the most files of all candidates that have a normalized
path, and the rows of the primary media files are divided by it: the first one
inside is the primary file, the others inside are additional files, and those
outside are duplicates. -/

namespace MediaMasterr.Mie.FileEvidence

open MediaMasterr.Foundations MediaMasterr.Filesystem

variable (t : PythonText.CaseTables) (w : EvidenceInput)

/-- The candidates whose normalized path is not empty. -/
def namedCandidates : List String :=
  (managedFolderCandidates w).filter fun folder => normPath t (some folder) ≠ ""

/-- The canonical folder is one of the candidates and holds the most reference paths of them, and it
is the first one when none holds any; the rows of the primary media files are divided by it. -/
structure DesignatesCanonical (candidates : List String) : Prop where
  canonical : ∀ first ∈ candidates.head?, ∃ folder ∈ candidates,
    canonicalManagedFolder t w = some folder ∧
      (∀ other ∈ candidates, folderScore t w other ≤ folderScore t w folder) ∧
      ((∀ other ∈ candidates, folderScore t w other = 0) → folder = first)
  rows_distinct : ((copies t w).rows.map (dedupeKey t ·.1)).Nodup
  every_primary : ∀ known ∈ w.knownPaths, known.role = .primaryMediaFile → linked known.path →
    ∃ row ∈ (copies t w).rows, dedupeKey t row.1 = dedupeKey t known
  one_primary : (∃ row ∈ (copies t w).rows, isInside t w row.1) →
    (copies t w).rows.countP
      (fun row => isInside t w row.1 && row.2.hierarchyRole = .primaryMediaFile) = 1
  others_additional : ∀ row ∈ (copies t w).rows, isInside t w row.1 →
    row.2.hierarchyRole ≠ .primaryMediaFile → row.2.hierarchyRole = .additionalFile
  outside_duplicate : ∀ row ∈ (copies t w).rows, isOutside t w row.1 →
    row.2.hierarchyRole = .additionalCopy ∧ row.2.state = .duplicate
  inside_count : (copies t w).primaryInsideCanonical =
    (copies t w).rows.countP (isInside t w ·.1)
  outside_count : (copies t w).primaryOutsideCanonical =
    (copies t w).rows.countP (isOutside t w ·.1)

/-! ## The canonical folder -/

variable {t w}

theorem isSameOrChild_congr {path parent parent' : Option String} (hlinked : linked parent)
    (hlinked' : linked parent') (h : normPath t parent = normPath t parent') :
    isSameOrChild t path parent = isSameOrChild t path parent' := by
  rw [isSameOrChild, isSameOrChild, hlinked, hlinked', h]

theorem linked_of_mem_knownPathsOf {roles : List HierarchyRole} {path : String}
    (h : path ∈ knownPathsOf w roles) : linked (some path) := by
  obtain ⟨known, hknown, hpath⟩ := List.mem_filterMap.mp h
  have hkept := (List.mem_filter.mp hknown).2
  rw [hpath] at hkept
  exact (Bool.and_eq_true_iff.mp hkept).1

theorem linked_of_mem_candidates {folder : String} (h : folder ∈ managedFolderCandidates w) :
    linked (some folder) := by
  rcases List.mem_append.mp h with hlibrary | hknown
  · have hkept := (Option.mem_filter_iff.mp (Option.mem_toList.mp hlibrary)).2
    exact hkept
  · exact linked_of_mem_knownPathsOf hknown

/-- Candidates of one normalized path hold the same files. -/
theorem folderScore_congr {folder other : String} (h : folder ∈ namedCandidates t w)
    (hother : other ∈ namedCandidates t w)
    (hpath : normPath t (some folder) = normPath t (some other)) :
    folderScore t w folder = folderScore t w other := by
  have hlinked := linked_of_mem_candidates (List.mem_filter.mp h).1
  have hlinked' := linked_of_mem_candidates (List.mem_filter.mp hother).1
  exact List.countP_congr fun path _ => by
    rw [isSameOrChild_congr hlinked hlinked' hpath]

theorem mem_namedCandidates {folder : String} (h : folder ∈ dedupedManagedFolders t w) :
    folder ∈ namedCandidates t w := mem_of_mem_firstsBy h

/-- The best candidate holds the most files. -/
theorem folderScore_le_best {best : String} {index : Nat}
    (h : bestCandidate t w = some (best, index)) {other : String} (hother : other ∈ namedCandidates t w) :
    folderScore t w other ≤ folderScore t w best := by
  have hnamed : normPath t (some other) ∈
      (dedupedManagedFolders t w).map fun folder => normPath t (some folder) :=
    mem_map_firstsBy hother
  obtain ⟨kept, hkept, hpath⟩ := List.mem_map.mp hnamed
  have hscore := folderScore_congr (mem_namedCandidates hkept) hother hpath
  obtain ⟨i, hi, rfl⟩ := List.mem_iff_getElem.mp hkept
  have hmem : ((dedupedManagedFolders t w)[i], i) ∈ (dedupedManagedFolders t w).zipIdx :=
    List.mk_mem_zipIdx_iff_getElem?.mpr (List.getElem?_eq_getElem hi)
  have hle := List.le_of_mem_argmax hmem h
  rw [← hscore]
  rcases Prod.Lex.toLex_le_toLex.mp hle with hlt | ⟨heq, -⟩
  · exact hlt.le
  · exact heq.le

theorem canonicalManagedFolder_spec {first : String}
    (h : (namedCandidates t w).head? = some first) : ∃ folder ∈ namedCandidates t w,
      canonicalManagedFolder t w = some folder ∧
        (∀ other ∈ namedCandidates t w, folderScore t w other ≤ folderScore t w folder) ∧
        ((∀ other ∈ namedCandidates t w, folderScore t w other = 0) → folder = first) := by
  have hhead : (dedupedManagedFolders t w).head? = some first :=
    (head?_firstsBy _ (namedCandidates t w)).trans h
  have hfirst := List.mem_of_head? h
  rw [canonicalManagedFolder]
  cases hbest : bestCandidate t w with
  | none =>
    have hnil := List.zipIdx_eq_nil_iff.mp (List.argmax_eq_none.mp hbest)
    rw [hnil] at hhead
    cases hhead
  | some candidate =>
    obtain ⟨best, index⟩ := candidate
    have hle := fun {other} => @folderScore_le_best t w best index hbest other
    have hmem : best ∈ dedupedManagedFolders t w := by
      have hindexed := List.mk_mem_zipIdx_iff_getElem?.mp (List.argmax_mem hbest)
      exact List.mem_of_getElem? hindexed
    change ∃ folder ∈ _, (if 0 < folderScore t w best then some best else _) = some folder ∧ _
    split_ifs with hpos
    · refine ⟨best, mem_namedCandidates hmem, rfl, fun other => hle, fun hnone => ?_⟩
      rw [hnone best (mem_namedCandidates hmem)] at hpos
      exact absurd hpos (Nat.lt_irrefl 0)
    · refine ⟨first, hfirst, hhead, fun other hother => ?_, fun _ => rfl⟩
      have hzero := hle hother
      omega

/-! ## The rows -/

/-- What holds of the variables after every round of the loop. -/
structure CopyInv (t : PythonText.CaseTables) (w : EvidenceInput) (s : CopyState) : Prop where
  seen_base : ∀ key ∈ (baseRows t w).map fun row => (row.1, normPath t row.2.2.1, row.2.2.2.2.2),
    key ∈ s.seenPaths
  seen_rows : ∀ row ∈ s.rows, dedupeKey t row.1 ∈ s.seenPaths
  seen_primary : ∀ key ∈ s.seenPaths, key.2.2 = .primaryMediaFile →
    ∃ row ∈ s.rows, dedupeKey t row.1 = key
  rows_distinct : (s.rows.map (dedupeKey t ·.1)).Nodup
  primary_seen : s.canonicalPrimarySeen = true ↔ ∃ row ∈ s.rows, isInside t w row.1
  one_primary : s.rows.countP
      (fun row => isInside t w row.1 && row.2.hierarchyRole = .primaryMediaFile) =
    if s.canonicalPrimarySeen then 1 else 0
  others_additional : ∀ row ∈ s.rows, isInside t w row.1 →
    row.2.hierarchyRole ≠ .primaryMediaFile → row.2.hierarchyRole = .additionalFile
  outside_duplicate : ∀ row ∈ s.rows, isOutside t w row.1 →
    row.2.hierarchyRole = .additionalCopy ∧ row.2.state = .duplicate
  inside_count : s.primaryInsideCanonical = s.rows.countP (isInside t w ·.1)
  outside_count : s.primaryOutsideCanonical = s.rows.countP (isOutside t w ·.1)

/-- The first primary media file inside is the primary file, the later ones are additional. -/
theorem classifyCopy_inside {known : KnownPath} (h : isInside t w known) (primarySeen : Bool) :
    (classifyCopy t w primarySeen known).role =
      if primarySeen then .additionalFile else .primaryMediaFile := by
  simp only [isInside, Bool.and_eq_true, decide_eq_true_eq] at h
  obtain ⟨⟨hrole, hlinked⟩, hinside⟩ := h
  rw [classifyCopy, hrole]
  cases primarySeen <;> simp [hlinked, hinside]

theorem classifyCopy_outside {known : KnownPath} (h : isOutside t w known) (primarySeen : Bool) :
    (classifyCopy t w primarySeen known).role = .additionalCopy ∧
      (classifyCopy t w primarySeen known).state = .duplicate := by
  simp only [isOutside, Bool.and_eq_true, decide_eq_true_eq, Bool.not_eq_true'] at h
  obtain ⟨⟨hrole, hlinked⟩, houtside⟩ := h
  rw [classifyCopy, hrole]
  simp [hlinked, houtside]

/-- A known path that is listed keeps the invariant. -/
theorem CopyInv.listed {s : CopyState} (h : CopyInv t w s) {known : KnownPath}
    (hnew : dedupeKey t known ∉ s.seenPaths) (index : Nat) :
    CopyInv t w
      { seenPaths := s.seenPaths ++ [dedupeKey t known]
        canonicalPrimarySeen := s.canonicalPrimarySeen || isInside t w known
        primaryInsideCanonical := s.primaryInsideCanonical + if isInside t w known then 1 else 0
        primaryOutsideCanonical := s.primaryOutsideCanonical + if isOutside t w known then 1 else 0
        rows := s.rows ++ [(known, copyEvidence t w s.canonicalPrimarySeen known index)] } where
  seen_base key hkey := List.mem_append_left _ (h.seen_base key hkey)
  seen_rows row hrow := by
    rcases List.mem_append.mp hrow with hold | hlast
    · exact List.mem_append_left _ (h.seen_rows row hold)
    · rw [List.mem_singleton.mp hlast]
      exact List.mem_append_right _ List.mem_cons_self
  seen_primary key hkey hrole := by
    rcases List.mem_append.mp hkey with hold | hlast
    · obtain ⟨row, hrow, heq⟩ := h.seen_primary key hold hrole
      exact ⟨row, List.mem_append_left _ hrow, heq⟩
    · exact ⟨_, List.mem_append_right _ List.mem_cons_self, (List.mem_singleton.mp hlast).symm⟩
  rows_distinct := by
    rw [List.map_append, List.map_singleton]
    refine List.Nodup.append h.rows_distinct (List.nodup_singleton _) ?_
    rw [List.disjoint_singleton]
    rintro hmem
    obtain ⟨row, hrow, heq⟩ := List.mem_map.mp hmem
    exact hnew (heq ▸ h.seen_rows row hrow)
  primary_seen := by
    rw [Bool.or_eq_true, h.primary_seen]
    simp only [List.mem_append, List.mem_singleton, or_and_right, exists_or, exists_eq_left]
  one_primary := by
    rw [List.countP_append, h.one_primary, List.countP_singleton]
    by_cases hinside : isInside t w known
    · have hrole := classifyCopy_inside hinside
      cases hseen : s.canonicalPrimarySeen <;> simp [hinside, copyEvidence, hrole]
    · cases hseen : s.canonicalPrimarySeen <;> simp [hinside]
  others_additional row hrow hinside hother := by
    rcases List.mem_append.mp hrow with hold | hlast
    · exact h.others_additional row hold hinside hother
    · obtain rfl := List.mem_singleton.mp hlast
      have hrole := classifyCopy_inside hinside s.canonicalPrimarySeen
      cases hseen : s.canonicalPrimarySeen with
      | true => rwa [hseen] at hrole
      | false =>
        rw [hseen] at hrole
        exact absurd (by simpa [copyEvidence, hseen] using hrole) hother
  outside_duplicate row hrow houtside := by
    rcases List.mem_append.mp hrow with hold | hlast
    · exact h.outside_duplicate row hold houtside
    · obtain rfl := List.mem_singleton.mp hlast
      exact classifyCopy_outside houtside s.canonicalPrimarySeen
  inside_count := by
    rw [List.countP_append, ← h.inside_count, List.countP_singleton]
  outside_count := by
    rw [List.countP_append, ← h.outside_count, List.countP_singleton]

theorem CopyInv.step {s : CopyState} (h : CopyInv t w s) (entry : KnownPath × Nat) :
    CopyInv t w (copyStep t w s entry) := by
  obtain ⟨known, index⟩ := entry
  unfold copyStep
  dsimp only
  by_cases hskip : (!linked known.path || dedupeKey t known ∈ s.seenPaths) = true
  · rwa [if_pos hskip]
  · rw [if_neg hskip]
    have hnew : dedupeKey t known ∉ s.seenPaths := by
      simp only [Bool.or_eq_true, decide_eq_true_eq, not_or] at hskip
      exact hskip.2
    exact h.listed hnew index

theorem copyInv_start : CopyInv t w
    { seenPaths :=
        (baseRows t w).map fun row => (row.1, normPath t row.2.2.1, row.2.2.2.2.2) } where
  seen_base _ hkey := hkey
  seen_rows _ hrow := absurd hrow List.not_mem_nil
  seen_primary key hkey hrole := by
    simp only [baseRows, List.map_cons, List.map_nil, List.mem_cons, List.not_mem_nil,
      or_false] at hkey
    rcases hkey with rfl | rfl | rfl <;> cases hrole
  rows_distinct := List.nodup_nil
  primary_seen := by simp
  one_primary := rfl
  others_additional _ hrow := absurd hrow List.not_mem_nil
  outside_duplicate _ hrow := absurd hrow List.not_mem_nil
  inside_count := rfl
  outside_count := rfl

theorem copyInv_copies : CopyInv t w (copies t w) :=
  Loops.foldl_invariant (fun entry _ _ h => h.step entry) copyInv_start

/-- Every known path is listed or has the key of a row of the hierarchy. -/
theorem key_mem_seenPaths {known : KnownPath} (hmem : known ∈ w.knownPaths)
    (hpath : linked known.path) : dedupeKey t known ∈ (copies t w).seenPaths := by
  obtain ⟨i, hi, rfl⟩ := List.mem_iff_getElem.mp hmem
  have hindexed : (w.knownPaths[i], i) ∈ w.knownPaths.zipIdx :=
    List.mk_mem_zipIdx_iff_getElem?.mpr (List.getElem?_eq_getElem hi)
  refine Loops.foldl_establishes (I := fun _ => True)
    (P := fun s : CopyState => dedupeKey t w.knownPaths[i] ∈ s.seenPaths) hindexed
    (fun _ _ _ _ => trivial) (fun s _ => ?_) (fun entry _ s _ hs => ?_) trivial
  · rw [copyStep]
    by_cases hseen : dedupeKey t w.knownPaths[i] ∈ s.seenPaths <;> simp [hpath, hseen]
  · rw [copyStep]
    by_cases hskip : (!linked entry.1.path || dedupeKey t entry.1 ∈ s.seenPaths) = true
    · rwa [if_pos hskip]
    · rw [if_neg hskip]
      exact List.mem_append_left _ hs

/-- One canonical folder among the candidates with a normalized path, and every copy against it. -/
theorem designatesCanonical_named (t : PythonText.CaseTables) (w : EvidenceInput) :
    DesignatesCanonical t w (namedCandidates t w) where
  canonical first hfirst := canonicalManagedFolder_spec hfirst
  rows_distinct := copyInv_copies.rows_distinct
  every_primary known hmem hrole hpath :=
    copyInv_copies.seen_primary _ (key_mem_seenPaths hmem hpath) hrole
  one_primary hinside := by
    rw [copyInv_copies.one_primary, if_pos (copyInv_copies.primary_seen.mpr hinside)]
  others_additional := copyInv_copies.others_additional
  outside_duplicate := copyInv_copies.outside_duplicate
  inside_count := copyInv_copies.inside_count
  outside_count := copyInv_copies.outside_count

/-! ## The root as library location -/

/-- The functions on ASCII texts. -/
def asciiTables : PythonText.CaseTables where
  lower := PythonText.asciiLower
  upper := id

/-- An asset whose library location is the root directory, with one file. -/
def rootLibrary : EvidenceInput where
  libraryLocation := some "/"
  knownPaths :=
    [{ path := some "/Heat.mkv", label := "Primary Media File", role := .primaryMediaFile }]

/-- The only candidate has no normalized path, so there is no canonical folder. -/
theorem not_designatesCanonical_rootLibrary :
    managedFolderCandidates rootLibrary = ["/"] ∧
      canonicalManagedFolder asciiTables rootLibrary = none ∧
      ¬DesignatesCanonical asciiTables rootLibrary (managedFolderCandidates rootLibrary) := by
  have hnone : canonicalManagedFolder asciiTables rootLibrary = none := by decide +kernel
  refine ⟨by decide +kernel, hnone, fun h => ?_⟩
  obtain ⟨folder, -, hsome, -⟩ := h.canonical "/" (by decide +kernel)
  rw [hnone] at hsome
  cases hsome

end MediaMasterr.Mie.FileEvidence
