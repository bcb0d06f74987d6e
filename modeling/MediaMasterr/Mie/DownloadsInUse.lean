import Mathlib.Data.List.ReduceOption
import MediaMasterr.Foundations.Loops
import MediaMasterr.Mie.DownloadsIntelligence

/-! # Downloads in use

Which entries a run classifies as recoverable, and which torrents it overlooks. -/

namespace MediaMasterr.Mie

open MediaMasterr.Foundations MediaMasterr.Database MediaMasterr.Filesystem MediaMasterr.RuleEngine

/-! ## The search for a torrent -/

section Search

variable (py : PythonCalls) {entry : FilesystemIndexEntry}

/-- The tests of the search that find a torrent on their own. -/
def Matches (entry : FilesystemIndexEntry) (torrent : Torrent) : Prop :=
  matchesHash py entry torrent = true ∨ matchesPath py entry torrent = true

/-- Common words alone stay below the threshold of 4. -/
theorem four_le_torrentScore_iff {torrent : Torrent} :
    4 ≤ torrentScore py entry torrent ↔ Matches py entry torrent := by
  unfold torrentScore Matches
  dsimp only
  split_ifs <;> simp_all <;> omega

theorem torrentForEntry_eq_none_iff {torrents : List Torrent} :
    torrentForEntry py entry torrents = none ↔ ∀ t ∈ torrents, ¬Matches py entry t := by
  rw [torrentForEntry, bestAtLeast_eq_none_iff (by decide)]
  simp only [← four_le_torrentScore_iff, not_le]

end Search

/-! ## Classes -/

theorem torrentState_mem_activeStates (py : PythonCalls) (rawState : String) (progress : Float) :
    torrentState py rawState progress ∈ activeStates := by
  unfold torrentState
  dsimp only
  split_ifs <;> decide

/-- What is known of the media of an entry makes it removable: the import did not fail, and it is
complete, or nothing but the name of the media is known. -/
def MediaEvidence.Removable (evidence : MediaEvidence) : Prop :=
  importFailed evidence.graph none = false ∧
    (importCompleted evidence.graph ∨
      ((evidence.graph.isSome ∨ evidence.media.isSome) ∧ arrKnown evidence.graph = false ∧
        requestKnown evidence.graph = false ∧ hasImportHistory evidence.graph = false))

variable {py : PythonCalls} {w : Downloads} {entry : FilesystemIndexEntry}
    {evidence : MediaEvidence}

/-- An entry with a torrent keeps its bytes. -/
theorem classify_some_notMem {torrent : Torrent} :
    (classify py w entry evidence (some torrent)).cleanupClassification ∉ recoverableClasses := by
  have hactive := torrentState_mem_activeStates py (torrent.state.getD "")
    (torrent.progress.getD 0.0)
  generalize hstate : torrentState py (torrent.state.getD "") (torrent.progress.getD 0.0) = state
  rw [hstate] at hactive
  have hisActive : isActive (some state) = true := by simp [isActive, hactive]
  simp only [classify, Option.map_some, hstate, lifecycleOf, hisActive, if_true, Option.getD_some]
  revert hactive
  cases state <;> simp [activeStates, cleanupOf, recoverableClasses]

/-- Without a torrent, the class follows from what is known of the media. -/
theorem cleanupOf_none_mem_iff :
    (cleanupOf evidence.graph (lifecycleOf evidence.graph evidence.media none).1 none).1 ∈
      recoverableClasses ↔ evidence.Removable := by
  have hinactive : isActive none = false := rfl
  unfold lifecycleOf MediaEvidence.Removable
  rw [hinactive, if_neg Bool.false_ne_true]
  split_ifs with hfailed hcomplete hownerless hownerless hunknown hcomplete'
  · simp [cleanupOf, recoverableClasses, hfailed]
  · simp [cleanupOf, recoverableClasses, hfailed, hcomplete.1]
  · simp [cleanupOf, recoverableClasses, hfailed, hcomplete.1]
  · have hgraph : evidence.graph = none := Option.isNone_iff_eq_none.mp hunknown.1
    have hmedia : evidence.media = none := Option.isNone_iff_eq_none.mp hunknown.2
    simp [cleanupOf, recoverableClasses, importCompleted, hgraph, hmedia]
  · have hincomplete : importCompleted evidence.graph = false := by simpa using hcomplete
    have hknown : evidence.graph.isSome ∨ evidence.media.isSome := by
      simp only [← Option.not_isNone, Bool.not_eq_true', ← Bool.not_eq_true]
      exact not_and_or.mp hunknown
    simp_all [cleanupOf, recoverableClasses]
  · exact absurd ⟨hcomplete', rfl⟩ hcomplete
  · have hincomplete : importCompleted evidence.graph = false := by simpa using hcomplete'
    have howned : ¬(arrKnown evidence.graph = false ∧ requestKnown evidence.graph = false ∧
        hasImportHistory evidence.graph = false) := by simpa using hownerless
    simp [cleanupOf, recoverableClasses, hincomplete]
    exact fun _ _ harr hrequest => by simpa [harr, hrequest] using howned

theorem cleanupOf_none_ne_none :
    (cleanupOf evidence.graph (lifecycleOf evidence.graph evidence.media none).1 none).1 ≠
      .none := by
  have hinactive : isActive none = false := rfl
  unfold lifecycleOf
  rw [hinactive, if_neg Bool.false_ne_true]
  split_ifs with hfailed hcomplete hownerless hnothing hcomplete' <;> simp [cleanupOf, *]

/-- Without a torrent, the bytes of an entry count as recoverable exactly when its media is
removable; no entry is ever classified as abandoned. -/
theorem classify_none_mem_iff :
    (classify py w entry evidence none).cleanupClassification ∈ recoverableClasses ↔
      evidence.Removable := by
  rw [← cleanupOf_none_mem_iff]
  simp only [classify, Option.map_none, cleanupOf_none_ne_none, false_and, if_false]

theorem classifyEntry_eq_ok_iff {torrents : List Torrent} {item : DownloadLifecycleObject} :
    classifyEntry py w torrents entry = .ok item ↔ ∃ evidence,
      mediaEvidence py w entry = .ok evidence ∧
      classify py w entry evidence (torrentForEntry py entry torrents) = item := by
  unfold classifyEntry
  cases mediaEvidence py w entry <;> simp [bind, Except.bind, pure, Except.pure]

/-- An entry is classified as recoverable exactly when no torrent matches it and its media is
removable. -/
theorem classify_mem_iff {torrents : List Torrent} :
    (classify py w entry evidence (torrentForEntry py entry torrents)).cleanupClassification ∈
        recoverableClasses ↔
      (∀ t ∈ torrents, ¬Matches py entry t) ∧ evidence.Removable := by
  rw [← torrentForEntry_eq_none_iff]
  cases torrentForEntry py entry torrents with
  | none => simp [classify_none_mem_iff]
  | some torrent => simp [classify_some_notMem]

/-! ## Runs -/

/-- A run returns exactly when the media of every entry can be looked up. -/
theorem run_returns_iff : (∃ result, run py w = .ok result) ↔
    ∀ entry ∈ filteredRows py w, ∃ evidence, mediaEvidence py w entry = .ok evidence := by
  have hrows : (∃ items, classifyRows py w = .ok items) ↔
      ∀ entry ∈ filteredRows py w, ∃ evidence, mediaEvidence py w entry = .ok evidence := by
    rw [classifyRows, Loops.mapM_eq_ok_iff]
    simp only [classifyEntry_eq_ok_iff]
    refine forall₂_congr fun entry _ => ⟨?_, ?_⟩
    · rintro ⟨_, evidence, hevidence, _⟩
      exact ⟨evidence, hevidence⟩
    · rintro ⟨evidence, hevidence⟩
      exact ⟨_, evidence, hevidence, rfl⟩
  unfold run
  split_ifs with hroots
  · have hnone : filteredRows py w = [] := by
      rw [filteredRows, List.isEmpty_iff.mp hroots]
      simp
    simp [hnone, pure, Except.pure]
  · rw [← hrows]
    cases classifyRows py w <;> simp [bind, Except.bind, pure, Except.pure]

/-! ## Use -/

/-- The torrent list was obtained, or no client is configured. -/
def Obtained (qbittorrent : Option ClientAnswer) : Prop :=
  ∀ client, qbittorrent = some client → ∃ rows, client = .torrents rows

/-- The torrents of the list that the client got. -/
def Listed (qbittorrent : Option ClientAnswer) (torrent : Torrent) : Prop :=
  ∃ rows, qbittorrent = some (.torrents rows) ∧ some torrent ∈ rows

/-- The paths are equal, or one lies inside the other one. -/
def PathsOverlap (p q : LocalPath) : Prop :=
  p.root = q.root ∧ (p.parts <+: q.parts ∨ q.parts <+: p.parts)

/-- The components of a path as it stands, with backslashes read as slashes. -/
def componentsOf (path : String) : LocalPath := LocalPath.ofString (normalizeFpath path false)

/-- The save path of the torrent equals or contains the entry's path, or lies inside it. -/
def UsesPath (entry : FilesystemIndexEntry) (torrent : Torrent) : Prop :=
  ∃ savePath, torrent.savePath = some savePath ∧ PythonText.strip savePath ≠ "" ∧
    PathsOverlap (componentsOf savePath) (componentsOf entry.path)

/-- The torrent has the hash of the entry or uses its path. -/
def Uses (py : PythonCalls) (entry : FilesystemIndexEntry) (torrent : Torrent) : Prop :=
  matchesHash py entry torrent = true ∨ UsesPath entry torrent

/-- The entries that a run classifies as recoverable are not in use. -/
def SparesDownloadsInUse (py : PythonCalls) (w : Downloads) : Prop :=
  ∀ result, run py w = .ok result → ∀ entry ∈ filteredRows py w, ∀ item,
    classifyEntry py w (activeTorrents w.qbittorrent) entry = .ok item →
      item.cleanupClassification ∈ recoverableClasses →
        Obtained w.qbittorrent ∧ ∀ t, Listed w.qbittorrent t → ¬Uses py entry t

theorem mem_activeTorrents_iff {qbittorrent : Option ClientAnswer} {torrent : Torrent} :
    torrent ∈ activeTorrents qbittorrent ↔ Listed qbittorrent torrent := by
  unfold activeTorrents Listed
  cases qbittorrent with
  | none => simp
  | some client => cases client <;> simp [ClientAnswer.getTorrents, List.reduceOption_mem_iff]

theorem Listed.obtained {qbittorrent : Option ClientAnswer} {torrent : Torrent}
    (h : Listed qbittorrent torrent) : Obtained qbittorrent := by
  obtain ⟨rows, rfl, _⟩ := h
  rintro client ⟨⟩
  exact ⟨rows, rfl⟩

/-- No torrent that uses the path of the entry is overlooked: the search finds it, or another
one. -/
def FindsPathUsers (py : PythonCalls) (qbittorrent : Option ClientAnswer)
    (entry : FilesystemIndexEntry) : Prop :=
  ∀ t, Listed qbittorrent t → UsesPath entry t → ∃ t', Listed qbittorrent t' ∧ Matches py entry t'

/-- A run spares the downloads in use exactly when, unless the lookup of some entry's media raises,
for every entry with removable media the torrent list was obtained and no torrent that uses its path
is overlooked. -/
theorem sparesDownloadsInUse_iff (py : PythonCalls) (w : Downloads) :
    SparesDownloadsInUse py w ↔
      ((∀ entry ∈ filteredRows py w, ∃ evidence, mediaEvidence py w entry = .ok evidence) →
        ∀ entry ∈ filteredRows py w, ∀ evidence, mediaEvidence py w entry = .ok evidence →
          evidence.Removable → Obtained w.qbittorrent ∧ FindsPathUsers py w.qbittorrent entry) := by
  constructor
  · intro h hlookups entry hentry evidence hevidence hremovable
    obtain ⟨result, hresult⟩ := run_returns_iff.mpr hlookups
    by_cases hfound : ∃ t, Listed w.qbittorrent t ∧ Matches py entry t
    · obtain ⟨t, hlisted, hmatches⟩ := hfound
      exact ⟨hlisted.obtained, fun _ _ _ => ⟨t, hlisted, hmatches⟩⟩
    · have hnone : ∀ t ∈ activeTorrents w.qbittorrent, ¬Matches py entry t := fun t ht hmatches =>
        hfound ⟨t, mem_activeTorrents_iff.mp ht, hmatches⟩
      obtain ⟨hobtained, hunused⟩ := h result hresult entry hentry _
        (classifyEntry_eq_ok_iff.mpr ⟨evidence, hevidence, rfl⟩)
          (classify_mem_iff.mpr ⟨hnone, hremovable⟩)
      exact ⟨hobtained, fun t hlisted huses => absurd (Or.inr huses) (hunused t hlisted)⟩
  · intro h result hresult entry hentry item hitem hrecoverable
    obtain ⟨evidence, hevidence, rfl⟩ := classifyEntry_eq_ok_iff.mp hitem
    obtain ⟨hnone, hremovable⟩ := classify_mem_iff.mp hrecoverable
    obtain ⟨hobtained, hfinds⟩ :=
      h (run_returns_iff.mp ⟨result, hresult⟩) entry hentry evidence hevidence
      hremovable
    refine ⟨hobtained, fun t hlisted huses => ?_⟩
    rcases huses with hhash | hpath
    · exact hnone t (mem_activeTorrents_iff.mpr hlisted) (Or.inl hhash)
    · obtain ⟨t', hlisted', hmatches⟩ := hfinds t hlisted hpath
      exact hnone t' (mem_activeTorrents_iff.mpr hlisted') hmatches

/-! ## Plain paths -/

/-- An absolute path below the root, with names behind single slashes and nothing that the
normalisation changes. -/
structure PlainPath (path : String) (names : List String) : Prop where
  text : path.toList = names.flatMap fun name => '/' :: name.toList
  ne_nil : names ≠ []
  names : ∀ name ∈ names, name ≠ "" ∧ name ≠ "." ∧ '/' ∉ name.toList
  clean : normalizeFpath path false = path

/-- What `lower` does with slashes: it works on both sides of one by itself, and makes none. -/
structure KeepsSlashes (lower : String → String) : Prop where
  append : ∀ s t, lower (s ++ "/" ++ t) = lower s ++ "/" ++ lower t
  slashes : ∀ s, (∀ c ∈ (lower s).toList, c = '/') → ∀ c ∈ s.toList, c = '/'

theorem keepsSlashes_asciiLower : KeepsSlashes PythonText.asciiLower where
  append := fun s t => by
    apply String.toList_inj.mp
    simp [PythonText.asciiLower]
  slashes := fun s h c hc => by
    have hlower : c.toLower = '/' := h _ (by simpa [PythonText.asciiLower] using ⟨c, hc, rfl⟩)
    have hnat := congrArg Char.toNat hlower
    rw [PythonText.toNat_toLower] at hnat
    apply Char.toNat_inj.mp
    split_ifs at hnat with hupper
    · have hslash : '/'.toNat = 47 := rfl
      omega
    · exact hnat

theorem splitOn_flatMap {names : List String} (hnames : ∀ name ∈ names, '/' ∉ name.toList) :
    (names.flatMap fun name => '/' :: name.toList).splitOn '/' = [] :: names.map String.toList := by
  have hjoin : (names.flatMap fun name => '/' :: name.toList) =
      ['/'].intercalate ([] :: names.map String.toList) := by
    clear hnames
    induction names with
    | nil => rfl
    | cons name names ih =>
      rw [List.flatMap_cons, ih]
      cases names <;> simp
  rw [hjoin, List.splitOn_intercalate _ _ (List.cons_ne_nil _ _)]
  simpa using hnames

namespace PlainPath

variable {path path' : String} {names names' : List String}

theorem componentsOf_eq (h : PlainPath path names) : componentsOf path = ⟨"/", names⟩ := by
  obtain ⟨name, rest, rfl⟩ := List.exists_cons_of_ne_nil h.ne_nil
  have hparts : LocalPath.splitParts path = name :: rest := by
    rw [LocalPath.splitParts, h.text, splitOn_flatMap fun n hn => (h.names n hn).2.2]
    have hkept : ∀ n ∈ name :: rest, n ≠ "" ∧ n ≠ "." := fun n hn =>
      ⟨(h.names n hn).1, (h.names n hn).2.1⟩
    simpa [Function.comp_def] using hkept
  obtain ⟨hname, -, hslash⟩ := h.names name List.mem_cons_self
  have hslashes : (path.toList.takeWhile (· = '/')).length = 1 := by
    rw [h.text, List.flatMap_cons]
    cases hchars : name.toList with
    | nil => exact absurd (String.toList_eq_nil_iff.mp hchars) hname
    | cons c chars =>
      have hc : c ≠ '/' := fun hc => hslash (by simp [hchars, hc])
      simp [hc]
  rw [componentsOf, h.clean, LocalPath.ofString, hslashes, hparts]
  rfl

/-- Of two plain paths, the one that lies inside the other one continues it behind a slash. -/
theorem eq_append_of_prefix (h : PlainPath path names) (h' : PlainPath path' names')
    (hbegins : names <+: names') : path' = path ∨ ∃ rest, path' = path ++ "/" ++ rest := by
  obtain ⟨more, rfl⟩ := hbegins
  cases more with
  | nil =>
    left
    rw [List.append_nil] at h'
    exact String.toList_inj.mp (h'.text.trans h.text.symm)
  | cons name more =>
    right
    refine ⟨String.ofList (name.toList ++ more.flatMap fun n => '/' :: n.toList), ?_⟩
    apply String.toList_inj.mp
    rw [h'.text, List.flatMap_append, ← h.text]
    simp

end PlainPath

theorem norm_of_clean (py : PythonCalls) {path : String} (h : normalizeFpath path false = path) :
    norm py path = PythonText.rstrip '/' (py.lower path) := by
  rw [norm]
  rw [normalizeFpath] at h
  simpa using congrArg (fun s => PythonText.rstrip '/' (py.lower s)) h

theorem rdropWhile_prefix_append {α : Type} (p : α → Bool) (l m : List α) :
    l.rdropWhile p <+: (l ++ m).rdropWhile p := by
  induction m using List.reverseRecOn with
  | nil => simp
  | append_singleton m x ih =>
    rw [← List.append_assoc, List.rdropWhile_concat]
    split_ifs
    · exact ih
    · rw [List.append_assoc]
      exact (List.rdropWhile_prefix p l).trans (List.prefix_append l _)

/-- The normal form of a path begins with that of a path that contains it. -/
theorem startsWith_norm {py : PythonCalls} (hlower : KeepsSlashes py.lower) {path rest : String}
    (h : normalizeFpath path false = path)
    (h' : normalizeFpath (path ++ "/" ++ rest) false = path ++ "/" ++ rest) :
    PythonText.startsWith (norm py (path ++ "/" ++ rest)) (norm py path) = true := by
  rw [norm_of_clean py h, norm_of_clean py h', hlower.append, PythonText.startsWith,
    List.isPrefixOf_iff_prefix]
  simp only [PythonText.rstrip, String.toList_ofList, String.toList_append,
    PythonText.rstripWhere_eq,
    List.append_assoc]
  exact rdropWhile_prefix_append _ _ _

theorem PlainPath.norm_ne {py : PythonCalls} (hlower : KeepsSlashes py.lower) {path : String}
    {names : List String} (h : PlainPath path names) : norm py path ≠ "" := by
  intro hnorm
  rw [norm_of_clean py h.clean, PythonText.rstrip, PythonText.rstripWhere_eq] at hnorm
  have hdropped := congrArg String.toList hnorm
  rw [String.toList_ofList, String.toList_empty, List.rdropWhile_eq_nil_iff] at hdropped
  have hslashes : ∀ c ∈ path.toList, c = '/' := hlower.slashes path fun c hc => by
    simpa using hdropped c hc
  obtain ⟨name, rest, rfl⟩ := List.exists_cons_of_ne_nil h.ne_nil
  obtain ⟨hname, -, hslash⟩ := h.names name List.mem_cons_self
  obtain ⟨c, chars, hchars⟩ := List.exists_cons_of_ne_nil (mt String.toList_eq_nil_iff.mp hname)
  have hc : c ∈ name.toList := hchars ▸ List.mem_cons_self
  have hmem : c ∈ path.toList := by
    rw [h.text, List.flatMap_cons]
    simp [hc]
  exact hslash (hslashes c hmem ▸ hc)

/-- Among plain paths, no torrent that uses the path of an entry is overlooked. -/
theorem matchesPath_of_plain {py : PythonCalls} (hlower : KeepsSlashes py.lower)
    {entry : FilesystemIndexEntry} {torrent : Torrent} {savePath : String}
      {names names' : List String}
    (hentry : PlainPath entry.path names) (hsave : torrent.savePath = some savePath)
    (hplain : PlainPath savePath names') (huses : UsesPath entry torrent) :
    matchesPath py entry torrent = true := by
  obtain ⟨_, hsame, -, -, hoverlap⟩ := huses
  obtain rfl := Option.some.inj (hsave.symm.trans hsame)
  rw [hentry.componentsOf_eq, hplain.componentsOf_eq] at hoverlap
  have hne : norm py savePath ≠ "" := hplain.norm_ne hlower
  have hstarts : PythonText.startsWith (norm py entry.path) (norm py savePath) = true ∨
      PythonText.startsWith (norm py savePath) (norm py entry.path) = true := by
    rcases hoverlap with hinside | hinside
    · left
      rcases hplain.eq_append_of_prefix hentry hinside with heq | ⟨rest, heq⟩
      · simp [heq, PythonText.startsWith]
      · rw [heq]
        exact startsWith_norm hlower hplain.clean (heq ▸ hentry.clean)
    · right
      rcases hentry.eq_append_of_prefix hplain hinside with heq | ⟨rest, heq⟩
      · simp [heq, PythonText.startsWith]
      · rw [heq]
        exact startsWith_norm hlower hentry.clean (heq ▸ hplain.clean)
  simp only [matchesPath, hsave, Option.getD_some]
  simpa [hne] using hstarts

/-- A file of a movie that has left the library. -/
def orphanedEntry : FilesystemIndexEntry where
  rootId := 1
  path := "/media/downloads/Movie/movie.mkv"
  entryType := "file"
  sizeBytes := 1000
  metadataJson := [("movie_id", .str "7")]
  indexedAt := 0

def orphanedDownload (client : ClientAnswer) : Downloads where
  roots := [{ id := 1, name := "Downloads", path := "/media/downloads" }]
  entries := [orphanedEntry]
  qbittorrent := some client
  mediaGraph := fun _ _ => .ok none

/-- The calls on ASCII texts, of which only `7` is a number. -/
def asciiCalls : PythonCalls where
  lower := PythonText.asciiLower
  upper := fun s => String.ofList (s.toList.map Char.toUpper)
  str := fun value => match value with
    | .str s => s
    | _ => ""
  int := fun text => if text = "7" then some 7 else none

/-- A torrent that saves to the folder of the file is found. -/
theorem matchesPath_of_plain_folder :
    matchesPath asciiCalls orphanedEntry { savePath := some "/media/downloads/Movie" } = true := by
  have hentry : PlainPath orphanedEntry.path ["media", "downloads", "Movie", "movie.mkv"] :=
    ⟨by decide, by decide, by decide, by decide⟩
  have hfolder : PlainPath "/media/downloads/Movie" ["media", "downloads", "Movie"] :=
    ⟨by decide, by decide, by decide, by decide⟩
  refine matchesPath_of_plain keepsSlashes_asciiLower hentry rfl hfolder ⟨_, rfl, by decide, ?_⟩
  rw [hfolder.componentsOf_eq, hentry.componentsOf_eq]
  exact ⟨rfl, .inl (by decide)⟩

/-- A torrent that saves to the folder of the file is found, one that saves to the root is not. -/
example : matchesPath asciiCalls orphanedEntry { savePath := some "/media/downloads/Movie/" } =
    true ∧
    matchesPath asciiCalls orphanedEntry { savePath := some "/" } = false := by
  decide

/-- Behind a client that does not answer, the file is safe to delete. -/
theorem not_sparesDownloadsInUse : ¬∀ (py : PythonCalls) (w : Downloads),
    SparesDownloadsInUse py w := by
  intro h
  have hrow : orphanedEntry ∈ filteredRows asciiCalls (orphanedDownload .failed) :=
    List.mem_filter.mpr ⟨List.mem_singleton_self _, by decide⟩
  have hevidence : mediaEvidence asciiCalls (orphanedDownload .failed) orphanedEntry =
      .ok ⟨some (.movie, 7), none⟩ := rfl
  obtain ⟨result, hresult⟩ : ∃ result, run asciiCalls (orphanedDownload .failed) = .ok result := by
    refine run_returns_iff.mpr fun entry hentry => ?_
    obtain rfl := List.mem_singleton.mp (List.mem_filter.mp hentry).1
    exact ⟨_, hevidence⟩
  have hrecoverable := h asciiCalls (orphanedDownload .failed) result hresult orphanedEntry hrow _
    (classifyEntry_eq_ok_iff.mpr ⟨_, hevidence, rfl⟩)
    (classify_mem_iff.mpr ⟨fun _ ht => absurd ht List.not_mem_nil, by decide, by decide⟩)
  obtain ⟨rows, hrows⟩ := hrecoverable.1 .failed rfl
  cases hrows

end MediaMasterr.Mie
