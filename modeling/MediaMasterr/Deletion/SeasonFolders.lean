import MediaMasterr.Filesystem.SeasonNames
import MediaMasterr.Deletion.Season

/-! # Folders of one season

When `find_season_folder` keeps the seasons of a series apart, and with it the folders
that the unmonitor route removes. -/

namespace MediaMasterr.Deletion

open MediaMasterr.Foundations MediaMasterr.Database MediaMasterr.Filesystem

/-- The folder of the series as the delete handler finds it on the disk. -/
def localSeriesPath (settings : GeneralSettings) (disk : DiskView) (ref : SeriesArrRef) :
    Option LocalPath := do
  let seriesPath ← ref.arrSeriesPath
  if seriesPath = "" then none
  else
    let initial := LocalPath.ofString seriesPath
    let localSeriesPath :=
      if disk.isDir initial then some initial
      else resolvePath disk (some .sonarr) (some ref.serviceConfigId) (some seriesPath)
        settings.pathMappings
    localSeriesPath.filter disk.isDir

theorem seasonFolder_eq (env : Environment) (settings : GeneralSettings)
    (disk : DiskView) (season : Season) (ref : SeriesArrRef) :
    Season.seasonFolder env settings disk season ref =
      (localSeriesPath settings disk ref).bind fun path =>
        (findSeasonFolder disk env.search path season.seasonNumber).filter disk.isDir := by
  rw [Season.seasonFolder, localSeriesPath]
  cases ref.arrSeriesPath with
  | none => rfl
  | some seriesPath =>
    rw [Option.bind_eq_bind, Option.bind_some]
    dsimp only
    split
    · rfl
    · split
      case h_1 path hpath =>
        rw [hpath, Option.filter_some]
        split <;> rfl
      case h_2 hpath =>
        rw [hpath]
        rfl

variable (table : DigitTable)

/-- The seasons of a folder's directories are found apart, each in its exactly named
directory if there is one, and none is removed for another. -/
structure FindsSeasonsApart (disk : DiskView) (path : LocalPath) : Prop where
  apart : ∀ m n folder folder', m ≠ n →
    findSeasonFolder disk (reSearch table) path m = some folder →
      findSeasonFolder disk (reSearch table) path n = some folder' → folder ≠ folder'
  exact : ∀ n, ∀ name ∈ subdirectories disk path, IsExactName n name →
    ∃ name' ∈ subdirectories disk path, IsExactName n name' ∧
      findSeasonFolder disk (reSearch table) path n = some (path.joinParts [name'])
  removed : ∀ (env : Environment) (settings : GeneralSettings) (ref : SeriesArrRef)
    (season season' : Season) (folder : LocalPath), env.search = reSearch table →
      localSeriesPath settings disk ref = some path →
        season.seasonNumber ≠ season'.seasonNumber →
          Season.seasonFolder env settings disk season ref = some folder →
            Season.seasonFolder env settings disk season' ref ≠ some folder

/-- `name` is the first of the names that tells the season. -/
def FirstTells (before : List String) (name : String) (n : Nat) : Prop :=
  n ∈ seasonNumbers table name ∧ ∀ other ∈ before, n ∉ seasonNumbers table other

/-- A directory is the first to tell one season at most, and one with a longer name is so
only where no directory is named exactly after the season. -/
def NamesSeasonsApart (names : List String) : Prop :=
  ∀ before name after, names = before ++ name :: after → ∀ n, FirstTells table before name n →
    (∀ m, FirstTells table before name m → m = n) ∧
      (IsExactName n name ∨ ∀ other ∈ after, ¬IsExactName n other)

theorem findSeasonFolder_eq_some_iff {disk : DiskView} {path : LocalPath} {n : Nat}
    {folder : LocalPath} :
    findSeasonFolder disk (reSearch table) path n = some folder ↔
      ∃ before name after, subdirectories disk path = before ++ name :: after ∧
        FirstTells table before name n ∧ folder = path.joinParts [name] := by
  rw [findSeasonFolder_eq, Option.map_eq_some_iff]
  constructor
  · rintro ⟨name, hname, rfl⟩
    obtain ⟨htells, before, after, hnames, hbefore⟩ := List.find?_eq_some_iff_append.mp hname
    exact ⟨before, name, after, hnames, ⟨List.contains_iff_mem.mp htells, fun other hother h => by
      simpa [h] using hbefore other hother⟩, rfl⟩
  · rintro ⟨before, name, after, hnames, ⟨htells, hbefore⟩, rfl⟩
    refine ⟨name, List.find?_eq_some_iff_append.mpr ⟨by simpa using htells, before, after, hnames,
      fun other hother => by simpa using hbefore other hother⟩, rfl⟩

/-- A name is the first at one place only. -/
theorem FirstTells.before_eq {before before' after after' : List String} {name : String}
    {m n : Nat} (h : FirstTells table before name m) (h' : FirstTells table before' name n)
    (hnames : before ++ name :: after = before' ++ name :: after') : before = before' := by
  rcases List.append_eq_append_iff.mp hnames with ⟨middle, rfl, hmiddle⟩ | ⟨middle, rfl, hmiddle⟩
  · cases middle with
    | nil => simp
    | cons first middle =>
      obtain ⟨rfl, -⟩ := List.cons.inj hmiddle
      exact absurd h'.1 (h'.2 name (by simp))
  · cases middle with
    | nil => simp
    | cons first middle =>
      obtain ⟨rfl, -⟩ := List.cons.inj hmiddle
      exact absurd h.1 (h.2 name (by simp))

variable {table} in
theorem NamesSeasonsApart.findsSeasonsApart {disk : DiskView} {path : LocalPath}
    (h : NamesSeasonsApart table (subdirectories disk path)) :
    FindsSeasonsApart table disk path := by
  have hapart : ∀ m n folder folder', m ≠ n →
      findSeasonFolder disk (reSearch table) path m = some folder →
        findSeasonFolder disk (reSearch table) path n = some folder' → folder ≠ folder' := by
    intro m n folder folder' hne hm hn hfolder
    obtain ⟨before, name, after, hnames, hfirst, rfl⟩ :=
      (findSeasonFolder_eq_some_iff table).mp hm
    obtain ⟨before', name', after', hnames', hfirst', rfl⟩ :=
      (findSeasonFolder_eq_some_iff table).mp hn
    obtain rfl := joinParts_injective table hfirst.1 hfirst'.1 hfolder
    obtain rfl := hfirst.before_eq table hfirst' (hnames.symm.trans hnames')
    exact hne ((h before name after hnames n hfirst').1 m hfirst)
  refine ⟨hapart, fun n name hmem hexact => ?_, ?_⟩
  · have htells := mem_seasonNumbers_of_isExactName table hexact
    have hfound : ((subdirectories disk path).find? fun name =>
        (seasonNumbers table name).contains n).isSome :=
      List.find?_isSome.mpr ⟨name, hmem, by simpa using htells⟩
    obtain ⟨found, hfound⟩ := Option.isSome_iff_exists.mp hfound
    have htold : n ∈ seasonNumbers table found := by simpa using List.find?_some hfound
    have hfolder : findSeasonFolder disk (reSearch table) path n =
        some (path.joinParts [found]) := by
      rw [findSeasonFolder_eq, hfound, Option.map_some]
    refine ⟨found, List.mem_of_find?_eq_some hfound, ?_, hfolder⟩
    obtain ⟨before, first, after, hnames, hfirst, hsame⟩ :=
      (findSeasonFolder_eq_some_iff table).mp hfolder
    obtain rfl := joinParts_injective table htold hfirst.1 hsame
    rcases (h before found after hnames n hfirst).2 with hexact' | hafter
    · exact hexact'
    · rw [hnames] at hmem
      rcases List.mem_append.mp hmem with hbefore | hmem
      · exact absurd htells (hfirst.2 name hbefore)
      · rcases List.mem_cons.mp hmem with rfl | hmem
        · exact hexact
        · exact absurd hexact (hafter name hmem)
  · intro env settings ref season season' folder hsearch hpath hne hfolder hfolder'
    rw [seasonFolder_eq, hpath, Option.bind_some, hsearch] at hfolder hfolder'
    exact hapart _ _ folder folder hne (Option.eq_some_of_filter_eq_some hfolder)
      (Option.eq_some_of_filter_eq_some hfolder') rfl

theorem findsSeasonsApart_iff (disk : DiskView) (path : LocalPath) :
    FindsSeasonsApart table disk path ↔ NamesSeasonsApart table (subdirectories disk path) := by
  refine ⟨fun h before name after hnames n hfirst => ?_, NamesSeasonsApart.findsSeasonsApart⟩
  have hfind : ∀ {m}, FirstTells table before name m →
      findSeasonFolder disk (reSearch table) path m = some (path.joinParts [name]) :=
    fun hm => (findSeasonFolder_eq_some_iff table).mpr ⟨before, name, after, hnames, hm, rfl⟩
  constructor
  · intro m hm
    by_contra hne
    exact h.apart m n _ _ hne (hfind hm) (hfind hfirst) rfl
  · refine or_iff_not_imp_left.mpr fun hexact other hother hother' => hexact ?_
    obtain ⟨name', -, hexact', hfolder⟩ := h.exact n other (by rw [hnames]; simp [hother]) hother'
    obtain rfl := joinParts_injective table hfirst.1
      (mem_seasonNumbers_of_isExactName table hexact')
      (Option.some.inj ((hfind hfirst).symm.trans hfolder))
    exact hexact'

/-- Listed first, the specials of a season are taken for the season and for the specials of
the series. -/
theorem not_findsSeasonsApart_specials :
    ¬∀ (table : DigitTable) (disk : DiskView) (path : LocalPath),
      FindsSeasonsApart table disk path := by
  intro h
  let disk : DiskView := {
    isDir := fun _ => true
    iterdir := fun _ => ["Season 1 Specials", "Specials", "Season 1"] }
  have hfound := (h ⟨Char.isDigit, fun _ hc => hc, rfl⟩ disk ⟨"/", ["tv"]⟩).apart 0 1
    ⟨"/", ["tv", "Season 1 Specials"]⟩ ⟨"/", ["tv", "Season 1 Specials"]⟩ (by decide)
    (by decide +kernel) (by decide +kernel)
  exact hfound rfl

end MediaMasterr.Deletion
