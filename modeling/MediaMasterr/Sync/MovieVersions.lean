import Mathlib.Algebra.Ring.Nat
import MediaMasterr.Database.Tables
import MediaMasterr.Foundations.Dict
import MediaMasterr.Foundations.Writes

/-! # Version sync

`_upsert_movie_versions`: the version rows of a movie follow the versions that
the main server reports. A version is found by its key, else by the fingerprint
of its file, and the rows of no version are pruned. -/

namespace MediaMasterr.Database

/-- The columns of a media file that a rename keeps. -/
structure Fingerprint where
  service : Service
  videoWidth : Option Nat
  videoHeight : Option Nat
  videoCodec : Option String
  videoHdr : Option Bool
  videoDolbyVision : Option Bool
  size : Nat
  container : Option String
  deriving DecidableEq, Repr

/-- `_make_fp`: only a file with a size, a width and a height has a fingerprint. -/
def makeFp (fp : Fingerprint) : Option Fingerprint :=
  if fp.size ≠ 0 ∧ fp.videoWidth.getD 0 ≠ 0 ∧ fp.videoHeight.getD 0 ≠ 0 then some fp else none

/-- `(service, service_media_id)`. -/
abbrev VersionKey := Service × String

namespace MovieVersion

def key (row : MovieVersion) : VersionKey := (row.service, row.serviceMediaId)

def fp (row : MovieVersion) : Option Fingerprint :=
  makeFp ⟨row.service, row.videoWidth, row.videoHeight, row.videoCodec, row.videoHdr,
    row.videoDolbyVision, row.size, row.container⟩

end MovieVersion

end MediaMasterr.Database

namespace MediaMasterr.Sync

open MediaMasterr.Foundations MediaMasterr.Database

structure MovieVersionData where
  service : Service
  serviceItemId : String
  serviceMediaId : String
  libraryId : String := ""
  path : Option String := none
  size : Nat := 0
  addedAt : Option Nat := none
  container : Option String := none
  videoCodec : Option String := none
  videoHdr : Option Bool := none
  videoDolbyVision : Option Bool := none
  videoWidth : Option Nat := none
  videoHeight : Option Nat := none
  deriving DecidableEq, Repr

namespace MovieVersionData

def key (ver : MovieVersionData) : VersionKey := (ver.service, ver.serviceMediaId)

def fp (ver : MovieVersionData) : Option Fingerprint :=
  makeFp ⟨ver.service, ver.videoWidth, ver.videoHeight, ver.videoCodec, ver.videoHdr,
    ver.videoDolbyVision, ver.size, ver.container⟩

/-- The columns that every found row gets. -/
def setFields (ver : MovieVersionData) (ev : MovieVersion) : MovieVersion :=
  { ev with
    libraryId := ver.libraryId
    path := ver.path
    size := ver.size
    container := ver.container
    videoCodec := ver.videoCodec
    videoHdr := ver.videoHdr
    videoDolbyVision := ver.videoDolbyVision
    videoWidth := ver.videoWidth
    videoHeight := ver.videoHeight
    addedAt := ver.addedAt <|> ev.addedAt }

/-- The ids that a renamed row gets as well. -/
def setServiceIds (ver : MovieVersionData) (ev : MovieVersion) : MovieVersion :=
  { ev with serviceMediaId := ver.serviceMediaId, serviceItemId := ver.serviceItemId }

def newRow (movieId : Nat) (ver : MovieVersionData) (id : Nat) : MovieVersion where
  id := id
  movieId := movieId
  service := ver.service
  serviceItemId := ver.serviceItemId
  serviceMediaId := ver.serviceMediaId
  libraryId := ver.libraryId
  path := ver.path
  size := ver.size
  addedAt := ver.addedAt
  container := ver.container
  videoCodec := ver.videoCodec
  videoHdr := ver.videoHdr
  videoDolbyVision := ver.videoDolbyVision
  videoWidth := ver.videoWidth
  videoHeight := ver.videoHeight

end MovieVersionData

/-! ## The upsert -/

/-- `existing`. -/
def existingVersions (rows : List MovieVersion) : Dict VersionKey MovieVersion :=
  rows.foldl (fun existing v => existing.set v.key v) ∅

/-- One row in `fp_map`; `none` stands for a fingerprint of several rows. -/
def indexFp (fpMap : Dict Fingerprint (Option MovieVersion)) (ev : MovieVersion) :
    Dict Fingerprint (Option MovieVersion) :=
  match ev.fp with
  | none => fpMap
  | some fp => fpMap.set fp (if fp ∈ fpMap.keys then none else some ev)

/-- `fp_map`. -/
def fpMap (rows : List MovieVersion) : Dict Fingerprint (Option MovieVersion) :=
  rows.foldl indexFp ∅

/-- The row that a version goes to. -/
inductive VersionTarget where
  | matched (ev : MovieVersion)
  | renamed (fp : Fingerprint) (ev : MovieVersion)
  | new

def versionTarget (existing : Dict VersionKey MovieVersion)
    (fpMap : Dict Fingerprint (Option MovieVersion)) (ver : MovieVersionData) : VersionTarget :=
  match existing.get? ver.key with
  | some ev => .matched ev
  | none =>
    match ver.fp with
    | none => .new
    | some fp =>
      match fpMap.get? fp with
      | some (some ev) => .renamed fp ev
      | _ => .new

/-- The state of the loop over the incoming versions; `rows` is the table. -/
structure VersionSync where
  rows : List MovieVersion
  fpMap : Dict Fingerprint (Option MovieVersion)
  incomingKeys : List VersionKey := []

/-- What a target means for the table. -/
def VersionTarget.write (movieId : Nat) (ver : MovieVersionData) : VersionTarget →
    Write MovieVersion
  | .matched ev => .update ev.id ver.setFields
  | .renamed _ ev => .update ev.id (ver.setFields ∘ ver.setServiceIds)
  | .new => .insert (ver.newRow movieId)

/-- One incoming version. A row is renamed once only, so the service ids in `fp_map` are those
it still has. -/
def upsertVersion (movieId : Nat) (existing : Dict VersionKey MovieVersion) (state : VersionSync)
    (ver : MovieVersionData) : VersionSync :=
  let target := versionTarget existing state.fpMap ver
  let rows := (target.write movieId ver).apply MovieVersion.id state.rows
  let incomingKeys := state.incomingKeys ++ [ver.key]
  match target with
  | .renamed fp ev =>
    { rows, fpMap := state.fpMap.set fp none, incomingKeys := incomingKeys ++ [ev.key] }
  | _ => { rows, fpMap := state.fpMap, incomingKeys }

/-- The version rows of a movie. -/
def versionRows (db : Tables) (movieId : Nat) : List MovieVersion :=
  db.movieVersions.filter (·.movieId = movieId)

section

variable (db : Tables) (movieId : Nat) (versions : List MovieVersionData)

def upsertVersions : VersionSync :=
  let existing := existingVersions (versionRows db movieId)
  versions.foldl (upsertVersion movieId existing)
    { rows := db.movieVersions, fpMap := fpMap existing.values }

/-- The ids of the rows that the prune deletes. -/
def staleVersions : List Nat :=
  ((existingVersions (versionRows db movieId)).entries.filter fun e =>
    e.1 ∉ (upsertVersions db movieId versions).incomingKeys).map fun e => e.2.id

/-- `_upsert_movie_versions`. -/
def upsertMovieVersions : Tables :=
  { db with
    movieVersions := (upsertVersions db movieId versions).rows.filter
      (·.id ∉ staleVersions db movieId versions)
    movies := db.movies.map fun m =>
      if m.id = movieId then { m with size := some (versions.map (·.size)).sum } else m }

end

/-- The first version of each key, as a new movie takes them. -/
def firstVersions (versions : List MovieVersionData) : List MovieVersionData :=
  versions.foldl (fun seen ver => if ver.key ∈ seen.map (·.key) then seen else seen ++ [ver]) []

/-! ## The plan of an upsert -/

/-- The row of a target. -/
def VersionTarget.row? : VersionTarget → Option MovieVersion
  | .matched ev => some ev
  | .renamed _ ev => some ev
  | .new => none

/-- `fp_map` after a version went to its target. -/
def VersionTarget.consume (fpMap : Dict Fingerprint (Option MovieVersion)) :
    VersionTarget → Dict Fingerprint (Option MovieVersion)
  | .renamed fp _ => fpMap.set fp none
  | _ => fpMap

/-- The versions with their targets, which do not depend on what the loop writes. -/
def plan (existing : Dict VersionKey MovieVersion) :
    Dict Fingerprint (Option MovieVersion) → List MovieVersionData →
      List (MovieVersionData × VersionTarget)
  | _, [] => []
  | fpMap, ver :: versions =>
    let target := versionTarget existing fpMap ver
    (ver, target) :: plan existing (target.consume fpMap) versions

section Plan

variable {existing : Dict VersionKey MovieVersion} {movieId : Nat}
variable {fpMap : Dict Fingerprint (Option MovieVersion)} {versions : List MovieVersionData}
variable {ver : MovieVersionData} {ev : MovieVersion} {fp : Fingerprint}

theorem foldl_upsertVersion_rows (state : VersionSync) :
    (versions.foldl (upsertVersion movieId existing) state).rows =
      Write.applyAll MovieVersion.id state.rows
        ((plan existing state.fpMap versions).map fun p => p.2.write movieId p.1) := by
  induction versions generalizing state with
  | nil => rfl
  | cons ver versions ih =>
    rw [List.foldl_cons, ih]
    dsimp only [plan, upsertVersion]
    rw [List.map_cons, Write.applyAll, Write.applyAll, List.foldl_cons]
    cases versionTarget existing state.fpMap ver <;> rfl

theorem mem_foldl_upsertVersion_incomingKeys (state : VersionSync) (key : VersionKey) :
    key ∈ (versions.foldl (upsertVersion movieId existing) state).incomingKeys ↔
      key ∈ state.incomingKeys ∨ key ∈ versions.map (·.key) ∨
        ∃ ver fp ev, (ver, .renamed fp ev) ∈ plan existing state.fpMap versions ∧ key = ev.key := by
  induction versions generalizing state with
  | nil => simp [plan]
  | cons ver versions ih =>
    rw [List.foldl_cons, ih]
    dsimp only [plan, upsertVersion]
    cases versionTarget existing state.fpMap ver with
    | matched ev => simp [VersionTarget.consume, or_assoc]
    | new => simp [VersionTarget.consume, or_assoc]
    | renamed fp ev =>
      simp only [VersionTarget.consume, List.mem_append, List.map_cons, List.mem_cons,
        List.not_mem_nil, or_false, Prod.mk.injEq, VersionTarget.renamed.injEq]
      constructor
      · rintro (((h | rfl) | rfl) | h | ⟨ver', fp', ev', h, rfl⟩)
        · exact .inl h
        · exact .inr (.inl (.inl rfl))
        · exact .inr (.inr ⟨ver, fp, ev, .inl ⟨rfl, rfl, rfl⟩, rfl⟩)
        · exact .inr (.inl (.inr h))
        · exact .inr (.inr ⟨ver', fp', ev', .inr h, rfl⟩)
      · rintro (h | (rfl | h) | ⟨ver', fp', ev', ⟨rfl, rfl, rfl⟩ | h, rfl⟩)
        · exact .inl (.inl (.inl h))
        · exact .inl (.inl (.inr rfl))
        · exact .inr (.inl h)
        · exact .inl (.inr rfl)
        · exact .inr (.inr ⟨ver', fp', ev', h, rfl⟩)

theorem plan_map_fst : (plan existing fpMap versions).map Prod.fst = versions := by
  induction versions generalizing fpMap with
  | nil => rfl
  | cons ver versions ih => rw [plan, List.map_cons, ih]

theorem versionTarget_matched_iff :
    versionTarget existing fpMap ver = .matched ev ↔ existing.get? ver.key = some ev := by
  unfold versionTarget
  grind

theorem versionTarget_renamed_iff :
    versionTarget existing fpMap ver = .renamed fp ev ↔ existing.get? ver.key = none ∧
      ver.fp = some fp ∧ fpMap.get? fp = some (some ev) := by
  unfold versionTarget
  grind

theorem mem_plan_matched_iff : (ver, .matched ev) ∈ plan existing fpMap versions ↔
    ver ∈ versions ∧ existing.get? ver.key = some ev := by
  induction versions generalizing fpMap with
  | nil => simp [plan]
  | cons ver' versions ih =>
    rw [plan, List.mem_cons, ih, Prod.mk.injEq, List.mem_cons, or_and_right]
    refine or_congr ?_ Iff.rfl
    rw [and_congr_right_iff]
    rintro rfl
    rw [eq_comm, versionTarget_matched_iff]

theorem get?_consume {target : VersionTarget}
    (h : (target.consume fpMap).get? fp = some (some ev)) :
    fpMap.get? fp = some (some ev) := by
  cases target with
  | renamed fp' ev' =>
    rw [VersionTarget.consume, Dict.get?_set] at h
    split_ifs at h with hfp
    · simp at h
    · exact h
  | matched ev' => exact h
  | new => exact h

theorem of_mem_plan_renamed (h : (ver, .renamed fp ev) ∈ plan existing fpMap versions) :
    ver ∈ versions ∧ existing.get? ver.key = none ∧ ver.fp = some fp ∧
      fpMap.get? fp = some (some ev) := by
  induction versions generalizing fpMap with
  | nil => simp [plan] at h
  | cons ver' versions ih =>
    rw [plan, List.mem_cons, Prod.mk.injEq] at h
    rcases h with ⟨rfl, htarget⟩ | h
    · exact ⟨List.mem_cons_self, versionTarget_renamed_iff.mp htarget.symm⟩
    · obtain ⟨hmem, hnew, hfp, hget⟩ := ih h
      exact ⟨List.mem_cons_of_mem _ hmem, hnew, hfp, get?_consume hget⟩

/-- A fingerprint renames one row only. -/
theorem plan_renamed_pairwise : (plan existing fpMap versions).Pairwise fun p q =>
    ∀ fp ev ev', p.2 = .renamed fp ev → q.2 ≠ .renamed fp ev' := by
  induction versions generalizing fpMap with
  | nil => exact .nil
  | cons ver versions ih =>
    refine List.pairwise_cons.mpr ⟨?_, ih⟩
    rintro ⟨ver', target'⟩ hmem fp ev ev' htarget rfl
    have hget := (of_mem_plan_renamed hmem).2.2.2
    dsimp only at htarget
    simp [htarget, VersionTarget.consume] at hget

/-- A version without a row of its key takes the row of its fingerprint, or another one did. -/
theorem exists_mem_plan_renamed (hver : ver ∈ versions) (hnew : existing.get? ver.key = none)
    (hfp : ver.fp = some fp) (hget : fpMap.get? fp = some (some ev)) :
    ∃ ver', (ver', .renamed fp ev) ∈ plan existing fpMap versions := by
  induction versions generalizing fpMap with
  | nil => simp at hver
  | cons first versions ih =>
    by_cases htarget : versionTarget existing fpMap first = .renamed fp ev
    · exact ⟨first, by rw [plan, htarget]; exact List.mem_cons_self⟩
    · rcases List.mem_cons.mp hver with rfl | hver
      · exact absurd (versionTarget_renamed_iff.mpr ⟨hnew, hfp, hget⟩) htarget
      · have hkeep : ((versionTarget existing fpMap first).consume fpMap).get? fp = some
          (some ev) := by
          cases hfirst : versionTarget existing fpMap first with
          | matched ev' => exact hget
          | new => exact hget
          | renamed fp' ev' =>
            rw [VersionTarget.consume, Dict.get?_set, if_neg, hget]
            rintro rfl
            have hget' := (versionTarget_renamed_iff.mp hfirst).2.2
            rw [hget, Option.some.injEq, Option.some.injEq] at hget'
            exact htarget (hget' ▸ hfirst)
        obtain ⟨ver', hmem⟩ := ih hver hkeep
        exact ⟨ver', List.mem_cons_of_mem _ hmem⟩

end Plan

/-! ## The maps of the existing rows -/

section Maps

variable {rows : List MovieVersion} {ev : MovieVersion}

theorem existingVersions_entries (hkeys : (rows.map (·.key)).Nodup) :
    (existingVersions rows).entries = rows.map fun row => (row.key, row) :=
  Dict.entries_foldl_set hkeys

theorem existingVersions_get? (hkeys : (rows.map (·.key)).Nodup) (key : VersionKey) :
    (existingVersions rows).get? key = some ev ↔ ev ∈ rows ∧ ev.key = key := by
  rw [Dict.get?_eq_some_iff, existingVersions_entries hkeys, List.mem_map]
  constructor
  · rintro ⟨row, hrow, heq⟩
    obtain ⟨rfl, rfl⟩ := Prod.mk.inj heq
    exact ⟨hrow, rfl⟩
  · rintro ⟨hmem, rfl⟩
    exact ⟨ev, hmem, rfl⟩

theorem existingVersions_get?_eq_none (hkeys : (rows.map (·.key)).Nodup) (key : VersionKey) :
    (existingVersions rows).get? key = none ↔ ∀ row ∈ rows, row.key ≠ key := by
  rw [Option.eq_none_iff_forall_ne_some]
  simp only [ne_eq, existingVersions_get? hkeys, not_and]

theorem existingVersions_values (hkeys : (rows.map (·.key)).Nodup) :
    (existingVersions rows).values = rows := by
  rw [Dict.values, existingVersions_entries hkeys, List.map_map]
  exact List.map_id _

theorem fpMap_get?_eq (fp : Fingerprint) : (fpMap rows).get? fp =
    match rows.filter (·.fp = some fp) with
    | [] => none
    | [ev] => some (some ev)
    | _ => some none := by
  induction rows using List.reverseRecOn with
  | nil => rfl
  | append_singleton rows row ih =>
    rw [fpMap, List.foldl_append, List.foldl_cons, List.foldl_nil, List.filter_append]
    change (indexFp (fpMap rows) row).get? fp = _
    have hkey : fp ∈ (fpMap rows).keys ↔ rows.filter (·.fp = some fp) ≠ [] := by
      rw [← not_iff_not, ← Dict.get?_eq_none_iff, ih, ne_eq, not_not]
      split <;> simp_all
    unfold indexFp
    cases hfp : row.fp with
    | none => simp [ih, hfp]
    | some fp' =>
      rw [Dict.get?_set]
      by_cases hsame : fp = fp'
      · subst hsame
        rw [if_pos rfl]
        cases hrows : rows.filter (·.fp = some fp) with
        | nil => simp [hkey, hrows, hfp]
        | cons first others => cases others <;> simp [hkey, hrows, hfp]
      · rw [if_neg hsame, ih]
        simp [hfp, Ne.symm hsame]

/-- A fingerprint leads to the only row that has it. -/
theorem fpMap_get?_iff (hrows : rows.Nodup) (fp : Fingerprint) :
    (fpMap rows).get? fp = some (some ev) ↔
      ev ∈ rows ∧ ev.fp = some fp ∧ ∀ ev' ∈ rows, ev'.fp = some fp → ev' = ev := by
  rw [fpMap_get?_eq]
  constructor
  · intro h
    split at h
    · simp at h
    · rename_i ev' hfilter
      obtain rfl : ev' = ev := by simpa using h
      have hmem : ∀ row, row ∈ rows ∧ row.fp = some fp ↔ row = ev' := by
        intro row
        have := congrArg (row ∈ ·) hfilter
        simpa using this.to_iff
      exact ⟨((hmem ev').mpr rfl).1, ((hmem ev').mpr rfl).2, fun row hrow hfp =>
        (hmem row).mp ⟨hrow, hfp⟩⟩
    · simp at h
  · rintro ⟨hmem, hfp, hone⟩
    have hfilter : rows.filter (·.fp = some fp) = [ev] := by
      have hperm : (rows.filter (·.fp = some fp)).Perm [ev] :=
        (List.perm_ext_iff_of_nodup (hrows.filter _) (List.nodup_singleton ev)).mpr fun row => by
          simp only [List.mem_filter, decide_eq_true_eq, List.mem_singleton]
          exact ⟨fun h => hone row h.1 h.2, fun h => h ▸ ⟨hmem, hfp⟩⟩
      exact List.perm_singleton.mp hperm
    rw [hfilter]

end Maps

/-! ## The rows after an upsert -/

/-- The schema's keys, and incoming versions with different keys. -/
structure Distinct (db : Tables) (movieId : Nat) (versions : List MovieVersionData) : Prop where
  ids : (db.movieVersions.map (·.id)).Nodup
  rowKeys : ((versionRows db movieId).map (·.key)).Nodup
  incomingKeys : (versions.map (·.key)).Nodup

/-- The plan of an upsert. -/
def versionPlan (db : Tables) (movieId : Nat) (versions : List MovieVersionData) :
    List (MovieVersionData × VersionTarget) :=
  plan (existingVersions (versionRows db movieId))
    (fpMap (existingVersions (versionRows db movieId)).values) versions

def versionWrites (db : Tables) (movieId : Nat) (versions : List MovieVersionData) :
    List (Write MovieVersion) :=
  (versionPlan db movieId versions).map fun p => p.2.write movieId p.1

section Result

variable {db : Tables} {movieId : Nat} {versions : List MovieVersionData}
variable {ver : MovieVersionData} {ev row : MovieVersion} {fp : Fingerprint}
variable {target : VersionTarget}

theorem upsertVersions_rows : (upsertVersions db movieId versions).rows =
    Write.applyAll MovieVersion.id db.movieVersions (versionWrites db movieId versions) :=
  foldl_upsertVersion_rows _

theorem mem_versionRows : row ∈ versionRows db movieId ↔
    row ∈ db.movieVersions ∧ row.movieId = movieId := by
  simp [versionRows]

theorem Distinct.row_ext (h : Distinct db movieId versions) (hev : ev ∈ db.movieVersions)
    (hrow : row ∈ db.movieVersions) (hid : ev.id = row.id) : ev = row :=
  List.inj_on_of_nodup_map h.ids hev hrow hid

theorem Distinct.rows_nodup (h : Distinct db movieId versions) : (versionRows db movieId).Nodup :=
  (List.Nodup.of_map _ h.ids).filter _

theorem matched_iff (h : Distinct db movieId versions) :
    (ver, .matched ev) ∈ versionPlan db movieId versions ↔
      ver ∈ versions ∧ ev ∈ versionRows db movieId ∧ ev.key = ver.key := by
  rw [versionPlan, mem_plan_matched_iff, existingVersions_get? h.rowKeys]

/-- The version has no row of its key. -/
def IsNew (db : Tables) (movieId : Nat) (ver : MovieVersionData) : Prop :=
  ∀ row ∈ versionRows db movieId, row.key ≠ ver.key

theorem of_mem_renamed (h : Distinct db movieId versions)
    (hmem : (ver, .renamed fp ev) ∈ versionPlan db movieId versions) :
    ver ∈ versions ∧ IsNew db movieId ver ∧ ver.fp = some fp ∧ ev ∈ versionRows db movieId ∧
      ev.fp = some fp ∧ ∀ row ∈ versionRows db movieId, row.fp = some fp → row = ev := by
  obtain ⟨hver, hnew, hfp, hget⟩ := of_mem_plan_renamed hmem
  rw [existingVersions_values h.rowKeys, fpMap_get?_iff h.rows_nodup] at hget
  exact ⟨hver, (existingVersions_get?_eq_none h.rowKeys _).mp hnew, hfp, hget⟩

theorem row_mem_of_mem_plan (h : Distinct db movieId versions)
    (hmem : (ver, target) ∈ versionPlan db movieId versions) (htarget : target.row? = some ev) :
    ev ∈ versionRows db movieId := by
  cases target with
  | matched ev' => exact Option.some.inj htarget ▸ ((matched_iff h).mp hmem).2.1
  | renamed fp ev' => exact Option.some.inj htarget ▸ (of_mem_renamed h hmem).2.2.2.1
  | new => simp [VersionTarget.row?] at htarget

/-- The writes that change a row are those of its targets. -/
theorem update_mem_versionWrites {id : Nat} {change : MovieVersion → MovieVersion}
    (hmem : .update id change ∈ versionWrites db movieId versions) :
    ∃ ver target ev, (ver, target) ∈ versionPlan db movieId versions ∧ target.row? = some ev ∧
      ev.id = id ∧ ((target = .matched ev ∧ change = ver.setFields) ∨
        ∃ fp, target = .renamed fp ev ∧ change = ver.setFields ∘ ver.setServiceIds) := by
  obtain ⟨⟨ver, target⟩, hplan, hwrite⟩ := List.mem_map.mp hmem
  cases target with
  | matched ev =>
    obtain ⟨rfl, rfl⟩ := Write.update.inj hwrite
    exact ⟨ver, _, ev, hplan, rfl, rfl, .inl ⟨rfl, rfl⟩⟩
  | renamed fp ev =>
    obtain ⟨rfl, rfl⟩ := Write.update.inj hwrite
    exact ⟨ver, _, ev, hplan, rfl, rfl, .inr ⟨fp, rfl, rfl⟩⟩
  | new => cases hwrite

theorem versionWrites_keyed : ∀ w ∈ versionWrites db movieId versions,
    w.Keyed MovieVersion.id := by
  intro w hw
  obtain ⟨⟨ver, target⟩, -, rfl⟩ := List.mem_map.mp hw
  cases target <;> exact fun _ => rfl

theorem versionWrites_old (h : Distinct db movieId versions) (id : Nat)
    (change : MovieVersion → MovieVersion)
    (hmem : .update id change ∈ versionWrites db movieId versions) :
    id < Write.nextId MovieVersion.id db.movieVersions := by
  obtain ⟨ver, target, ev, hplan, htarget, rfl, -⟩ := update_mem_versionWrites hmem
  exact Write.lt_nextId (mem_versionRows.mp (row_mem_of_mem_plan h hplan htarget)).1

/-- A row of the table after the loop. -/
def afterUpsert (db : Tables) (movieId : Nat) (versions : List MovieVersionData)
    (row : MovieVersion) : MovieVersion :=
  Write.changed MovieVersion.id (versionWrites db movieId versions) row

@[simp] theorem afterUpsert_id : (afterUpsert db movieId versions row).id = row.id :=
  Write.rowId_changed versionWrites_keyed row

@[simp] theorem afterUpsert_movieId :
    (afterUpsert db movieId versions row).movieId = row.movieId := by
  refine Write.changed_keeps MovieVersion.movieId (fun id change hmem row => ?_) row
  obtain ⟨ver, -, ev, -, -, -, ⟨-, rfl⟩ | ⟨fp, -, rfl⟩⟩ := update_mem_versionWrites hmem <;> rfl

/-- Some version goes to the row. -/
def IsTarget (db : Tables) (movieId : Nat) (versions : List MovieVersionData)
    (row : MovieVersion) : Prop :=
  some row ∈ (versionPlan db movieId versions).map fun p => p.2.row?

instance (row : MovieVersion) : Decidable (IsTarget db movieId versions row) := by
  unfold IsTarget
  infer_instance

theorem isTarget_iff : IsTarget db movieId versions row ↔
    ∃ ver target, (ver, target) ∈ versionPlan db movieId versions ∧ target.row? = some row := by
  simp [IsTarget]

theorem key_mem_incomingKeys_iff (h : Distinct db movieId versions)
    (hrow : row ∈ versionRows db movieId) :
    row.key ∈ (upsertVersions db movieId versions).incomingKeys ↔
      IsTarget db movieId versions row := by
  rw [upsertVersions, mem_foldl_upsertVersion_incomingKeys, isTarget_iff]
  simp only [List.not_mem_nil, false_or]
  constructor
  · rintro (hkey | ⟨ver, fp, ev, hplan, hkey⟩)
    · obtain ⟨ver, hver, hkey⟩ := List.mem_map.mp hkey
      exact ⟨ver, .matched row, (matched_iff h).mpr ⟨hver, hrow, hkey.symm⟩, rfl⟩
    · have hev := (of_mem_renamed h hplan).2.2.2.1
      obtain rfl : row = ev := List.inj_on_of_nodup_map h.rowKeys hrow hev hkey
      exact ⟨ver, _, hplan, rfl⟩
  · rintro ⟨ver, target, hplan, htarget⟩
    cases target with
    | matched ev =>
      obtain rfl := Option.some.inj htarget
      obtain ⟨hver, -, hkey⟩ := (matched_iff h).mp hplan
      exact .inl (List.mem_map.mpr ⟨ver, hver, hkey.symm⟩)
    | renamed fp ev =>
      obtain rfl := Option.some.inj htarget
      exact .inr ⟨ver, fp, _, hplan, rfl⟩
    | new => simp [VersionTarget.row?] at htarget

theorem mem_staleVersions (h : Distinct db movieId versions) {id : Nat} :
    id ∈ staleVersions db movieId versions ↔
      ∃ row ∈ versionRows db movieId, row.id = id ∧ ¬IsTarget db movieId versions row := by
  rw [staleVersions, existingVersions_entries h.rowKeys]
  simp only [List.mem_map, List.mem_filter, decide_eq_true_eq]
  constructor
  · rintro ⟨-, ⟨⟨row, hrow, rfl⟩, hkey⟩, rfl⟩
    exact ⟨row, hrow, rfl, fun htarget => hkey ((key_mem_incomingKeys_iff h hrow).mpr htarget)⟩
  · rintro ⟨row, hrow, rfl, htarget⟩
    exact ⟨_, ⟨⟨row, hrow, rfl⟩,
      fun hkey => htarget ((key_mem_incomingKeys_iff h hrow).mp hkey)⟩, rfl⟩

theorem makes_of_mem_inserts {make : Nat → MovieVersion}
    (hmake : make ∈ Write.inserts (versionWrites db movieId versions)) :
    ∃ ver, (ver, .new) ∈ versionPlan db movieId versions ∧ make = ver.newRow movieId := by
  obtain ⟨w, hw, hof⟩ := List.mem_filterMap.mp hmake
  obtain ⟨⟨ver, target⟩, hplan, rfl⟩ := List.mem_map.mp hw
  cases target with
  | new => exact ⟨ver, hplan, (Option.some.inj hof).symm⟩
  | matched ev => simp [VersionTarget.write, Write.makeOf] at hof
  | renamed fp ev => simp [VersionTarget.write, Write.makeOf] at hof

/-- The prune deletes the rows that no version went to. -/
theorem notMem_staleVersions_iff (h : Distinct db movieId versions)
    (hrow : row ∈ versionRows db movieId) :
    row.id ∉ staleVersions db movieId versions ↔ IsTarget db movieId versions row := by
  rw [mem_staleVersions h, not_iff_comm]
  constructor
  · intro htarget
    exact ⟨row, hrow, rfl, htarget⟩
  · rintro ⟨row', hrow', hid, htarget⟩
    rwa [← h.row_ext (mem_versionRows.mp hrow').1 (mem_versionRows.mp hrow).1 hid]

/-- The version rows after an upsert: the rows that a version went to, and the new ones. -/
theorem versionRows_upsert (h : Distinct db movieId versions) : ∃ created,
    versionRows (upsertMovieVersions db movieId versions) movieId =
      ((versionRows db movieId).filter (IsTarget db movieId versions ·)).map
        (afterUpsert db movieId versions) ++ created ∧
      Write.Created (Write.nextId MovieVersion.id db.movieVersions)
        (Write.inserts (versionWrites db movieId versions)) created := by
  obtain ⟨created, happly, hcreated⟩ :=
    Write.applyAll_eq versionWrites_keyed (versionWrites_old h)
  refine ⟨created, ?_, hcreated⟩
  have hnew : ∀ row ∈ created, row.movieId = movieId ∧
    row.id ∉ staleVersions db movieId versions := by
    intro row hrow
    obtain ⟨make, hmake, id, hid, rfl⟩ := hcreated.exists_of_mem hrow
    obtain ⟨ver, -, rfl⟩ := makes_of_mem_inserts hmake
    refine ⟨rfl, fun hstale => ?_⟩
    obtain ⟨row', hrow', hid', -⟩ := (mem_staleVersions h).mp hstale
    have hlt : row'.id < Write.nextId MovieVersion.id db.movieVersions :=
      Write.lt_nextId (mem_versionRows.mp hrow').1
    have hsame : row'.id = id := hid'
    omega
  have hold : ∀ row ∈ db.movieVersions,
      (decide ((afterUpsert db movieId versions row).movieId = movieId) &&
        decide ((afterUpsert db movieId versions row).id ∉ staleVersions db movieId versions)) =
      (decide (IsTarget db movieId versions row) && decide (row.movieId = movieId)) := by
    intro row hrow
    rw [afterUpsert_movieId, afterUpsert_id]
    by_cases hmovie : row.movieId = movieId
    · simp [hmovie, notMem_staleVersions_iff h (mem_versionRows.mpr ⟨hrow, hmovie⟩)]
    · simp [hmovie]
  dsimp only [versionRows, upsertMovieVersions]
  rw [upsertVersions_rows, happly, List.filter_append, List.filter_append]
  congr 1
  · rw [List.filter_map, List.filter_map, List.filter_filter, List.filter_filter]
    congr 1
    exact List.filter_congr hold
  · rw [List.filter_eq_self.mpr, List.filter_eq_self.mpr]
    · intro row hrow
      simp [(hnew row hrow).2]
    · intro row hrow
      simp [(hnew row (List.mem_of_mem_filter hrow)).1]

end Result

end MediaMasterr.Sync
