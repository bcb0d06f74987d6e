import Mathlib.Data.List.Perm.Lattice
import MediaMasterr.Sync.MovieVersions

/-! # Version rows as a mirror of the server

The version rows of a movie mirror the incoming versions when every row shows
one of them. A found row keeps its item id, and a rename can take the row of a
version that comes in under its own key; these are the two ways to miss it. -/

namespace MediaMasterr.Sync

open MediaMasterr.Foundations MediaMasterr.Database

/-- What a version row says about its file on the server. -/
structure VersionIdentity where
  service : Service
  serviceMediaId : String
  serviceItemId : String
  path : Option String
  size : Nat
  deriving DecidableEq

def rowIdentity (row : MovieVersion) : VersionIdentity :=
  ⟨row.service, row.serviceMediaId, row.serviceItemId, row.path, row.size⟩

def versionIdentity (ver : MovieVersionData) : VersionIdentity :=
  ⟨ver.service, ver.serviceMediaId, ver.serviceItemId, ver.path, ver.size⟩

/-- The version rows of the movie mirror the incoming versions, one row a version, and a row
whose key comes in keeps its id. -/
structure Mirrors (db : Tables) (movieId : Nat) (versions : List MovieVersionData) : Prop where
  rows : ((versionRows (upsertMovieVersions db movieId versions) movieId).map rowIdentity).Perm
    (versions.map versionIdentity)
  ids : ∀ row ∈ versionRows db movieId, ∀ ver ∈ versions, row.key = ver.key →
    ∃ row' ∈ versionRows (upsertMovieVersions db movieId versions) movieId,
      row'.id = row.id ∧ row'.key = ver.key

/-- A row whose key comes in has the version's item id, and a row that a rename would take has
no version of its own. -/
structure Unambiguous (db : Tables) (movieId : Nat) (versions : List MovieVersionData) : Prop where
  itemIds : ∀ ver ∈ versions, ∀ row ∈ versionRows db movieId, row.key = ver.key →
    row.serviceItemId = ver.serviceItemId
  renames : ∀ ver ∈ versions, IsNew db movieId ver → ∀ row ∈ versionRows db movieId,
    ver.fp ≠ none → row.fp = ver.fp →
      (∀ row' ∈ versionRows db movieId, row'.fp = ver.fp → row' = row) →
    row.key ∉ versions.map (·.key)

section Result

variable {db : Tables} {movieId : Nat} {versions : List MovieVersionData}
variable {ver : MovieVersionData} {ev row : MovieVersion} {fp : Fingerprint}
variable {target : VersionTarget}

theorem service_of_fp {fp fp' : Fingerprint} (h : makeFp fp = some fp') : fp' = fp := by
  unfold makeFp at h
  rw [Option.ite_none_right_eq_some] at h
  exact (Option.some.inj h.2).symm

/-- A rename stays on the media server. -/
theorem service_eq_of_renamed (h : Distinct db movieId versions)
    (hplan : (ver, .renamed fp ev) ∈ versionPlan db movieId versions) :
      ver.service = ev.service := by
  obtain ⟨-, -, hver, -, hev, -⟩ := of_mem_renamed h hplan
  have hservice := congrArg Fingerprint.service
    ((service_of_fp hver).symm.trans (service_of_fp hev))
  exact hservice

/-- The changes to a row are those of the versions that go to it. -/
theorem of_mem_changesOf (h : Distinct db movieId versions) (hrow : row ∈ versionRows db movieId)
    {change : MovieVersion → MovieVersion}
    (hchange : change ∈ Write.changesOf (versionWrites db movieId versions) row.id) :
    ∃ ver, (change = ver.setFields ∧ (ver, .matched row) ∈ versionPlan db movieId versions) ∨
      ∃ fp, change = ver.setFields ∘ ver.setServiceIds ∧
        (ver, .renamed fp row) ∈ versionPlan db movieId versions := by
  obtain ⟨ver, target, ev, hplan, htarget, hid, hkind⟩ :=
    update_mem_versionWrites (Write.update_mem_of_mem_changesOf hchange)
  obtain rfl : ev = row := h.row_ext (mem_versionRows.mp (row_mem_of_mem_plan h hplan htarget)).1
    (mem_versionRows.mp hrow).1 hid
  rcases hkind with ⟨rfl, rfl⟩ | ⟨fp, rfl, rfl⟩
  · exact ⟨ver, .inl ⟨rfl, hplan⟩⟩
  · exact ⟨ver, .inr ⟨fp, rfl, hplan⟩⟩

/-- A renamed row ends under the key of a new version. -/
theorem key_afterUpsert_of_renamed (h : Distinct db movieId versions)
    (hplan : (ver, .renamed fp ev) ∈ versionPlan db movieId versions) :
    ∃ ver, IsNew db movieId ver ∧ (afterUpsert db movieId versions ev).key = ver.key := by
  have hev := (of_mem_renamed h hplan).2.2.2.1
  have hrename : ∀ {ver : MovieVersionData} {fp : Fingerprint} (row : MovieVersion),
      (ver, .renamed fp ev) ∈ versionPlan db movieId versions → row.service = ev.service →
        ∃ ver', IsNew db movieId ver' ∧ (ver.setFields (ver.setServiceIds row)).key = ver'.key := by
    intro ver fp row hplan hservice
    refine ⟨ver, (of_mem_renamed h hplan).2.1, ?_⟩
    exact congrArg (·, ver.serviceMediaId) (hservice.trans (service_eq_of_renamed h hplan).symm)
  have hmem : ver.setFields ∘ ver.setServiceIds ∈
      Write.changesOf (versionWrites db movieId versions) ev.id :=
    Write.mem_changesOf (List.mem_map.mpr ⟨_, hplan, rfl⟩)
  refine Loops.foldl_establishes (I := fun row : MovieVersion => row.service = ev.service)
    (P := fun row => ∃ ver, IsNew db movieId ver ∧ row.key = ver.key) hmem ?_ ?_ ?_ rfl
  · intro change hchange row hservice
    obtain ⟨ver', ⟨rfl, -⟩ | ⟨fp', rfl, -⟩⟩ := of_mem_changesOf h hev hchange <;> exact hservice
  · exact fun row hservice => hrename row hplan hservice
  · intro change hchange row hservice hkey
    obtain ⟨ver', ⟨rfl, -⟩ | ⟨fp', rfl, hplan'⟩⟩ := of_mem_changesOf h hev hchange
    · exact hkey
    · exact hrename row hplan' hservice

/-- A row that is not renamed keeps its service ids. -/
theorem afterUpsert_serviceIds (h : Distinct db movieId versions)
    (hrow : row ∈ versionRows db movieId)
    (hnot : ∀ ver fp, (ver, .renamed fp row) ∉ versionPlan db movieId versions) :
    (afterUpsert db movieId versions row).key = row.key ∧
      (afterUpsert db movieId versions row).serviceItemId = row.serviceItemId := by
  refine Loops.foldl_invariant (P := fun row' : MovieVersion => row'.key = row.key ∧
    row'.serviceItemId = row.serviceItemId) ?_ ⟨rfl, rfl⟩
  intro change hchange row' hsame
  obtain ⟨ver, ⟨rfl, -⟩ | ⟨fp, -, hplan⟩⟩ := of_mem_changesOf h hrow hchange
  · exact hsame
  · exact absurd hplan (hnot ver fp)

theorem versionPlan_keys_pairwise (h : Distinct db movieId versions) :
    (versionPlan db movieId versions).Pairwise fun p q => p.1.key ≠ q.1.key := by
  have hkeys := h.incomingKeys
  have hplan : (versionPlan db movieId versions).map Prod.fst = versions := plan_map_fst
  rw [← hplan, List.map_map] at hkeys
  exact List.pairwise_map.mp hkeys

/-- One version goes to each row. -/
theorem Unambiguous.pairwise (hversions : Unambiguous db movieId versions)
    (h : Distinct db movieId versions) : (versionPlan db movieId versions).Pairwise fun p q =>
      ∀ ev, p.2.row? = some ev → q.2.row? ≠ some ev := by
  -- the row of a rename has no version of its own key
  have hclash : ∀ {ver ver' : MovieVersionData} {fp : Fingerprint} {ev : MovieVersion},
      (ver, .matched ev) ∈ versionPlan db movieId versions →
        (ver', .renamed fp ev) ∉ versionPlan db movieId versions := by
    intro ver ver' fp ev hmatched hrenamed
    obtain ⟨hver, -, hkey⟩ := (matched_iff h).mp hmatched
    obtain ⟨hver', hnew, hfp', hev, hfp, hone⟩ := of_mem_renamed h hrenamed
    refine hversions.renames ver' hver' hnew ev hev (by simp [hfp']) (hfp.trans hfp'.symm)
      (fun row hrow hsame => hone row hrow (hsame.trans hfp')) ?_
    exact List.mem_map.mpr ⟨ver, hver, hkey.symm⟩
  refine ((versionPlan_keys_pairwise h).and plan_renamed_pairwise).imp_of_mem ?_
  rintro ⟨ver, target⟩ ⟨ver', target'⟩ hp hq ⟨hkeys, hfps⟩ ev htarget htarget'
  dsimp only at htarget htarget' hkeys hfps
  cases target with
  | new => simp [VersionTarget.row?] at htarget
  | matched ev₁ =>
    obtain rfl := Option.some.inj htarget
    cases target' with
    | new => simp [VersionTarget.row?] at htarget'
    | matched ev₂ =>
      obtain rfl := Option.some.inj htarget'
      exact hkeys (((matched_iff h).mp hp).2.2.symm.trans ((matched_iff h).mp hq).2.2)
    | renamed fp ev₂ =>
      obtain rfl := Option.some.inj htarget'
      exact hclash hp hq
  | renamed fp ev₁ =>
    obtain rfl := Option.some.inj htarget
    cases target' with
    | new => simp [VersionTarget.row?] at htarget'
    | matched ev₂ =>
      obtain rfl := Option.some.inj htarget'
      exact hclash hq hp
    | renamed fp' ev₂ =>
      obtain rfl := Option.some.inj htarget'
      have hfp := (of_mem_renamed h hp).2.2.2.2.1
      have hfp' := (of_mem_renamed h hq).2.2.2.2.1
      obtain rfl : fp = fp' := Option.some.inj (hfp.symm.trans hfp')
      exact hfps fp _ _ rfl rfl

theorem write_updates (target : VersionTarget) (ver : MovieVersionData) :
    (target.write movieId ver).updates = target.row?.map (·.id) := by
  cases target <;> rfl

/-- A row that a version went to shows that version. -/
theorem Unambiguous.rowIdentity_afterUpsert (hversions : Unambiguous db movieId versions)
    (h : Distinct db movieId versions)
    (hplan : (ver, target) ∈ versionPlan db movieId versions) (htarget : target.row? = some ev) :
    rowIdentity (afterUpsert db movieId versions ev) = versionIdentity ver := by
  have hev := row_mem_of_mem_plan h hplan htarget
  have hrow : ∀ {ver : MovieVersionData} {target : VersionTarget},
      (ver, target) ∈ versionPlan db movieId versions →
        (target.write movieId ver).updates = some ev.id → target.row? = some ev := by
    intro ver target hplan hid
    rw [write_updates, Option.map_eq_some_iff] at hid
    obtain ⟨row, htarget, hid⟩ := hid
    rwa [← h.row_ext (mem_versionRows.mp (row_mem_of_mem_plan h hplan htarget)).1
      (mem_versionRows.mp hev).1 hid]
  have hone : ∀ {change : MovieVersion → MovieVersion},
      .update ev.id change ∈ versionWrites db movieId versions →
        afterUpsert db movieId versions ev = change ev := by
    intro change hmem
    have hpairwise : (versionWrites db movieId versions).Pairwise fun w w' =>
        w.updates = some ev.id → w'.updates ≠ some ev.id := by
      refine List.pairwise_map.mpr ((hversions.pairwise h).imp_of_mem ?_)
      rintro ⟨ver, target⟩ ⟨ver', target'⟩ hp hq hrows hid hid'
      exact hrows ev (hrow hp hid) (hrow hq hid')
    unfold afterUpsert Write.changed
    rw [Write.changesOf_eq_singleton hmem hpairwise]
    rfl
  cases target with
  | new => simp [VersionTarget.row?] at htarget
  | matched ev' =>
    obtain rfl := Option.some.inj htarget
    obtain ⟨hver, -, hkey⟩ := (matched_iff h).mp hplan
    have hitem := hversions.itemIds ver hver _ hev hkey
    obtain ⟨hservice, hmedia⟩ := Prod.mk.inj hkey
    rw [hone (List.mem_map.mpr ⟨_, hplan, rfl⟩)]
    simp [rowIdentity, versionIdentity, MovieVersionData.setFields, hservice, hmedia, hitem]
  | renamed fp ev' =>
    obtain rfl := Option.some.inj htarget
    have hservice := service_eq_of_renamed h hplan
    rw [hone (List.mem_map.mpr ⟨_, hplan, rfl⟩)]
    simp [rowIdentity, versionIdentity, MovieVersionData.setFields,
      MovieVersionData.setServiceIds, hservice]

/-- The versions with the rows that they went to. -/
def foundVersions (plan : List (MovieVersionData × VersionTarget)) :
    List (MovieVersionData × MovieVersion) :=
  plan.filterMap fun p => p.2.row?.map fun ev => (p.1, ev)

theorem mem_foundVersions {plan : List (MovieVersionData × VersionTarget)} :
    (ver, ev) ∈ foundVersions plan ↔ ∃ target, (ver, target) ∈ plan ∧ target.row? = some ev := by
  simp only [foundVersions, List.mem_filterMap, Option.map_eq_some_iff, Prod.mk.injEq]
  constructor
  · rintro ⟨⟨ver', target⟩, hmem, ev', htarget, rfl, rfl⟩
    exact ⟨target, hmem, htarget⟩
  · rintro ⟨target, hmem, htarget⟩
    exact ⟨_, hmem, ev, htarget, rfl, rfl⟩

/-- A version goes to a row or to a new one. -/
theorem perm_found_new {plan : List (MovieVersionData × VersionTarget)} :
    ((plan.map Prod.fst).map versionIdentity).Perm
      ((foundVersions plan).map (fun p => versionIdentity p.1) ++
        (Write.inserts (plan.map fun p => p.2.write movieId p.1)).map
          fun make => rowIdentity (make 0)) := by
  induction plan with
  | nil => simp [foundVersions, Write.inserts]
  | cons p plan ih =>
    obtain ⟨ver, target⟩ := p
    cases target with
    | matched ev => exact ih.cons (versionIdentity ver)
    | renamed fp ev => exact ih.cons (versionIdentity ver)
    | new => exact (ih.cons (versionIdentity ver)).trans List.perm_middle.symm

/-- The rows that versions went to, one for each. -/
theorem Unambiguous.perm_targets (hversions : Unambiguous db movieId versions)
    (h : Distinct db movieId versions) :
    ((versionRows db movieId).filter (IsTarget db movieId versions ·)).Perm
      ((foundVersions (versionPlan db movieId versions)).map Prod.snd) := by
  refine (List.perm_ext_iff_of_nodup (h.rows_nodup.filter _) ?_).mpr fun row => ?_
  · refine List.pairwise_map.mpr ((hversions.pairwise h).filterMap _ ?_)
    intro p q hrows found hfound found' hfound' hsame
    obtain ⟨ev, hev, rfl⟩ := Option.map_eq_some_iff.mp hfound
    obtain ⟨ev', hev', rfl⟩ := Option.map_eq_some_iff.mp hfound'
    exact hrows ev hev (hev'.trans (congrArg some hsame.symm))
  · rw [List.mem_filter, decide_eq_true_iff, isTarget_iff, List.mem_map]
    constructor
    · rintro ⟨hrow, ver, target, hplan, htarget⟩
      exact ⟨(ver, row), mem_foundVersions.mpr ⟨target, hplan, htarget⟩, rfl⟩
    · rintro ⟨⟨ver, _⟩, hmem, rfl⟩
      obtain ⟨target, hplan, htarget⟩ := mem_foundVersions.mp hmem
      exact ⟨row_mem_of_mem_plan h hplan htarget, ver, target, hplan, htarget⟩

/-- In a mirror, a row whose key comes in keeps its key, so it is not renamed. -/
theorem Mirrors.not_renamed (hmirrors : Mirrors db movieId versions)
    (h : Distinct db movieId versions) (hrow : row ∈ versionRows db movieId) (hver : ver ∈ versions)
    (hkey : row.key = ver.key) :
    afterUpsert db movieId versions row ∈
        versionRows (upsertMovieVersions db movieId versions) movieId ∧
      ∀ ver fp, (ver, .renamed fp row) ∉ versionPlan db movieId versions := by
  obtain ⟨row', hrow', hid, hkey'⟩ := hmirrors.ids row hrow ver hver hkey
  have hsame : row' = afterUpsert db movieId versions row := by
    obtain ⟨created, hrows, hcreated⟩ := versionRows_upsert h
    rw [hrows, List.mem_append] at hrow'
    rcases hrow' with hrow' | hrow'
    · obtain ⟨row'', hrow'', rfl⟩ := List.mem_map.mp hrow'
      rw [afterUpsert_id] at hid
      rw [h.row_ext (mem_versionRows.mp (List.mem_of_mem_filter hrow'')).1
        (mem_versionRows.mp hrow).1 hid]
    · obtain ⟨make, hmake, id, hlt, rfl⟩ := hcreated.exists_of_mem hrow'
      obtain ⟨ver', -, rfl⟩ := makes_of_mem_inserts hmake
      have hold : row.id < Write.nextId MovieVersion.id db.movieVersions :=
        Write.lt_nextId (mem_versionRows.mp hrow).1
      have hid : id = row.id := hid
      omega
  subst hsame
  refine ⟨hrow', fun ver' fp hplan => ?_⟩
  obtain ⟨ver'', hnew, hkey''⟩ := key_afterUpsert_of_renamed h hplan
  exact hnew row hrow (hkey.trans (hkey'.symm.trans hkey''))

theorem Mirrors.unambiguous (hmirrors : Mirrors db movieId versions)
    (h : Distinct db movieId versions) : Unambiguous db movieId versions := by
  constructor
  · intro ver hver row hrow hkey
    obtain ⟨hafter, hnot⟩ := hmirrors.not_renamed h hrow hver hkey
    obtain ⟨hsame, hitem⟩ := afterUpsert_serviceIds h hrow hnot
    obtain ⟨ver', hver', hidentity⟩ :=
      List.mem_map.mp (hmirrors.rows.mem_iff.mp (List.mem_map_of_mem hafter))
    obtain ⟨hservice, hmedia, hitem', -⟩ := VersionIdentity.mk.inj hidentity
    have hkey' : ver'.key = ver.key := (Prod.ext hservice hmedia).trans (hsame.trans hkey)
    obtain rfl := List.inj_on_of_nodup_map h.incomingKeys hver' hver hkey'
    exact hitem.symm.trans hitem'.symm
  · intro ver hver hnew row hrow hfp hsame hone hmem
    obtain ⟨ver', hver', hkey⟩ := List.mem_map.mp hmem
    obtain ⟨fp, hverfp⟩ := Option.ne_none_iff_exists'.mp hfp
    have hget : (fpMap (existingVersions (versionRows db movieId)).values).get? fp =
        some (some row) := by
      rw [existingVersions_values h.rowKeys, fpMap_get?_iff h.rows_nodup, ← hverfp]
      exact ⟨hrow, hsame, hone⟩
    obtain ⟨ver'', hplan⟩ := exists_mem_plan_renamed hver
      ((existingVersions_get?_eq_none h.rowKeys _).mpr hnew) hverfp hget
    exact (hmirrors.not_renamed h hrow hver' hkey.symm).2 ver'' fp hplan

theorem Unambiguous.mirrors (hversions : Unambiguous db movieId versions)
    (h : Distinct db movieId versions) : Mirrors db movieId versions := by
  obtain ⟨created, hrows, hcreated⟩ := versionRows_upsert h
  constructor
  · have hnew : created.map rowIdentity =
        (Write.inserts (versionWrites db movieId versions)).map fun make =>
          rowIdentity (make 0) := by
      refine hcreated.map_eq fun make hmake id => ?_
      obtain ⟨ver, -, rfl⟩ := makes_of_mem_inserts hmake
      rfl
    have hold : (((versionRows db movieId).filter (IsTarget db movieId versions ·)).map
        (afterUpsert db movieId versions)).map rowIdentity |>.Perm
          ((foundVersions (versionPlan db movieId versions)).map fun p => versionIdentity p.1) := by
      rw [List.map_map]
      refine ((hversions.perm_targets h).map _).trans ?_
      rw [List.map_map]
      refine .of_eq (List.map_congr_left ?_)
      rintro ⟨ver, row⟩ hmem
      obtain ⟨target, hplan, htarget⟩ := mem_foundVersions.mp hmem
      exact hversions.rowIdentity_afterUpsert h hplan htarget
    have hplan : (versionPlan db movieId versions).map Prod.fst = versions := plan_map_fst
    have hperm := @perm_found_new movieId (versionPlan db movieId versions)
    rw [hplan] at hperm
    rw [hrows, List.map_append, hnew]
    exact (hold.append_right _).trans hperm.symm
  · intro row hrow ver hver hkey
    have hplan := (matched_iff h).mpr ⟨hver, hrow, hkey⟩
    have hidentity := hversions.rowIdentity_afterUpsert h hplan rfl
    refine ⟨afterUpsert db movieId versions row, ?_, afterUpsert_id, ?_⟩
    · rw [hrows, List.mem_append]
      refine .inl (List.mem_map_of_mem (List.mem_filter.mpr ⟨hrow, ?_⟩))
      exact decide_eq_true (isTarget_iff.mpr ⟨ver, _, hplan, rfl⟩)
    · exact Prod.ext (congrArg VersionIdentity.service hidentity)
        (congrArg VersionIdentity.serviceMediaId hidentity)

/-- The rows mirror the versions exactly when the item ids of found rows are up to date and no
rename takes the row of another incoming version. -/
theorem mirrors_iff (h : Distinct db movieId versions) :
    Mirrors db movieId versions ↔ Unambiguous db movieId versions :=
  ⟨fun hmirrors => hmirrors.unambiguous h, fun hversions => hversions.mirrors h⟩

end Result

/-- A movie with one file, known as `m1`. -/
def oneFile : Tables where
  movies := [{ id := 1, tmdbId := 100, title := "Film" }]
  movieVersions :=
    [{ id := 1, movieId := 1, service := .jellyfin, serviceItemId := "i1", serviceMediaId := "m1",
       path := some "/film.mkv", size := 9, videoWidth := some 1920, videoHeight := some 1080 }]

/-- The same file under another id. -/
def renamedFile : MovieVersionData where
  service := .jellyfin
  serviceItemId := "i2"
  serviceMediaId := "m2"
  path := some "/renamed.mkv"
  size := 9
  videoWidth := some 1920
  videoHeight := some 1080

/-- Another file under the old id. -/
def otherFile : MovieVersionData where
  service := .jellyfin
  serviceItemId := "i1"
  serviceMediaId := "m1"
  path := some "/film.mkv"
  size := 5
  videoWidth := some 1280
  videoHeight := some 720

example : (versionRows (upsertMovieVersions oneFile 1 [renamedFile, otherFile]) 1).map rowIdentity =
    [⟨.jellyfin, "m2", "i2", some "/film.mkv", 5⟩] := by decide

theorem mirrors_renamedFile : Mirrors oneFile 1 [renamedFile] :=
  (mirrors_iff ⟨by decide, by decide, by decide⟩).mpr
    ⟨fun ver hver row hrow hkey => absurd hkey ((by decide : ∀ row ∈ versionRows oneFile 1,
        ∀ ver ∈ [renamedFile], row.key ≠ ver.key) row hrow ver hver),
      fun _ _ _ row hrow _ _ _ => (by decide : ∀ row ∈ versionRows oneFile 1,
        row.key ∉ [renamedFile].map (·.key)) row hrow⟩

/-- The renamed file takes the row of the other one, whose id the row loses. -/
theorem not_mirrors_renamedAndOtherFile : Distinct oneFile 1 [renamedFile, otherFile] ∧
    ¬Mirrors oneFile 1 [renamedFile, otherFile] :=
  ⟨⟨by decide, by decide, by decide⟩, fun hmirrors => absurd hmirrors.rows (by decide)⟩

end MediaMasterr.Sync
