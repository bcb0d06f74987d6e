import Mathlib.Data.List.Nodup
import Mathlib.Data.List.Perm.Subperm
import MediaMasterr.Deletion.Services
import MediaMasterr.Database.Frames

/-! # Counted deletions

A handler counts what it deletes. The count is set against the requested candidates
whose rows the run deleted: it never exceeds their number, and each handler has a
condition under which the two are the same. -/

namespace MediaMasterr.Database.Tables

/-- The primary keys of the candidates, each with the season that it names. -/
def candidateKeys (db : Tables) : List (Nat × Option Nat) :=
  db.candidates.map fun c => (c.id, c.seasonId)

variable {db db' : Tables}

theorem candidateKeys_map_fst :
    db.candidateKeys.map Prod.fst = db.candidates.map ReclaimCandidate.id :=
  List.map_map

theorem mem_candidateKeys {c : ReclaimCandidate} (h : c ∈ db.candidates) :
    (c.id, c.seasonId) ∈ db.candidateKeys :=
  List.mem_map_of_mem h

theorem hasCandidate_iff_candidateKeys {id : Nat} :
    db.HasCandidate id ↔ ∃ k ∈ db.candidateKeys, k.1 = id := by
  simp [HasCandidate, candidateKeys]

theorem Marks.candidateKeys_eq (h : Marks db db') : db'.candidateKeys = db.candidateKeys := by
  obtain ⟨f, -, hf, rfl⟩ := h
  rw [candidateKeys, candidateKeys, List.map_map]
  refine List.map_congr_left fun c _ => ?_
  have hseason : (f c).seasonId = c.seasonId := congrArg MediaTarget.seasonId (hf c).2
  exact Prod.ext (hf c).1 hseason

theorem candidateKeys_markCandidateDeleteFailure {now id : Nat} {error : String} :
    (db.markCandidateDeleteFailure now id error).candidateKeys = db.candidateKeys :=
  (marks_markCandidateDeleteFailure now id error).candidateKeys_eq

theorem candidateKeys_deleteCandidate {id : Nat} :
    (db.deleteCandidate id).candidateKeys = db.candidateKeys.filter (·.1 ≠ id) := by
  rw [candidateKeys, candidateKeys, List.filter_map]
  rfl

theorem candidateKeys_deleteSeasonRow {now seriesId seasonId : Nat} :
    (db.deleteSeasonRow now seriesId seasonId).candidateKeys =
      db.candidateKeys.filter (·.2 ≠ some seasonId) := by
  have hcandidates : (db.deleteSeasonRow now seriesId seasonId).candidates =
      db.candidates.filter (·.seasonId ≠ some seasonId) := by
    unfold deleteSeasonRow softRemoveSeriesIfEmpty
    dsimp only
    split_ifs <;> rfl
  rw [candidateKeys, hcandidates, candidateKeys, List.filter_map]
  rfl

end MediaMasterr.Database.Tables

namespace MediaMasterr.Deletion

open MediaMasterr.Foundations MediaMasterr.Database

/-! ## Lists -/

section Lists

variable {α β : Type*} {groups : List (List α)}

/-- Groups that are not empty have at least as many members as there are groups, and as many
exactly when each has one. -/
theorem length_le_length_flatten (hne : ∀ g ∈ groups, g ≠ []) :
    groups.length ≤ groups.flatten.length ∧
      (groups.length = groups.flatten.length ↔ ∀ g ∈ groups, g.length = 1) := by
  induction groups with
  | nil => simp
  | cons g groups ih =>
    obtain ⟨hle, hiff⟩ := ih fun g hg => hne g (List.mem_cons_of_mem _ hg)
    have hpos : 0 < g.length := List.length_pos_of_ne_nil (hne g List.mem_cons_self)
    rw [List.flatten_cons, List.length_append, List.length_cons, List.forall_mem_cons, ← hiff]
    omega

/-- What is made of the items in order, and names its item, names a sublist. -/
theorem filterMap_map_sublist {f : α → Option β} {g : β → α}
    (h : ∀ {a b}, f a = some b → g b = a) (l : List α) : ((l.filterMap f).map g).Sublist l := by
  induction l with
  | nil => exact List.Sublist.refl _
  | cons a l ih =>
    cases hb : f a with
    | none =>
      rw [List.filterMap_cons_none hb]
      exact ih.cons a
    | some b =>
      rw [List.filterMap_cons_some hb, List.map_cons, h hb]
      exact ih.cons_cons a

end Lists

/-! ## What a run deletes -/

/-- The requested candidates that are in `db` and not in `db'`. -/
def deletedIds (requested : List Nat) (db db' : Tables) : List Nat :=
  requested.filter fun id => id ∈ db.candidates.map (·.id) ∧ id ∉ db'.candidates.map (·.id)

variable {requested : List Nat} {db : Tables} {run : Run} {exact : Prop}

theorem hasCandidate_iff {id : Nat} : db.HasCandidate id ↔ id ∈ db.candidates.map (·.id) := by
  simp [Tables.HasCandidate]

theorem mem_deletedIds {db' : Tables} {id : Nat} : id ∈ deletedIds requested db db' ↔
    id ∈ requested ∧ db.HasCandidate id ∧ ¬db'.HasCandidate id := by
  simp only [deletedIds, List.mem_filter, decide_eq_true_eq, hasCandidate_iff]

theorem deletedIds_nodup {db' : Tables} (h : requested.Nodup) :
    (deletedIds requested db db').Nodup :=
  h.filter _

/-- The count of a run against the candidates it deletes; `exact` says when they agree. -/
structure Accounts (requested : List Nat) (db : Tables) (run : Run) (exact : Prop) : Prop where
  candidateIds : (run.db.candidates.map ReclaimCandidate.id).Nodup
  shrinks : ∀ id, run.db.HasCandidate id → db.HasCandidate id
  count_le : run.deletedCount ≤ (deletedIds requested db run.db).length
  count_eq_iff : run.deletedCount = (deletedIds requested db run.db).length ↔ exact

/-- Runs that delete one group of candidates for each count. -/
theorem accounts_of_groups {groups : List (List ReclaimCandidate)} (hrequested : requested.Nodup)
    (hdb : (db.candidates.map ReclaimCandidate.id).Nodup)
    (hcandidateIds : (run.db.candidates.map ReclaimCandidate.id).Nodup)
    (hiff : ∀ id, run.db.HasCandidate id ↔
      db.HasCandidate id ∧ ∀ c ∈ groups.flatten, id ≠ c.id)
    (hgroups : ∀ c ∈ groups.flatten, c ∈ db.candidates ∧ c.id ∈ requested)
    (hnodup : groups.flatten.Nodup) (hne : ∀ g ∈ groups, g ≠ [])
    (hcount : run.deletedCount = groups.length) :
    Accounts requested db run (∀ g ∈ groups, g.length = 1) := by
  have hids : (groups.flatten.map ReclaimCandidate.id).Nodup := by
    refine (List.nodup_map_iff_inj_on hnodup).mpr fun c hc c' hc' hid => ?_
    exact List.inj_on_of_nodup_map hdb (hgroups c hc).1 (hgroups c' hc').1 hid
  have hperm : (deletedIds requested db run.db).Perm (groups.flatten.map ReclaimCandidate.id) := by
    refine (List.perm_ext_iff_of_nodup (deletedIds_nodup hrequested) hids).mpr fun id => ?_
    rw [mem_deletedIds, hiff, List.mem_map]
    constructor
    · rintro ⟨-, hdb, hnot⟩
      by_contra hout
      exact hnot ⟨hdb, fun c hc hid => hout ⟨c, hc, hid.symm⟩⟩
    · rintro ⟨c, hc, rfl⟩
      exact ⟨(hgroups c hc).2, ⟨c, (hgroups c hc).1, rfl⟩, fun h => h.2 c hc rfl⟩
  have hlength : (deletedIds requested db run.db).length = groups.flatten.length := by
    rw [hperm.length_eq, List.length_map]
  obtain ⟨hle, heq⟩ := length_le_length_flatten hne
  refine ⟨hcandidateIds, fun id h => ((hiff id).mp h).1, ?_, ?_⟩
  · rw [hcount, hlength]
    exact hle
  · rw [hcount, hlength, heq]

/-- Runs that count recorded candidates, and may delete others with them. -/
theorem accounts_of_recorded {recorded : List Nat} {Gone : Nat × Option Nat → Prop}
    (hrequested : requested.Nodup) (hdb : (db.candidates.map ReclaimCandidate.id).Nodup)
    (hsub : run.db.candidateKeys.Sublist db.candidateKeys)
    (hkeys : ∀ k ∈ db.candidateKeys, k ∈ run.db.candidateKeys ↔ ¬Gone k)
    (hrecorded : ∀ id ∈ recorded, id ∈ requested ∧ ∃ k ∈ db.candidateKeys, k.1 = id ∧ Gone k)
    (hnodup : recorded.Nodup) (hcount : run.deletedCount = recorded.length) :
    Accounts requested db run
      (∀ k ∈ db.candidateKeys, k.1 ∈ requested → Gone k → k.1 ∈ recorded) := by
  have hids : (db.candidateKeys.map Prod.fst).Nodup := by
    rw [Tables.candidateKeys_map_fst]
    exact hdb
  have hshrinks : ∀ id, run.db.HasCandidate id → db.HasCandidate id := by
    intro id hid
    obtain ⟨k, hk, rfl⟩ := Tables.hasCandidate_iff_candidateKeys.mp hid
    exact Tables.hasCandidate_iff_candidateKeys.mpr ⟨k, hsub.subset hk, rfl⟩
  have hdeleted : ∀ id, id ∈ deletedIds requested db run.db ↔
      id ∈ requested ∧ ∃ k ∈ db.candidateKeys, k.1 = id ∧ Gone k := by
    intro id
    rw [mem_deletedIds, Tables.hasCandidate_iff_candidateKeys,
      Tables.hasCandidate_iff_candidateKeys]
    refine and_congr_right fun _ => ⟨?_, ?_⟩
    · rintro ⟨⟨k, hk, rfl⟩, hnot⟩
      refine ⟨k, hk, rfl, ?_⟩
      by_contra hkept
      exact hnot ⟨k, (hkeys k hk).mpr hkept, rfl⟩
    · rintro ⟨k, hk, rfl, hgone⟩
      refine ⟨⟨k, hk, rfl⟩, ?_⟩
      rintro ⟨k', hk', hid⟩
      obtain rfl := List.inj_on_of_nodup_map hids (hsub.subset hk') hk hid
      exact (hkeys k' hk).mp hk' hgone
  have hsubperm : recorded.Subperm (deletedIds requested db run.db) :=
    List.subperm_of_subset hnodup fun id hid => (hdeleted id).mpr (hrecorded id hid)
  have hrun : (run.db.candidates.map ReclaimCandidate.id).Nodup := by
    rw [← Tables.candidateKeys_map_fst]
    exact hids.sublist (hsub.map _)
  refine ⟨hrun, hshrinks, hcount ▸ hsubperm.length_le, ?_⟩
  rw [hcount]
  constructor
  · intro hlength k hk hrequest hgone
    have hmem := (hdeleted k.1).mpr ⟨hrequest, k, hk, rfl, hgone⟩
    exact (hsubperm.perm_of_length_le hlength.ge).mem_iff.mpr hmem
  · intro hall
    refine List.Perm.length_eq ?_
    refine (List.perm_ext_iff_of_nodup hnodup (deletedIds_nodup hrequested)).mpr fun id => ?_
    rw [hdeleted]
    constructor
    · exact hrecorded id
    · rintro ⟨hrequest, k, hk, rfl, hgone⟩
      exact hall k hk hrequest hgone

/-! ## Loaded candidates -/

theorem restrictTo_sublist (restrictToIds : List Nat) (candidates : List ReclaimCandidate) :
    (restrictTo restrictToIds candidates).Sublist candidates := by
  unfold restrictTo
  split_ifs
  · exact List.Sublist.refl _
  · exact List.filter_sublist

theorem mem_restrictTo {restrictToIds : List Nat} {candidates : List ReclaimCandidate}
    {c : ReclaimCandidate} (hne : restrictToIds ≠ [])
      (h : c ∈ restrictTo restrictToIds candidates) :
    c.id ∈ restrictToIds := by
  unfold restrictTo at h
  rw [if_neg (by simpa using hne)] at h
  simpa using (List.mem_filter.mp h).2

theorem filterMovieCandidatesByFavorites_sublist (tables : PythonText.CaseTables) (db : Tables)
    (candidates : List ReclaimCandidate) :
    (filterMovieCandidatesByFavorites tables db candidates).Sublist candidates := by
  unfold filterMovieCandidatesByFavorites
  split_ifs
  · exact List.Sublist.refl _
  · exact List.filter_sublist

theorem filterSeriesCandidatesByFavorites_sublist (tables : PythonText.CaseTables) (db : Tables)
    (candidates : List ReclaimCandidate) :
    (filterSeriesCandidatesByFavorites tables db candidates).Sublist candidates := by
  unfold filterSeriesCandidatesByFavorites
  split_ifs
  · exact List.Sublist.refl _
  · exact List.filter_sublist

end MediaMasterr.Deletion
