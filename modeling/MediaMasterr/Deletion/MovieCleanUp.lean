import MediaMasterr.Deletion.MovieRun

/-! # Targets of the movie handler

Which version rows a run removes, and which versions lose their files when the
unmonitored movies are cleaned up, in terms of the tables before the run. -/

namespace MediaMasterr.Deletion.Movie

open MediaMasterr.Foundations MediaMasterr.Database MediaMasterr.Filesystem

/-- The version is in the target of the candidate. -/
def InTarget (c : ReclaimCandidate) (v : MovieVersion) : Prop :=
  c.movieId = some v.movieId ∧ (c.movieVersionId = none ∨ c.movieVersionId = some v.id)

/-- The version is in the target of a candidate of the run. -/
def Selected (candidates : List ReclaimCandidate) (v : MovieVersion) : Prop :=
  ∃ c ∈ candidates, InTarget c v

/-- The version is selected, and its movie is not selected as a whole. -/
def Targeted (candidates : List ReclaimCandidate) (v : MovieVersion) : Prop :=
  (∃ c ∈ candidates, c.movieId = some v.movieId ∧ c.movieVersionId = some v.id) ∧
    ∀ c ∈ candidates, c.movieId = some v.movieId → c.movieVersionId ≠ none

/-- A file step of the clean-up after an unmonitoring succeeds for the version: its files are
removed, or its item is deleted, which no unselected version uses. -/
def CoveredByCleanUp (env : Environment) (outcomes : MovieOutcomes) (db : Tables)
    (candidates : List ReclaimCandidate) (v : MovieVersion) : Prop :=
  VersionCleaned env outcomes db v ∨
    (db.effectiveSettings.mediaServerFallbackEnabled = true ∧
      env.services.mainMediaServerType = some v.service ∧
      (∀ w ∈ versionsOf db v.movieId, w.service = v.service →
        w.serviceItemId = v.serviceItemId → Selected candidates w) ∧
      ∃ w ∈ versionsOf db v.movieId, w.service = v.service ∧
        w.serviceItemId = v.serviceItemId ∧ ¬VersionDeleted env outcomes db candidates w.id ∧
        (outcomes.deleteItem w.id).succeeded = true)

variable {env : Environment} {outcomes : MovieOutcomes} {db : Tables}
variable {candidates : List ReclaimCandidate} {approvedBy : String}
variable {v w : MovieVersion} {job : MovieJob}

theorem mem_versionsOf {movieId : Nat} :
    v ∈ versionsOf db movieId ↔ v ∈ db.movieVersions ∧ v.movieId = movieId := by
  simp [versionsOf]

/-! ## Which rows are removed -/

section Rows

variable {restrictToIds : List Nat}

/-- An entry targets a row when the row is targeted and belongs to its movie. -/
theorem BatchEntry.targets_iff {unmonitor : Bool} {config : Nat}
    (h : BatchEntry env db candidates unmonitor config job)
    (hdb : db.Consistent) (hsub : ∀ c ∈ candidates, c ∈ db.candidates) (hv : v ∈ db.movieVersions) :
    job.isWholeMovie = false ∧ v.id ∈ job.concreteVersionIds ↔
      v.movieId = job.movieId ∧ Targeted candidates v := by
  have hwhole : job.isWholeMovie = false ↔
      ∀ c ∈ candidates, c.movieId = some job.movieId → c.movieVersionId ≠ none := by
    rw [← Bool.not_eq_true, h.isWholeMovie_iff]
    simp
  constructor
  · rintro ⟨hnot, hmem⟩
    have hmovie := h.movieId_of_mem_concreteVersionIds hdb hsub hv hmem
    refine ⟨hmovie, ?_⟩
    rw [Targeted, hmovie]
    exact ⟨h.mem_concreteVersionIds.mp hmem, hwhole.mp hnot⟩
  · rintro ⟨hmovie, hselected, hnot⟩
    rw [hmovie] at hselected hnot
    exact ⟨hwhole.mpr hnot, h.mem_concreteVersionIds.mpr hselected⟩

theorem targetedIn_deletedJobs_iff (hdb : db.Consistent)
    (hsub : ∀ c ∈ candidates, c ∈ db.candidates) (hv : v ∈ db.movieVersions) :
    TargetedIn (deletedJobs env outcomes db approvedBy candidates) v.id ↔
      Targeted candidates v ∧ DeletedInBatch env outcomes db candidates v.movieId := by
  constructor
  · rintro ⟨job, hjob, htargets⟩
    obtain ⟨config, hok, hbatch⟩ := mem_deletedJobs hjob
    obtain ⟨hmovie, htargeted⟩ := ((mem_batch hbatch).targets_iff hdb hsub hv).mp htargets
    exact ⟨htargeted, config, hok, job, hbatch, hmovie.symm⟩
  · rintro ⟨htargeted, hdeleted⟩
    obtain ⟨job, hjob, hmovie⟩ := exists_mem_deletedJobs approvedBy hdeleted
    obtain ⟨config, -, hbatch⟩ := mem_deletedJobs hjob
    exact ⟨job, hjob, ((mem_batch hbatch).targets_iff hdb hsub hv).mpr ⟨hmovie.symm, htargeted⟩⟩

theorem targetedIn_unmonitoredJobs_iff (hdb : db.Consistent)
    (hsub : ∀ c ∈ candidates, c ∈ db.candidates) (hv : v ∈ db.movieVersions) :
    TargetedIn (unmonitoredJobs env outcomes db approvedBy candidates) v.id ↔
      Targeted candidates v ∧ UnmonitoredInBatch env outcomes db candidates v.movieId := by
  constructor
  · rintro ⟨job, hjob, htargets⟩
    obtain ⟨config, hok, hbatch⟩ := mem_unmonitoredJobs hjob
    obtain ⟨hmovie, htargeted⟩ := ((mem_batch hbatch).targets_iff hdb hsub hv).mp htargets
    exact ⟨htargeted, config, hok, job, hbatch, hmovie.symm⟩
  · rintro ⟨htargeted, hunmonitored⟩
    obtain ⟨job, hjob, hmovie⟩ := exists_mem_unmonitoredJobs approvedBy hunmonitored
    obtain ⟨config, -, hbatch⟩ := mem_unmonitoredJobs hjob
    exact ⟨job, hjob, ((mem_batch hbatch).targets_iff hdb hsub hv).mpr ⟨hmovie.symm, htargeted⟩⟩

/-- The rows that a run removes. -/
theorem not_mem_run_movieVersions_iff (hdb : db.Consistent) (hv : v ∈ db.movieVersions) :
    v ∉ (deleteMovieCandidates env outcomes db restrictToIds approvedBy).db.movieVersions ↔
      VersionDeleted env outcomes db (loadCandidates env db restrictToIds) v.id ∨
        Targeted (loadCandidates env db restrictToIds) v ∧
          (DeletedInBatch env outcomes db (loadCandidates env db restrictToIds) v.movieId ∨
            UnmonitoredInBatch env outcomes db
              (loadCandidates env db restrictToIds) v.movieId) := by
  have hsub : ∀ c ∈ loadCandidates env db restrictToIds, c ∈ db.candidates :=
    fun c hc => (mem_loadCandidates hc).1
  rw [mem_run_movieVersions, targetedIn_deletedJobs_iff hdb hsub hv,
    targetedIn_unmonitoredJobs_iff hdb hsub hv]
  tauto

end Rows

/-! ## The rows that the clean-up finds -/

/-- An entry targets the selected versions of its movie. -/
theorem BatchEntry.targetsVersion_iff {unmonitor : Bool} {config : Nat}
    (h : BatchEntry env db candidates unmonitor config job) (hmovie : v.movieId = job.movieId) :
    targetsVersion job v = true ↔ Selected candidates v := by
  rw [targetsVersion, Bool.or_eq_true, decide_eq_true_eq, h.isWholeMovie_iff,
    h.mem_concreteVersionIds, Selected, ← hmovie]
  simp only [InTarget]
  grind

theorem movieVersionId_of_versionDeleted {versionId : Nat}
    (h : VersionDeleted env outcomes db candidates versionId) :
    ∃ c ∈ candidates, c.movieVersionId = some versionId := by
  obtain ⟨c, hc, deleted, hdeleted, rfl⟩ := h
  simp only [unmatchedVersionCandidates, versionCandidates, List.mem_filter] at hc
  exact ⟨c, hc.1.1, (deletedVersion_eq_some hdeleted).1⟩

theorem selected_of_versionDeleted (hdb : db.Consistent)
    (hsub : ∀ c ∈ candidates, c ∈ db.candidates) (hv : v ∈ db.movieVersions)
    (h : VersionDeleted env outcomes db candidates v.id) : Selected candidates v := by
  obtain ⟨c, hc, hversion⟩ := movieVersionId_of_versionDeleted h
  exact ⟨c, hc, hdb.candidateVersions c (hsub c hc) v hv hversion, Or.inr hversion⟩

/-- The rows of an unmonitored movie when its clean-up starts. -/
theorem mem_versionsOf_unmonitoring (hdb : db.Consistent)
    (hsub : ∀ c ∈ candidates, c ∈ db.candidates)
    (hjob : job ∈ unmonitoredJobs env outcomes db approvedBy candidates) :
    v ∈ versionsOf (unmonitoring env outcomes db approvedBy candidates).db job.movieId ↔
      v ∈ versionsOf db job.movieId ∧ ¬VersionDeleted env outcomes db candidates v.id := by
  rw [mem_versionsOf, mem_versionsOf, mem_unmonitoring_movieVersions]
  constructor
  · rintro ⟨⟨hv, hnot, -⟩, hmovie⟩
    exact ⟨⟨hv, hmovie⟩, hnot⟩
  · rintro ⟨⟨hv, hmovie⟩, hnot⟩
    refine ⟨⟨hv, hnot, ?_⟩, hmovie⟩
    -- the deleted movies are other ones
    rintro ⟨job', hjob', -, hmem⟩
    obtain ⟨config, -, hbatch⟩ := mem_deletedJobs hjob'
    obtain ⟨config', -, hbatch'⟩ := mem_unmonitoredJobs hjob
    have hsame := (mem_batch hbatch).movieId_of_mem_concreteVersionIds hdb hsub hv hmem
    exact movie_ne_of_mem_batches hbatch hbatch' (hsame.symm.trans hmovie)

/-- What a version's clean-up needs of the tables does not change before it. -/
theorem versionCleaned_unmonitoring_iff :
    VersionCleaned env outcomes (unmonitoring env outcomes db approvedBy candidates).db v ↔
      VersionCleaned env outcomes db v := by
  rw [VersionCleaned, VersionCleaned, localPath, localPath, Tables.effectiveSettings,
    effects_settings unmonitoring_effects, ← Tables.effectiveSettings]

theorem effectiveSettings_unmonitoring :
    (unmonitoring env outcomes db approvedBy candidates).db.effectiveSettings =
      db.effectiveSettings := by
  rw [Tables.effectiveSettings, effects_settings unmonitoring_effects, ← Tables.effectiveSettings]

/-! ## The items that the clean-up deletes -/

section Items

variable {service : Service} {item : String}

theorem itemShared_unmonitoring_iff (hdb : db.Consistent)
    (hsub : ∀ c ∈ candidates, c ∈ db.candidates)
    (hjob : job ∈ unmonitoredJobs env outcomes db approvedBy candidates) :
    itemShared (unmonitoring env outcomes db approvedBy candidates).db service job item = false ↔
      ∀ w ∈ versionsOf db job.movieId, w.service = service → w.serviceItemId = item →
        Selected candidates w := by
  obtain ⟨config, -, hbatch⟩ := mem_unmonitoredJobs hjob
  have hall : itemShared (unmonitoring env outcomes db approvedBy candidates).db service job
      item = false ↔ ∀ w ∈ versionsOf (unmonitoring env outcomes db approvedBy candidates).db
        job.movieId, w.service = service → w.serviceItemId = item →
          targetsVersion job w = true := by
    simp only [itemShared, targetsVersion]
    cases job.isWholeMovie <;> simp
  rw [hall]
  constructor
  · intro h w hw hservice hitem
    by_cases hdeleted : VersionDeleted env outcomes db candidates w.id
    · exact selected_of_versionDeleted hdb hsub (mem_versionsOf.mp hw).1 hdeleted
    · have hrow := (mem_versionsOf_unmonitoring hdb hsub hjob).mpr ⟨hw, hdeleted⟩
      exact ((mem_batch hbatch).targetsVersion_iff (mem_versionsOf.mp hw).2).mp
        (h w hrow hservice hitem)
  · intro h w hw hservice hitem
    have hrow := ((mem_versionsOf_unmonitoring hdb hsub hjob).mp hw).1
    exact ((mem_batch hbatch).targetsVersion_iff (mem_versionsOf.mp hrow).2).mpr
      (h w hrow hservice hitem)

theorem mem_itemUsers_unmonitoring_iff (hdb : db.Consistent)
    (hsub : ∀ c ∈ candidates, c ∈ db.candidates)
    (hjob : job ∈ unmonitoredJobs env outcomes db approvedBy candidates) :
    w ∈ itemUsers (unmonitoring env outcomes db approvedBy candidates).db service job item ↔
      w ∈ versionsOf db job.movieId ∧ ¬VersionDeleted env outcomes db candidates w.id ∧
        w.service = service ∧ Selected candidates w ∧ w.serviceItemId = item := by
  obtain ⟨config, -, hbatch⟩ := mem_unmonitoredJobs hjob
  simp only [itemUsers, serviceVersions, List.mem_filter, decide_eq_true_eq,
    mem_versionsOf_unmonitoring hdb hsub hjob]
  constructor
  · rintro ⟨⟨⟨hw, hkept⟩, hservice, htargets⟩, hitem⟩
    have hselected := ((mem_batch hbatch).targetsVersion_iff (mem_versionsOf.mp hw).2).mp htargets
    exact ⟨hw, hkept, hservice, hselected, hitem⟩
  · rintro ⟨hw, hkept, hservice, hselected, hitem⟩
    have htargets := ((mem_batch hbatch).targetsVersion_iff (mem_versionsOf.mp hw).2).mpr hselected
    exact ⟨⟨⟨hw, hkept⟩, hservice, htargets⟩, hitem⟩

end Items

/-! ## Which versions lose their files -/

theorem mem_candidatesFor_iff {movieId : Nat} {versions : List MovieVersion}
    (hversions : ∀ w ∈ versions, w.movieId = movieId) (hnonempty : w ∈ versions)
    {c : ReclaimCandidate} :
    c ∈ candidatesFor candidates movieId versions ↔
      c ∈ candidates ∧ ∃ w ∈ versions, InTarget c w := by
  simp only [candidatesFor, List.mem_filter, decide_eq_true_eq, and_congr_right_iff]
  intro _
  constructor
  · rintro ⟨hmovie, hnone | ⟨u, hu, hversion⟩⟩
    · exact ⟨w, hnonempty, hversions w hnonempty ▸ hmovie, Or.inl hnone⟩
    · exact ⟨u, hu, hversions u hu ▸ hmovie, Or.inr hversion⟩
  · rintro ⟨u, hu, hmovie, hversion⟩
    exact ⟨hversions u hu ▸ hmovie, hversion.imp id fun hversion => ⟨u, hu, hversion⟩⟩

/-- A file step of a movie's clean-up succeeds for a candidate of this kind when it covers a
version in the candidate's target. -/
theorem cleanUpSucceeds_iff {covers : ReclaimCandidate → Prop} (hdb : db.Consistent)
    (hsub : ∀ c ∈ candidates, c ∈ db.candidates)
    (hjob : job ∈ unmonitoredJobs env outcomes db approvedBy candidates) :
    CleanUpSucceeds env outcomes (unmonitoring env outcomes db approvedBy candidates).db candidates
        job covers ↔
      ∃ v ∈ versionsOf db job.movieId, ¬VersionDeleted env outcomes db candidates v.id ∧
        CoveredByCleanUp env outcomes db candidates v ∧
        ∃ c ∈ candidates, InTarget c v ∧ covers c := by
  obtain ⟨config, -, hbatch⟩ := mem_unmonitoredJobs hjob
  have hone : ∀ v ∈ versionsOf db job.movieId, ∀ c,
      c ∈ candidatesFor candidates job.movieId [v] ↔ c ∈ candidates ∧ InTarget c v := by
    intro v hv c
    rw [mem_candidatesFor_iff (by simpa using (mem_versionsOf.mp hv).2) (List.mem_singleton_self v)]
    simp
  rw [CleanUpSucceeds, effectiveSettings_unmonitoring]
  constructor
  · rintro (⟨v, hv, -, hcleaned, c, hc, hcovers⟩ |
      ⟨henabled, service, hservice, w, hw, hnotShared, hok, c, hc, hcovers⟩)
    · obtain ⟨hv, hkept⟩ := (mem_versionsOf_unmonitoring hdb hsub hjob).mp hv
      obtain ⟨hmem, htarget⟩ := (hone v hv c).mp hc
      exact ⟨v, hv, hkept, Or.inl (versionCleaned_unmonitoring_iff.mp hcleaned), c, hmem, htarget,
        hcovers⟩
    · -- every user of the item is covered by the attempt for one of them
      have husers : ∀ u, u ∈ itemUsers (unmonitoring env outcomes db approvedBy candidates).db
          service job w.serviceItemId ↔ _ := fun u => mem_itemUsers_unmonitoring_iff hdb hsub hjob
      have hattempt : w ∈ itemUsers (unmonitoring env outcomes db approvedBy candidates).db service
          job w.serviceItemId := List.mem_filter.mpr ⟨hw, by simp⟩
      obtain ⟨hmem, u, hu, htarget⟩ := (mem_candidatesFor_iff
        (fun u hu => (mem_versionsOf.mp ((husers u).mp hu).1).2) hattempt).mp hc
      obtain ⟨hwrow, hwkept, rfl, -, -⟩ := (husers w).mp hattempt
      obtain ⟨hu, hukept, huservice, -, huitem⟩ := (husers u).mp hu
      refine ⟨u, hu, hukept, Or.inr ?_, c, hmem, htarget, hcovers⟩
      rw [huservice, huitem, (mem_versionsOf.mp hu).2]
      exact ⟨henabled, hservice, (itemShared_unmonitoring_iff hdb hsub hjob).mp hnotShared,
        w, hwrow, rfl, rfl, hwkept, hok⟩
  · rintro ⟨v, hv, hkept, hcleaned | ⟨henabled, hservice, hnotShared, w, hw, hwservice, hitem,
      hwkept, hok⟩, c, hc, htarget, hcovers⟩
    · exact Or.inl ⟨v, (mem_versionsOf_unmonitoring hdb hsub hjob).mpr ⟨hv, hkept⟩,
        ((mem_batch hbatch).targetsVersion_iff (mem_versionsOf.mp hv).2).mpr ⟨c, hc, htarget⟩,
        versionCleaned_unmonitoring_iff.mpr hcleaned, c, (hone v hv c).mpr ⟨hc, htarget⟩, hcovers⟩
    · rw [(mem_versionsOf.mp hv).2] at hw hnotShared
      have husers : ∀ u, u ∈ itemUsers (unmonitoring env outcomes db approvedBy candidates).db
          v.service job v.serviceItemId ↔ _ := fun u => mem_itemUsers_unmonitoring_iff hdb hsub hjob
      have hattempt := (husers w).mpr
        ⟨hw, hwkept, hwservice, hnotShared w hw hwservice hitem, hitem⟩
      have hvuser := (husers v).mpr ⟨hv, hkept, rfl, ⟨c, hc, htarget⟩, rfl⟩
      refine Or.inr ⟨henabled, v.service, hservice, w, (List.mem_filter.mp hattempt).1, ?_, hok, c,
        ?_, hcovers⟩
      · rw [hitem]
        exact (itemShared_unmonitoring_iff hdb hsub hjob).mpr hnotShared
      · rw [hitem]
        exact (mem_candidatesFor_iff (fun u hu => (mem_versionsOf.mp ((husers u).mp hu).1).2)
          hvuser).mpr ⟨hc, v, hvuser, htarget⟩

/-- The clean-up succeeds for a candidate of this kind when it covers a version in the target
of one. -/
theorem succeeds_cleaning_iff_covered {kind : Call → Bool} {covers : ReclaimCandidate → Prop}
    (hdb : db.Consistent) (hsub : ∀ c ∈ candidates, c ∈ db.candidates)
    (hcleanup : ∀ path, kind (.siblingCleanup path) = true)
    (hitem : ∀ item, kind (.deleteItem item) = true) :
    Succeeds kind covers (cleaning env outcomes db approvedBy candidates).events ↔
      ∃ v ∈ db.movieVersions, UnmonitoredInBatch env outcomes db candidates v.movieId ∧
        ¬VersionDeleted env outcomes db candidates v.id ∧
        CoveredByCleanUp env outcomes db candidates v ∧
        ∃ c ∈ candidates, InTarget c v ∧ covers c := by
  rw [succeeds_cleaning_iff hdb hsub hcleanup hitem]
  constructor
  · rintro ⟨job, hjob, hcleanUp⟩
    obtain ⟨v, hv, hcovered⟩ := (cleanUpSucceeds_iff hdb hsub hjob).mp hcleanUp
    obtain ⟨hv, hmovie⟩ := mem_versionsOf.mp hv
    obtain ⟨config, hok, hbatch⟩ := mem_unmonitoredJobs hjob
    exact ⟨v, hv, ⟨config, hok, job, hbatch, hmovie.symm⟩, hcovered⟩
  · rintro ⟨v, hv, hunmonitored, hcovered⟩
    obtain ⟨job, hjob, hmovie⟩ := exists_mem_unmonitoredJobs approvedBy hunmonitored
    refine ⟨job, hjob, (cleanUpSucceeds_iff hdb hsub hjob).mpr ⟨v, ?_, hcovered⟩⟩
    exact mem_versionsOf.mpr ⟨hv, hmovie.symm⟩

end MediaMasterr.Deletion.Movie
