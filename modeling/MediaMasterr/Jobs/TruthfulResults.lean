import MediaMasterr.Deletion.SingleCandidate
import MediaMasterr.Jobs.CandidateFileOps

/-! # Truthful results

A candidate that a job counts as succeeded is gone, and one that it counts as
failed is still there behind its own call. The progress of a job only grows, and
is 100 exactly when all items are completed. -/

namespace MediaMasterr.Jobs.CandidateFileOps

open MediaMasterr.Foundations MediaMasterr.Database MediaMasterr.Deletion MediaMasterr.Requests

/-! ## Percentages -/

section Percentages

variable {completed completed' total : Nat}

theorem percentOf_zero (htotal : 0 < total) : percentOf 0 total = 0 := by
  simp [percentOf, htotal.ne', Doubles.round, Doubles.roundHalfEven]

theorem percentOf_nonneg : 0 ≤ percentOf completed total := by
  dsimp only [percentOf]
  omega

theorem percentOf_mono (h : completed ≤ completed') : percentOf completed total ≤ percentOf completed' total := by
  obtain rfl | htotal := total.eq_zero_or_pos
  · simp [percentOf]
  obtain rfl | hcompleted := completed.eq_zero_or_pos
  · rw [percentOf_zero htotal]
    exact percentOf_nonneg
  have hshare : (0 : ℚ) < completed / total := by positivity
  have hle : (completed : ℚ) / total ≤ completed' / total := by gcongr
  have hround := Doubles.round_mono hshare hle
  have hpos : 0 < Doubles.round ((completed : ℚ) / total) * 100 :=
    mul_pos (Doubles.round_pos hshare) (by norm_num)
  have hpercent := Int.floor_mono (Doubles.round_mono hpos (mul_le_mul_of_nonneg_right hround (by norm_num)))
  simp only [percentOf, htotal.ne', if_false]
  omega

theorem percentOf_self : percentOf total total = 100 := by
  obtain rfl | htotal := total.eq_zero_or_pos
  · simp [percentOf]
  have hone : Doubles.round 1 = 1 := by
    have h := Doubles.round_of_isDouble one_pos (Doubles.isDouble_natCast (n := 1) (by norm_num))
    exact_mod_cast h
  have hhundred : Doubles.round 100 = 100 := by
    have h := Doubles.round_of_isDouble (by norm_num) (Doubles.isDouble_natCast (n := 100) (by norm_num))
    exact_mod_cast h
  simp [percentOf, htotal.ne', hone, hhundred]

/-- The share of an incomplete job is below the greatest number below 1, and a hundred times that
is not rounded to 100. -/
theorem percentOf_lt (hlt : completed < total) (hfits : total < 2 ^ 31) : percentOf completed total < 100 := by
  have htotal : 0 < total := by omega
  obtain rfl | hcompleted := completed.eq_zero_or_pos
  · rw [percentOf_zero htotal]
    norm_num
  have hshare : (0 : ℚ) < completed / total := by positivity
  set below : ℚ := (2 ^ 53 - 1) * 2 ^ (-53 : ℤ) with hbelow
  have hbelowDouble : Doubles.IsDouble below := ⟨2 ^ 53 - 1, -53, by norm_num, by norm_num [hbelow]⟩
  have hle : (completed : ℚ) / total ≤ below := by
    have hcompleted : (completed : ℚ) ≤ total - 1 := by
      have h : (completed : ℚ) + 1 ≤ total := by exact_mod_cast hlt
      linarith
    have hbound : (total : ℚ) ≤ 2 ^ 53 := by
      have h : (total : ℚ) < 2 ^ 31 := by exact_mod_cast hfits
      linarith
    rw [div_le_iff₀ (by exact_mod_cast htotal)]
    have hsmall : (total : ℚ) * 2 ^ (-53 : ℤ) ≤ 1 := by
      calc (total : ℚ) * 2 ^ (-53 : ℤ) ≤ 2 ^ 53 * 2 ^ (-53 : ℤ) := by gcongr
        _ = 1 := by norm_num
    have hsplit : below * total = total - total * 2 ^ (-53 : ℤ) := by
      rw [hbelow]
      norm_num
      ring
    rw [hsplit]
    linarith
  have hround : Doubles.round ((completed : ℚ) / total) ≤ below := by
    have h := Doubles.round_mono hshare hle
    rwa [Doubles.round_of_isDouble (by norm_num [hbelow]) hbelowDouble] at h
  have hpos : 0 < Doubles.round ((completed : ℚ) / total) * 100 :=
    mul_pos (Doubles.round_pos hshare) (by norm_num)
  have hhundred : Doubles.round (below * 100) < 100 := by
    have hnear := Doubles.abs_sub_round_le (x := below * 100) (f := (100 * 2 ^ 46 - 1) * 2 ^ (-46 : ℤ))
      (by norm_num [hbelow]) ⟨100 * 2 ^ 46 - 1, -46, by norm_num, by norm_num⟩
    have hdistance : |below * 100 - (100 * 2 ^ 46 - 1) * 2 ^ (-46 : ℤ)| < 100 - below * 100 := by
      rw [hbelow, abs_lt]
      constructor <;> norm_num
    linarith [neg_abs_le (below * 100 - Doubles.round (below * 100))]
  have hlast := (Doubles.round_mono hpos (mul_le_mul_of_nonneg_right hround (by norm_num))).trans_lt hhundred
  have hfloor : ⌊Doubles.round (Doubles.round ((completed : ℚ) / total) * 100)⌋ < 100 :=
    Int.floor_lt.mpr (by exact_mod_cast hlast)
  simp only [percentOf, htotal.ne', if_false]
  omega

end Percentages

/-! ## The progress -/

/-- The percentage never decreases, and is 100 exactly when all items are completed. -/
def TruthfulProgress (progress : List CandidateFileOpJobProgress) : Prop :=
  progress.Pairwise (fun p q => p.percent ≤ q.percent) ∧
    ∀ p ∈ progress, p.percent = 100 ↔ p.completedItems = p.totalItems

section Progress

variable {payload : CandidateFileOpJobPayload} {s : JobState}

/-- What the progress of a job records: the items that were completed at the time. -/
structure ProgressSound (payload : CandidateFileOpJobPayload) (s : JobState) : Prop where
  percent_eq : ∀ p ∈ s.progress, p.totalItems = payload.candidateIds.length ∧
    p.percent = percentOf p.completedItems payload.candidateIds.length
  completed_le : ∀ p ∈ s.progress, p.completedItems ≤ s.completedItems
  sorted : s.progress.Pairwise fun p q => p.completedItems ≤ q.completedItems

theorem ProgressSound.persisted (h : ProgressSound payload s) (label : Option String) :
    ProgressSound payload (persistProgress payload label s) := by
  refine ⟨?_, ?_, ?_⟩
  · intro p hp
    rcases List.mem_append.mp hp with hp | hp
    · exact h.percent_eq p hp
    · obtain rfl := List.mem_singleton.mp hp
      exact ⟨rfl, rfl⟩
  · intro p hp
    rcases List.mem_append.mp hp with hp | hp
    · exact h.completed_le p hp
    · obtain rfl := List.mem_singleton.mp hp
      exact le_rfl
  · refine List.pairwise_append.mpr ⟨h.sorted, List.pairwise_singleton _ _, fun p hp q hq => ?_⟩
    obtain rfl := List.mem_singleton.mp hq
    exact h.completed_le p hp

theorem ProgressSound.counted (h : ProgressSound payload s) (id : Nat) (called : Tables × Nat × Nat) :
    ProgressSound payload (countItem id s called) :=
  ⟨h.percent_eq, fun p hp => (h.completed_le p hp).trans (Nat.le_succ _), h.sorted⟩

theorem ProgressSound.truthful (h : ProgressSound payload s)
    (hcompleted : s.completedItems ≤ payload.candidateIds.length) : TruthfulProgress s.progress := by
  constructor
  · refine h.sorted.imp_of_mem fun {p q} hp hq hle => ?_
    rw [(h.percent_eq p hp).2, (h.percent_eq q hq).2]
    exact percentOf_mono hle
  · intro p hp
    obtain ⟨htotal, hpercent⟩ := h.percent_eq p hp
    rw [htotal, hpercent]
    constructor
    · intro hfull
      by_contra hne
      have hle := (h.completed_le p hp).trans hcompleted
      have hlt := percentOf_lt (hle.lt_of_ne hne) payload.fits
      omega
    · intro hall
      rw [hall]
      exact percentOf_self

end Progress

/-! ## The items -/

section Items

variable {env : Environment} {outcomes : ItemOutcomes} {db : Tables} {id : Nat} {approvedBy : String}

theorem guardedByPrune_report {blocked : String} {impl : Tables → List Nat → Tables × Nat × Nat}
    {blind skipped : Prop} (hids : (db.candidates.map ReclaimCandidate.id).Nodup)
    (himpl : CallReport id db blind skipped (impl db [id])) :
    CallReport id db blind skipped (guardedByPrune env outcomes db [id] blocked impl) := by
  have hsingle : [id].eraseDups = [id] := rfl
  simp only [guardedByPrune, hsingle, List.isEmpty_cons, Bool.false_eq_true, if_false]
  cases hprune : outcomes.prune.error (db.candidates.filter (·.id ∈ [id])) with
  | none => exact himpl
  | some e =>
    have hmarks : db.Marks (db.markCandidateDeleteFailures env.now [id]
        (blocked ++ " blocked by Leaving Soon collection cleanup: " ++ e)) :=
      Tables.marks_markCandidateDeleteFailures _ _ _
    refine ⟨?_, fun id => hmarks.hasCandidate_iff.mp, by simp, by simp, fun _ => .inr ?_, by simp⟩
    · rwa [hmarks.candidateIds_eq]
    · -- only the items of a candidate can fail to be pruned
      refine hmarks.hasCandidate_iff.mpr ?_
      by_contra hnone
      have hempty : db.candidates.filter (·.id ∈ [id]) = [] := by
        refine List.filter_eq_nil_iff.mpr fun c hc hid => hnone ⟨c, hc, by simpa using hid⟩
      rw [hempty, outcomes.prune.error_nil] at hprune
      exact absurd hprune (by simp)

/-- The call is a move, and moves are switched off. -/
def Blocked (operation : CandidateFileOpOperation) (db : Tables) (id : Nat) : Prop :=
  operation = .move ∧ MoveBlocked db id

/-- The call is a move, which leaves the candidate out. -/
def Skipped (env : Environment) (operation : CandidateFileOpOperation) (db : Tables) (id : Nat) : Prop :=
  operation = .move ∧ MoveSkips env db id

theorem operate_report (env : Environment) (outcomes : ItemOutcomes) (id : Nat) (approvedBy : String)
    (operation : CandidateFileOpOperation) (hids : (db.candidates.map ReclaimCandidate.id).Nodup) :
    CallReport id db (Blocked operation db id) (Skipped env operation db id)
      (operate env outcomes db [id] approvedBy operation) := by
  cases operation with
  | delete =>
    have h : CallReport id db False False
        (deleteSpecificCandidates env outcomes db [id] approvedBy) := by
      unfold deleteSpecificCandidates
      exact guardedByPrune_report hids (deleteSpecificCandidatesImpl_report hids)
    exact h.imp False.elim False.elim
  | move =>
    have h : CallReport id db (MoveBlocked db id) (MoveSkips env db id)
        (moveSpecificCandidates env outcomes db [id] approvedBy) := by
      unfold moveSpecificCandidates
      exact guardedByPrune_report hids (moveSpecificCandidatesImpl_report outcomes.move hids)
    exact h.imp (fun hblocked => ⟨rfl, hblocked⟩) fun hskipped => ⟨rfl, hskipped⟩

end Items

/-! ## The results -/

/-- The call of one of these items removed the candidate. -/
def RemovedBy (results : List ItemResult) (id : Nat) : Prop :=
  ∃ r ∈ results, r.before.HasCandidate id ∧ ¬r.after.HasCandidate id

section Results

variable {env : Environment} {payload : CandidateFileOpJobPayload} {done : List Nat} {s : JobState}

/-- What the counts of the items say about the tables. -/
structure ItemsSound (env : Environment) (payload : CandidateFileOpJobPayload) (done : List Nat)
    (s : JobState) : Prop where
  candidateIds : (s.db.candidates.map ReclaimCandidate.id).Nodup
  items_eq : s.results.map ItemResult.candidateId = done
  completed_eq : s.completedItems = done.length
  succeeded_eq : s.succeeded = (s.results.map ItemResult.succeeded).sum
  failed_eq : s.failed = (s.results.map ItemResult.failed).sum
  counts_eq : s.succeeded + s.failed = s.completedItems
  gone : ∀ r ∈ s.results, 0 < r.succeeded →
    Skipped env payload.operation r.before r.candidateId ∨ ¬s.db.HasCandidate r.candidateId
  kept : ∀ earlier r later, s.results = earlier ++ r :: later → 0 < r.failed →
    Blocked payload.operation r.before r.candidateId ∨
      r.after.HasCandidate r.candidateId ∧
        (s.db.HasCandidate r.candidateId ∨ RemovedBy later r.candidateId)

theorem ItemsSound.persisted (h : ItemsSound env payload done s) (label : Option String) :
    ItemsSound env payload done (persistProgress payload label s) :=
  ⟨h.candidateIds, h.items_eq, h.completed_eq, h.succeeded_eq, h.failed_eq, h.counts_eq, h.gone, h.kept⟩

theorem ItemsSound.counted (h : ItemsSound env payload done s) {id : Nat}
    {called : Tables × Nat × Nat} (hcalled : CallReport id s.db (Blocked payload.operation s.db id)
      (Skipped env payload.operation s.db id) called) :
    ItemsSound env payload (done ++ [id]) (countItem id s called) := by
  have hle := hcalled.counts_le
  refine ⟨hcalled.candidateIds, ?_, ?_, ?_, ?_, ?_, ?_, ?_⟩
  · simp [countItem, h.items_eq]
  · simp [countItem, h.completed_eq]
  · simp [countItem, h.succeeded_eq]
  · simp [countItem, h.failed_eq]
  · have hcounts := h.counts_eq
    simp only [countItem]
    split_ifs <;> omega
  · intro r hr hsucceeded
    rcases List.mem_append.mp hr with hr | hr
    · exact (h.gone r hr hsucceeded).imp_right fun hgone hcandidate =>
        hgone (hcalled.shrinks _ hcandidate)
    · obtain rfl := List.mem_singleton.mp hr
      dsimp only at hsucceeded ⊢
      split_ifs at hsucceeded with hnone
      · exact hcalled.gone_of_uncounted hnone.1 hnone.2
      · exact .inr (hcalled.gone_of_succeeded (by omega))
  · intro earlier r later hsplit hfailed
    obtain rfl | ⟨later, last, rfl⟩ := List.eq_nil_or_concat later
    · obtain ⟨-, hlast⟩ := List.append_inj' hsplit rfl
      obtain rfl := List.singleton_inj.mp hlast
      refine (hcalled.kept_of_failed (by dsimp only at hfailed; omega)).imp_right fun hkept => ?_
      exact ⟨hkept, .inl hkept⟩
    · rw [List.concat_eq_append] at hsplit ⊢
      rw [← List.cons_append, ← List.append_assoc] at hsplit
      obtain ⟨hbefore, hlast⟩ := List.append_inj' hsplit rfl
      obtain rfl := List.singleton_inj.mp hlast
      refine (h.kept earlier r later hbefore hfailed).imp_right fun ⟨hafter, hkept⟩ => ⟨hafter, ?_⟩
      rcases hkept with hkept | ⟨r', hr', hremoved⟩
      · by_cases hstill : called.1.HasCandidate r.candidateId
        · exact .inl hstill
        · exact .inr ⟨_, List.mem_append_right _ List.mem_cons_self, hkept, hstill⟩
      · exact .inr ⟨r', List.mem_append_left _ hr', hremoved⟩

/-- Every item keeps both, so all of them do. -/
theorem runItems_sound {outcomes : Nat → ItemOutcomes} {index : Nat} {ids : List Nat} {s' : JobState}
    (hrun : runItems env outcomes payload index ids s = .ok s') (h : ItemsSound env payload done s)
    (hprogress : ProgressSound payload s) :
    ItemsSound env payload (done ++ ids) s' ∧ ProgressSound payload s' := by
  induction ids generalizing index done s with
  | nil =>
    obtain rfl : s = s' := by simpa [runItems] using hrun
    exact ⟨by simpa using h, hprogress⟩
  | cons id ids ih =>
    rw [runItems] at hrun
    cases hraised : (outcomes index).raised with
    | some raised => simp [runItem, hraised, bind, Except.bind] at hrun
    | none =>
      simp only [runItem, hraised, bind, Except.bind] at hrun
      have hlabel := h.persisted (some (itemLabel payload index id))
      have hstep := hlabel.counted (operate_report env (outcomes index) id payload.requestedByUsername
        payload.operation hlabel.candidateIds)
      have hcounted := ih hrun (hstep.persisted _)
        (((hprogress.persisted _).counted _ _).persisted _)
      simpa using hcounted

end Results

/-! ## The end of a job -/

/-- The job was queued for a delete request, and this is its candidate. -/
def RemovedAtEnd (payload : CandidateFileOpJobPayload) (id : Nat) : Prop :=
  payload.deleteRequestId.isSome = true ∧ payload.candidateIds.head? = some id

section Finalization

variable (env : Environment) (payload : CandidateFileOpJobPayload) (now requestId succeeded failed id : Nat)
variable (candidateIds : List Nat) (error : Option String) (db : Tables) (s : JobState)

/-- Finalizing a request deletes at most its candidate. -/
theorem finalizeDeleteRequestJob_hasCandidate_iff :
    ∃ dropped : Prop, (dropped → candidateIds.head? = some id) ∧
      ((finalizeDeleteRequestJob now requestId candidateIds succeeded failed error db).HasCandidate id ↔
        db.HasCandidate id ∧ ¬dropped) := by
  unfold finalizeDeleteRequestJob
  cases db.deleteRequests.find? (·.id = requestId) with
  | none => exact ⟨False, False.elim, by simp⟩
  | some _ =>
    dsimp only
    split_ifs with hsuccess
    · exact ⟨False, False.elim, by simp [Tables.HasCandidate]⟩
    · set found := candidateIds.head?.bind fun id => db.candidates.find? (·.id = id) with hfound
      refine ⟨∃ c, found = some c ∧ c.id = id, ?_, ?_⟩
      · rintro ⟨c, hc, rfl⟩
        obtain ⟨head, hhead, hfind⟩ := Option.bind_eq_some_iff.mp (hfound ▸ hc)
        have hid : c.id = head := by simpa using List.find?_some hfind
        rw [hhead, hid]
      · simp only [Tables.HasCandidate, List.mem_filter, decide_eq_true_eq]
        constructor
        · rintro ⟨c, ⟨hc, hkept⟩, rfl⟩
          refine ⟨⟨c, hc, rfl⟩, ?_⟩
          rintro ⟨c', hc', hid⟩
          exact hkept c' hc' hid.symm
        · rintro ⟨⟨c, hc, rfl⟩, hkept⟩
          exact ⟨c, ⟨hc, fun c' hc' hid => hkept ⟨c', hc', hid.symm⟩⟩, rfl⟩

theorem finalizeJob_hasCandidate_iff :
    ∃ dropped : Prop, (dropped → RemovedAtEnd payload id) ∧
      ((finalizeJob env payload failed error s).db.HasCandidate id ↔ s.db.HasCandidate id ∧ ¬dropped) := by
  unfold finalizeJob RemovedAtEnd
  cases payload.deleteRequestId with
  | none => exact ⟨False, False.elim, by simp⟩
  | some requestId =>
    obtain ⟨dropped, hhead, hiff⟩ := finalizeDeleteRequestJob_hasCandidate_iff env.now requestId
      s.succeeded failed id payload.candidateIds error s.db
    exact ⟨dropped, fun h => ⟨rfl, hhead h⟩, hiff⟩

theorem finalizeJob_results : (finalizeJob env payload failed error s).results = s.results := by
  unfold finalizeJob
  cases payload.deleteRequestId <;> rfl

theorem finalizeJob_progress : (finalizeJob env payload failed error s).progress = s.progress := by
  unfold finalizeJob
  cases payload.deleteRequestId <;> rfl

end Finalization

/-! ## Truthful runs -/

/-- Every item is counted once, as succeeded only if its candidate is gone and as failed only if it
is still there. -/
def TruthfulRun (run : Except String CandidateFileOpJobResult × JobState) : Prop :=
  match run.1 with
  | .error _ => True
  | .ok result =>
    result.succeeded + result.failed = result.processed ∧
      (∀ r ∈ run.2.results, 0 < r.succeeded → ¬run.2.db.HasCandidate r.candidateId) ∧
      (∀ r ∈ run.2.results, 0 < r.failed → run.2.db.HasCandidate r.candidateId) ∧
      TruthfulProgress run.2.progress

instance (db : Tables) (id : Nat) : Decidable (db.HasCandidate id) :=
  inferInstanceAs (Decidable (∃ c ∈ db.candidates, c.id = id))

instance (progress : List CandidateFileOpJobProgress) : Decidable (TruthfulProgress progress) :=
  inferInstanceAs (Decidable (_ ∧ _))

instance : DecidablePred TruthfulRun
  | (.error _, _) => isTrue trivial
  | (.ok _, _) => inferInstanceAs (Decidable (_ ∧ _))

/-- What a job's result says about its items and its progress. A failed candidate is there behind
its own call; a later call or the end of the job may remove it. -/
structure ResultTruthful (env : Environment) (payload : CandidateFileOpJobPayload)
    (result : CandidateFileOpJobResult) (s : JobState) : Prop where
  items_eq : s.results.map ItemResult.candidateId = payload.candidateIds
  processed_eq : result.processed = payload.candidateIds.length
  succeeded_eq : result.succeeded = (s.results.map ItemResult.succeeded).sum
  failed_eq : result.failed = (s.results.map ItemResult.failed).sum
  counts_eq : result.succeeded + result.failed = result.processed
  gone : ∀ r ∈ s.results, 0 < r.succeeded →
    Skipped env payload.operation r.before r.candidateId ∨ ¬s.db.HasCandidate r.candidateId
  kept : ∀ earlier r later, s.results = earlier ++ r :: later → 0 < r.failed →
    Blocked payload.operation r.before r.candidateId ∨
      r.after.HasCandidate r.candidateId ∧
        (s.db.HasCandidate r.candidateId ∨ RemovedBy later r.candidateId ∨
          RemovedAtEnd payload r.candidateId)
  progress : TruthfulProgress s.progress

theorem resultTruthful_of_run {env : Environment} {outcomes : Nat → ItemOutcomes}
    {payload : CandidateFileOpJobPayload} {db : Tables} {result : CandidateFileOpJobResult} {s : JobState}
    (hids : (db.candidates.map ReclaimCandidate.id).Nodup)
    (hrun : runCandidateFileOpJob env outcomes payload db = (.ok result, s)) :
    ResultTruthful env payload result s := by
  unfold runCandidateFileOpJob at hrun
  cases hitems : runItems env outcomes payload 0 payload.candidateIds { db } with
  | error raised => simp [hitems] at hrun
  | ok s' =>
    have hstart : ItemsSound env payload [] { db } :=
      ⟨hids, rfl, rfl, rfl, rfl, rfl, by simp, by simp⟩
    obtain ⟨hsound, hprogress⟩ := runItems_sound hitems hstart ⟨by simp, by simp, List.Pairwise.nil⟩
    rw [List.nil_append] at hsound
    simp only [hitems, Prod.mk.injEq, Except.ok.injEq] at hrun
    obtain ⟨rfl, rfl⟩ := hrun
    have hlast := hprogress.persisted none
    refine ⟨?_, rfl, ?_, ?_, ?_, ?_, ?_, ?_⟩
    · rw [finalizeJob_results]
      exact hsound.items_eq
    · rw [finalizeJob_results]
      exact hsound.succeeded_eq
    · rw [finalizeJob_results]
      exact hsound.failed_eq
    · exact hsound.counts_eq.trans hsound.completed_eq
    · rw [finalizeJob_results]
      intro r hr hsucceeded
      obtain ⟨dropped, -, hiff⟩ := finalizeJob_hasCandidate_iff env payload s'.failed r.candidateId none
        (persistProgress payload none s')
      exact (hsound.gone r hr hsucceeded).imp_right fun hgone h => hgone (hiff.mp h).1
    · rw [finalizeJob_results]
      intro earlier r later hsplit hfailed
      obtain ⟨dropped, hdropped, hiff⟩ := finalizeJob_hasCandidate_iff env payload s'.failed r.candidateId none
        (persistProgress payload none s')
      refine (hsound.kept earlier r later hsplit hfailed).imp_right fun ⟨hafter, hkept⟩ => ⟨hafter, ?_⟩
      by_cases hdrop : dropped
      · exact .inr (.inr (hdropped hdrop))
      · exact hkept.imp (fun h => hiff.mpr ⟨h, hdrop⟩) .inl
    · rw [finalizeJob_progress]
      exact hlast.truthful (Nat.le_of_eq hsound.completed_eq)

/-- The items of the second candidate cannot be pruned. -/
def pruneOutcomes : Nat → ItemOutcomes
  | 1 => { prune := { error := fun candidates => if candidates.isEmpty then none else some "refused" } }
  | _ => {}

def splitMoviePayload : CandidateFileOpJobPayload where
  operation := .delete
  candidateIds := [1, 2]
  fits := by decide

/-- One version of a movie is deleted, the other is not. -/
theorem resultTruthful_splitMovie :
    ResultTruthful Movie.twoRadarrs splitMoviePayload ⟨.delete, 2, 1, 1⟩
      (runCandidateFileOpJob Movie.twoRadarrs pruneOutcomes splitMoviePayload Movie.splitMovie).2 :=
  have hrun : runCandidateFileOpJob Movie.twoRadarrs pruneOutcomes splitMoviePayload Movie.splitMovie =
      (.ok ⟨.delete, 2, 1, 1⟩, _) := rfl
  resultTruthful_of_run (by decide) hrun

/-- A movie with a candidate and a request, and a user whose favorites are kept. -/
def favoriteMovie : Tables where
  movies := [{ id := 1, tmdbId := 5, title := "A" }]
  candidates := [{ id := 1, mediaType := .movie, movieId := some 1 }]
  deleteRequests := [{ id := 1, mediaType := .movie, movieId := some 1, status := .approved }]
  favorites := [⟨.movie, 5, "ann"⟩]
  settings := some { moveEnabled := true, favoritesIgnoreEnabled := true, favoritesProtectAllUsers := true }

/-- Nothing can delete the movie, and the end of the job deletes the candidate that it has counted
as failed. A favorite is counted as moved. -/
theorem not_truthfulRun :
    ¬TruthfulRun (runCandidateFileOpJob sonarrOnly (fun _ => {})
        { operation := .delete, candidateIds := [1], deleteRequestId := some 1, fits := by decide }
        favoriteMovie) ∧
      ¬TruthfulRun (runCandidateFileOpJob sonarrOnly (fun _ => {})
        { operation := .move, candidateIds := [1], fits := by decide } favoriteMovie) := by
  decide +kernel

end MediaMasterr.Jobs.CandidateFileOps
