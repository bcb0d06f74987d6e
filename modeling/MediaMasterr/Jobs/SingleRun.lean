import MediaMasterr.Jobs.Transitions

/-! # Jobs run once

In every run of the queue, of any number of workers and processes, each job is
claimed once at most, and a job that has ended keeps its status. -/

namespace MediaMasterr.Jobs

open MediaMasterr.Foundations MediaMasterr.Foundations.Transactions

variable {κ ν : Type*} [DecidableEq κ]

/-- The job that a transaction claims. -/
def Point.claims? : Point ν → Option Nat
  | .commitClaim _ _ id => some id
  | _ => none

/-- The job that a worker has claimed and not yet got. -/
def Point.unread? : Point ν → Option Nat
  | .readClaimed id => some id
  | _ => none

theorem role_of_owned {p : Point ν} {id : Nat} (h : id ∈ p.owned?) : p.role = .worker := by
  cases p <;> first | rfl | cases h

theorem role_of_claims {p : Point ν} {id : Nat} (h : id ∈ p.claims?) : p.role = .worker := by
  cases p <;> first | rfl | cases h

theorem written_of_claims {p : Point ν} {id : Nat} (h : id ∈ p.claims?) : written p ≠ none := by
  cases p <;> first | exact Option.some_ne_none _ | cases h

theorem owned_of_unread {p : Point ν} {id : Nat} (h : id ∈ p.unread?) : id ∈ p.owned? := by
  cases p <;> first | exact h | cases h

theorem owned_of_job {p : Point ν} {job : BackgroundJob ν} (h : p.job? = some job) :
    p.owned? = some job.id := by
  cases p <;> cases h <;> rfl

/-- What the points say about the committed jobs: `phase` is that of the process, and
`returned` are the jobs that workers have got. -/
structure Claims (jobs : List (BackgroundJob ν)) (points : κ → Point ν) (phase : Phase κ)
    (returned : List Nat) : Prop where
  ids : (jobs.map BackgroundJob.id).Nodup
  sound : ∀ job ∈ jobs, IsSound job.stage
  owned : ∀ t, ∀ id ∈ (points t).owned?, HasStatus .running id jobs
  owner : ∀ t t', ∀ id ∈ (points t).owned?, id ∈ (points t').owned? → t = t'
  claim : ∀ t, ∀ id ∈ (points t).claims?, IsClaimable id jobs
  startUp : ∀ t, (points t).role = .startUp → phase = .resetting t
  worker : ∀ t, (points t).role = .worker → phase = .working
  nodup : returned.Nodup
  started : ∀ id ∈ returned, ∃ job ∈ jobs, job.id = id ∧ job.attempts = 1
  unread : ∀ t, ∀ id ∈ (points t).unread?, id ∉ returned

namespace Claims

variable {jobs jobs' : List (BackgroundJob ν)} {points : κ → Point ν} {phase phase' : Phase κ}
  {returned : List Nat} {t : κ} {p' : Point ν} {mayEnd : Nat → Prop}

/-- One session moves on, while the jobs evolve as the other sessions allow. -/
theorem advance (h : Claims jobs points phase returned) (hevolves : Evolves mayEnd jobs jobs')
    (hend : ∀ t' ≠ t, ∀ id ∈ (points t').owned?, ¬mayEnd id)
    (hclaims : ∀ t' ≠ t, ∀ id ∈ (points t').claims?, IsClaimable id jobs')
    (hphase : ∀ t' ≠ t, ((points t').role = .startUp → phase' = .resetting t') ∧
      ((points t').role = .worker → phase' = .working))
    (howned : ∀ id ∈ p'.owned?, HasStatus .running id jobs' ∧ ∀ t' ≠ t, id ∉ (points t').owned?)
    (hclaim : ∀ id ∈ p'.claims?, IsClaimable id jobs') (hunread : ∀ id ∈ p'.unread?, id ∉ returned)
    (hstartUp : p'.role = .startUp → phase' = .resetting t)
    (hworker : p'.role = .worker → phase' = .working) :
    Claims jobs' (Function.update points t p') phase' returned where
  ids := hevolves.ids h.ids
  sound := hevolves.isSound h.sound
  owned t' id hid := by
    by_cases ht : t' = t
    · subst ht
      exact (howned id (by simpa using hid)).1
    · rw [Function.update_of_ne ht] at hid
      exact hevolves.hasStatus_running (hend t' ht id hid) (h.owned t' id hid)
  owner t₁ t₂ id h₁ h₂ := by
    by_cases ht₁ : t₁ = t
    · by_cases ht₂ : t₂ = t
      · exact ht₁.trans ht₂.symm
      · subst ht₁
        rw [Function.update_self] at h₁
        rw [Function.update_of_ne ht₂] at h₂
        exact absurd h₂ ((howned id h₁).2 t₂ ht₂)
    · rw [Function.update_of_ne ht₁] at h₁
      by_cases ht₂ : t₂ = t
      · subst ht₂
        rw [Function.update_self] at h₂
        exact absurd h₁ ((howned id h₂).2 t₁ ht₁)
      · rw [Function.update_of_ne ht₂] at h₂
        exact h.owner t₁ t₂ id h₁ h₂
  claim t' id hid := by
    by_cases ht : t' = t
    · subst ht
      exact hclaim id (by simpa using hid)
    · rw [Function.update_of_ne ht] at hid
      exact hclaims t' ht id hid
  startUp t' hrole := by
    by_cases ht : t' = t
    · subst ht
      exact hstartUp (by simpa using hrole)
    · rw [Function.update_of_ne ht] at hrole
      exact (hphase t' ht).1 hrole
  worker t' hrole := by
    by_cases ht : t' = t
    · subst ht
      exact hworker (by simpa using hrole)
    · rw [Function.update_of_ne ht] at hrole
      exact (hphase t' ht).2 hrole
  nodup := h.nodup
  started id hid := by
    obtain ⟨job, hjob, hsame, hone⟩ := h.started id hid
    obtain ⟨job', hjob', hsame', htransition⟩ := hevolves.old job hjob
    exact ⟨job', hjob', hsame'.trans hsame, htransition.attempts_eq_one (h.sound job hjob) hone⟩
  unread t' id hid := by
    by_cases ht : t' = t
    · subst ht
      exact hunread id (by simpa using hid)
    · rw [Function.update_of_ne ht] at hid
      exact h.unread t' id hid

/-- A session ends up outside of workers and the start-up. -/
theorem advance_call (h : Claims jobs points phase returned) (hevolves : Evolves mayEnd jobs jobs')
    (hend : ∀ t' ≠ t, ∀ id ∈ (points t').owned?, ¬mayEnd id)
    (hclaims : ∀ t' ≠ t, ∀ id ∈ (points t').claims?, IsClaimable id jobs')
    (hphase : ∀ t' ≠ t, ((points t').role = .startUp → phase' = .resetting t') ∧
      ((points t').role = .worker → phase' = .working)) (hrole : p'.role = .call) :
    Claims jobs' (Function.update points t p') phase' returned := by
  have hne : p'.role ≠ .worker := by rw [hrole]; decide
  refine h.advance hevolves hend hclaims hphase (fun id hid => ?_) (fun id hid => ?_) (fun id hid => ?_)
    (fun hstartUp => ?_) fun hworker => absurd hworker hne
  · exact absurd (role_of_owned hid) hne
  · exact absurd (role_of_claims hid) hne
  · exact absurd (role_of_owned (owned_of_unread hid)) hne
  · rw [hrole] at hstartUp
    cases hstartUp

/-- One session moves on, and the jobs stay. -/
theorem move (h : Claims jobs points phase returned)
    (howned : ∀ id ∈ p'.owned?, id ∈ (points t).owned?) (hclaim : ∀ id ∈ p'.claims?, IsClaimable id jobs)
    (hunread : ∀ id ∈ p'.unread?, id ∉ returned) (hstartUp : p'.role = .startUp → phase = .resetting t)
    (hworker : p'.role = .worker → phase = .working) :
    Claims jobs (Function.update points t p') phase returned := by
  refine h.advance (Evolves.refl (fun _ => False) _) (fun _ _ _ _ => id) (fun t' _ => h.claim t')
    (fun t' _ => ⟨h.startUp t', h.worker t'⟩) (fun id hid => ?_) hclaim hunread hstartUp hworker
  exact ⟨h.owned t id (howned id hid), fun t' ht hid' => ht (h.owner t' t id hid' (howned id hid))⟩

theorem move_call (h : Claims jobs points phase returned) (hrole : p'.role = .call) :
    Claims jobs (Function.update points t p') phase returned :=
  h.advance_call (Evolves.refl (fun _ => False) _) (fun _ _ _ _ => id) (fun t' _ => h.claim t')
    (fun t' _ => ⟨h.startUp t', h.worker t'⟩) hrole

/-- A worker without a job moves on. -/
theorem move_free (h : Claims jobs points phase returned) (hphase : phase = .working)
    (howned : p'.owned? = none) (hrole : p'.role = .worker)
    (hclaim : ∀ id ∈ p'.claims?, IsClaimable id jobs) :
    Claims jobs (Function.update points t p') phase returned := by
  refine h.move (fun id hid => ?_) hclaim (fun id hid => ?_) (fun hstartUp => ?_) fun _ => hphase
  · rw [howned] at hid
    cases hid
  · have hid' := owned_of_unread hid
    rw [howned] at hid'
    cases hid'
  · rw [hrole] at hstartUp
    cases hstartUp

/-- A worker goes on with its job. -/
theorem move_job (h : Claims jobs points phase returned) (id : Nat) (hid : p'.owned? = some id)
    (howned : (points t).owned? = some id) (hunread : p'.unread? = none) (hclaim : p'.claims? = none) :
    Claims jobs (Function.update points t p') phase returned := by
  refine h.move (fun id' hid' => howned.trans (hid.symm.trans hid')) (fun id' hid' => ?_) (fun id' hid' => ?_)
    (fun hstartUp => ?_) fun _ => h.worker t (role_of_owned howned)
  · rw [hclaim] at hid'
    cases hid'
  · rw [hunread] at hid'
    cases hid'
  · rw [role_of_owned hid] at hstartUp
    cases hstartUp

omit [DecidableEq κ] in
/-- A worker gets its job. -/
theorem returned_concat (h : Claims jobs points phase returned) {id : Nat} (hnew : id ∉ returned)
    (hjob : HasStatus .running id jobs) (hread : ∀ t, id ∉ (points t).unread?) :
    Claims jobs points phase (returned ++ [id]) :=
  { h with
    nodup := by
      rw [List.nodup_append_comm, List.singleton_append]
      exact List.nodup_cons.mpr ⟨hnew, h.nodup⟩
    started := fun id' hid' => by
      rcases List.mem_append.mp hid' with hold | hself
      · exact h.started id' hold
      · obtain rfl := List.mem_singleton.mp hself
        obtain ⟨job, hmem, hsame, hstatus⟩ := hjob
        have hsound := h.sound job hmem
        rw [BackgroundJob.stage, hstatus] at hsound
        exact ⟨job, hmem, hsame, hsound⟩
    unread := fun t id' hunread hid' => by
      rcases List.mem_append.mp hid' with hold | hself
      · exact h.unread t id' hunread hold
      · obtain rfl := List.mem_singleton.mp hself
        exact hread t hunread }

omit [DecidableEq κ] in
/-- The rows of an owned job are running. -/
theorem running_of_owned (h : Claims jobs points phase returned) {id : Nat} (hid : id ∈ (points t).owned?) :
    ∀ job ∈ jobs, job.id = id → job.status = .running := by
  intro job hjob hsame
  obtain ⟨job', hjob', hsame', hstatus⟩ := h.owned t id hid
  obtain rfl := List.inj_on_of_nodup_map h.ids hjob hjob' (hsame.trans hsame'.symm)
  exact hstatus

theorem select (h : Claims jobs points phase returned) {next : List (BackgroundJob ν) → Point ν}
    (hnext : statement (points t) = some (.select next)) :
    Claims jobs (Function.update points t (next (seen written (points t) jobs)))
      (phase.after (points t))
      (returned ++ ((points t).returned? (seen written (points t) jobs)).toList) := by
  cases hp : points t <;> rw [hp] at hnext <;> simp only [statement, Option.some.injEq, reduceCtorEq,
    Statement.select.injEq, Option.map_eq_some_iff, exists_const, and_false] at hnext
  case checkActive request =>
    obtain ⟨key, -, rfl⟩ := hnext
    change Claims _ _ phase (returned ++ [])
    rw [List.append_nil]
    dsimp only
    split_ifs <;> exact h.move_call rfl
  case refreshJob id =>
    subst hnext
    change Claims _ _ phase (returned ++ [])
    rw [List.append_nil]
    exact h.move_call rfl
  case selectNext workerId allowed now =>
    subst hnext
    change Claims _ _ phase (returned ++ [])
    rw [List.append_nil]
    dsimp only
    cases nextJobId? allowed now (seen written (.selectNext workerId allowed now) jobs) with
    | none => exact h.move_call rfl
    | some id =>
      exact h.move_free (h.worker t (by rw [hp]; rfl)) rfl rfl fun _ hid => by cases hid
  case readClaimed id =>
    subst hnext
    change Claims _ (Function.update _ _ ((findJob id jobs).elim .idle .runJob)) phase
      (returned ++ ((findJob id jobs).map BackgroundJob.id).toList)
    cases hfind : findJob id jobs with
    | none =>
      rw [Option.map_none, Option.toList_none, List.append_nil]
      exact h.move_call rfl
    | some job =>
      have hid : job.id = id := by simpa using List.find?_some hfind
      have howned : (points t).owned? = some job.id := by rw [hp, hid]; rfl
      have hrun : Claims jobs (Function.update points t (.runJob job)) phase returned :=
        h.move_job job.id rfl howned rfl rfl
      refine hrun.returned_concat ?_ ?_ fun t' hread => ?_
      · exact h.unread t _ (by rw [hp, hid]; rfl)
      · exact h.owned t _ howned
      · -- the job has one owner, who has now read it
        by_cases ht : t' = t
        · subst ht
          rw [Function.update_self] at hread
          cases hread
        · rw [Function.update_of_ne ht] at hread
          exact ht (h.owner t' t job.id (owned_of_unread hread) howned)
  case readUpdated job updates =>
    subst hnext
    change Claims _ _ phase (returned ++ [])
    rw [List.append_nil]
    exact h.move_job job.id rfl (by rw [hp]; rfl) rfl rfl
  case readCompleted job resultPayload now =>
    subst hnext
    change Claims _ _ phase (returned ++ [])
    rw [List.append_nil]
    exact h.move_job job.id rfl (by rw [hp]; rfl) rfl rfl

theorem modify (h : Claims jobs points phase returned)
    {change : List (BackgroundJob ν) → List (BackgroundJob ν)} {next : List (BackgroundJob ν) → Point ν}
    (hnext : statement (points t) = some (.modify change next)) :
    Claims jobs (Function.update points t (next (seen written (points t) jobs))) phase returned := by
  cases hp : points t <;> rw [hp] at hnext <;> simp only [statement, Option.some.injEq, reduceCtorEq,
    Statement.modify.injEq, Option.map_eq_some_iff, exists_const, and_false] at hnext
  case replacePending request =>
    obtain ⟨key, -, -, rfl⟩ := hnext
    dsimp only [EnqueueRequest.afterReplace]
    split_ifs <;> exact h.move_call rfl
  case insertJob request =>
    obtain ⟨-, rfl⟩ := hnext
    exact h.move_call rfl
  case resetStale now =>
    obtain ⟨-, rfl⟩ := hnext
    exact h.move (fun _ hid => by cases hid) (fun _ hid => by cases hid) (fun _ hid => by cases hid)
      (fun _ => h.startUp t (by rw [hp]; rfl)) fun hworker => by cases hworker
  case cancelPending key reason now =>
    obtain ⟨-, rfl⟩ := hnext
    exact h.move_call rfl
  case claimJob workerId now id =>
    obtain ⟨-, rfl⟩ := hnext
    have hphase : phase = .working := h.worker t (by rw [hp]; rfl)
    change Claims jobs (Function.update points t (if IsClaimable id jobs then _ else _)) phase returned
    split_ifs with hclaimable
    · refine h.move_free hphase rfl rfl fun id' hid' => ?_
      obtain rfl : id = id' := Option.some.inj hid'
      exact hclaimable
    · exact h.move_free hphase rfl rfl fun _ hid => by cases hid
  case setPayload job payload =>
    obtain ⟨-, rfl⟩ := hnext
    exact h.move_job job.id rfl (by rw [hp]; rfl) rfl rfl
  case completeJob job payload now =>
    obtain ⟨-, rfl⟩ := hnext
    exact h.move_job job.id rfl (by rw [hp]; rfl) rfl rfl
  case failJob job error now =>
    obtain ⟨-, rfl⟩ := hnext
    exact h.move_job job.id rfl (by rw [hp]; rfl) rfl rfl

omit [DecidableEq κ] in
/-- A pending job has no owner, and no worker has got it. -/
theorem free_of_isClaimable (h : Claims jobs points phase returned) {id : Nat} (hid : IsClaimable id jobs) :
    (∀ t, id ∉ (points t).owned?) ∧ id ∉ returned := by
  obtain ⟨job, hjob, rfl, hstatus⟩ := hid
  constructor
  · intro t howned
    have hrunning := h.running_of_owned howned job hjob rfl
    rw [hstatus] at hrunning
    cases hrunning
  · intro hmem
    obtain ⟨job', hjob', hsame, hone⟩ := h.started _ hmem
    obtain rfl := List.inj_on_of_nodup_map h.ids hjob' hjob hsame
    have hsound := h.sound job' hjob
    rw [BackgroundJob.stage, hstatus, hone] at hsound
    cases hsound

/-- A commit takes the jobs along their transitions, and a worker has then claimed its job. -/
theorem commit (h : Claims jobs points phase returned) {next : Point ν}
    (hnext : statement (points t) = some (.commit next))
    (hexclusive : ∀ t' ≠ t, written (points t) ≠ none → written (points t') = none) :
    Claims (seen written (points t) jobs) (Function.update points t next) (phase.after (points t))
      returned := by
  have hevolves := evolves_seen (points t) fun id hid => h.running_of_owned hid
  have hend : (points t).role ≠ .startUp → ∀ t' ≠ t, ∀ id ∈ (points t').owned?, ¬(points t).MayEnd id := by
    rintro hrole t' ht id hid (hid' | hstartUp)
    · exact ht (h.owner t' t id hid hid')
    · exact hrole hstartUp
  have hothers : written (points t) ≠ none → ∀ t' ≠ t, ∀ id ∈ (points t').claims?,
      IsClaimable id (seen written (points t) jobs) := by
    intro hwritten t' ht id hid
    exact absurd (hexclusive t' ht hwritten) (written_of_claims hid)
  have hphase : ∀ t' ≠ t, ((points t').role = .startUp → phase = .resetting t') ∧
      ((points t').role = .worker → phase = .working) := fun t' _ => ⟨h.startUp t', h.worker t'⟩
  cases hp : points t <;> rw [hp] at hnext hevolves hend hothers <;> simp only [statement,
    Option.some.injEq, reduceCtorEq, Statement.commit.injEq, Option.map_eq_some_iff, exists_const,
    and_false] at hnext
  case commitInsert request id =>
    subst hnext
    exact h.advance_call hevolves (hend (by simp [Point.role])) (hothers (by simp [written])) hphase rfl
  case commitReset now =>
    subst hnext
    -- no worker runs before the reset is over
    have hresetting : phase = .resetting t := h.startUp t (by rw [hp]; rfl)
    have hidle (t' : κ) : (points t').role ≠ .worker := fun hworker => by
      cases (h.worker t' hworker).symm.trans hresetting
    refine h.advance_call hevolves (fun t' _ id hid => absurd (role_of_owned hid) (hidle t'))
      (hothers (by simp [written])) (fun t' ht => ⟨fun hstartUp => ?_, fun _ => rfl⟩) rfl
    exact absurd (Phase.resetting.inj ((h.startUp t' hstartUp).symm.trans hresetting)) ht
  case commitCancel key reason now =>
    subst hnext
    exact h.advance_call hevolves (hend (by simp [Point.role])) (hothers (by simp [written])) hphase rfl
  case commitClaim workerId now id =>
    subst hnext
    have hclaimable := h.claim t id (by rw [hp]; rfl)
    obtain ⟨hfree, hnew⟩ := h.free_of_isClaimable hclaimable
    refine h.advance hevolves (hend (by simp [Point.role])) (hothers (by simp [written])) hphase
      (fun id' hid' => ?_) (fun _ hid => by cases hid) (fun id' hid' => ?_) (fun hrole => by cases hrole)
      fun _ => h.worker t (by rw [hp]; rfl)
    · obtain rfl : id = id' := Option.some.inj hid'
      exact ⟨hasStatus_claimJob hclaimable workerId now, fun t' _ => hfree t'⟩
    · obtain rfl : id = id' := Option.some.inj hid'
      exact hnew
  case commitUpdated job payload =>
    subst hnext
    have howned : job.id ∈ (points t).owned? := by rw [hp]; rfl
    refine h.advance hevolves (hend (by simp [Point.role])) (hothers (by simp [written])) hphase
      (fun id hid => ?_) (fun _ hid => by cases hid) (fun _ hid => by cases hid)
      (fun hrole => by cases hrole) fun _ => h.worker t (role_of_owned howned)
    obtain rfl : job.id = id := Option.some.inj hid
    exact ⟨(evolves_setPayload (fun _ => False) _ _ _).hasStatus_running not_false (h.owned t _ howned),
      fun t' ht hid' => ht (h.owner t' t job.id hid' howned)⟩
  case commitCompleted job payload now =>
    subst hnext
    exact h.advance_call hevolves (hend (by simp [Point.role])) (hothers (by simp [written])) hphase rfl
  case commitFailed job error now =>
    subst hnext
    exact h.advance_call hevolves (hend (by simp [Point.role])) (hothers (by simp [written])) hphase rfl

theorem rollback (h : Claims jobs points phase returned) {next : Point ν}
    (hnext : statement (points t) = some (.rollback next)) :
    Claims jobs (Function.update points t next) phase returned := by
  cases hp : points t <;> rw [hp] at hnext <;> simp only [statement, Option.some.injEq, reduceCtorEq,
    Statement.rollback.injEq, Option.map_eq_some_iff, exists_const, and_false] at hnext
  all_goals
    subst hnext
    exact h.move_call rfl

/-- What happens outside the database leaves the jobs alone. -/
theorem signal (h : Claims jobs points phase returned) {signal : Signal ν} {next : Point ν}
    (hpermits : phase.Permits signal) (hnext : leave (points t) signal = some next) :
    Claims jobs (Function.update points t next) (phase.next t signal) returned := by
  generalize hp : points t = p at hnext
  revert hnext
  fun_cases Jobs.leave p signal <;> intro hnext
  all_goals cases hnext
  case case1 request =>
    refine h.move_call ?_
    unfold EnqueueRequest.first EnqueueRequest.afterReplace
    split_ifs <;> rfl
  case case2 key reason now => exact h.move_call rfl
  case case3 now =>
    -- the start-up comes before the workers
    have hstarting : phase = .starting := hpermits
    subst hstarting
    refine h.advance (Evolves.refl (fun _ => False) _) (fun _ _ _ _ => id) (fun t' _ => h.claim t')
      (fun t' _ => ⟨fun hrole => ?_, fun hrole => ?_⟩) (fun _ hid => by cases hid)
      (fun _ hid => by cases hid) (fun _ hid => by cases hid) (fun _ => rfl) fun hrole => by cases hrole
    · cases h.startUp t' hrole
    · cases h.worker t' hrole
  case case4 workerId allowed now =>
    split_ifs
    · exact h.move_call rfl
    · exact h.move_free hpermits rfl rfl fun _ hid => by cases hid
  case case5 job updates => exact h.move_job job.id rfl (by rw [hp]; rfl) rfl rfl
  case case6 job resultPayload now => exact h.move_job job.id rfl (by rw [hp]; rfl) rfl rfl
  case case7 error now _ =>
    cases hjob : p.job? with
    | none => exact h.move_call rfl
    | some job => exact h.move_job job.id rfl (hp ▸ owned_of_job hjob) rfl rfl
  case case8 => exact h.move_call rfl

omit [DecidableEq κ] in
/-- The end of a process is the end of all its calls. -/
theorem restart (h : Claims jobs points phase returned) :
    Claims jobs (fun _ : κ => .idle) .starting returned :=
  { h with
    owned := fun _ _ hid => by cases hid
    owner := fun _ _ _ hid => by cases hid
    claim := fun _ _ hid => by cases hid
    startUp := fun _ hrole => by cases hrole
    worker := fun _ hrole => by cases hrole
    unread := fun _ _ hid => by cases hid }

/-- A statement keeps what the points say. -/
theorem execute {s s' : Atomic κ (List (BackgroundJob ν)) (Point ν)}
    (h : Claims s.contents s.points phase returned)
    (hexclusive : ∀ t' ≠ t, written (s.points t) ≠ none → written (s.points t') = none)
    (hstep : Atomic.Step queueProgram written s t s') :
    Claims s'.contents s'.points (phase.after (s.points t))
      (returned ++ ((s.points t).returned? (seen written (s.points t) s.contents)).toList) := by
  have hafter (hne : ∀ next, statement (s.points t) ≠ some (.commit next)) :
      phase.after (s.points t) = phase := by
    cases hp : s.points t <;> first | rfl | exact absurd (by rw [hp]; rfl) (hne _)
  have hreturned (hne : ∀ next, statement (s.points t) ≠ some (.select next))
      (jobs : List (BackgroundJob ν)) : returned ++ ((s.points t).returned? jobs).toList = returned := by
    cases hp : s.points t <;> first | exact List.append_nil _ | exact absurd (by rw [hp]; rfl) (hne _)
  cases hstep with
  | select next hnext => exact h.select hnext
  | modify change next hnext _ =>
    rw [hafter (fun _ hcommit => by cases hnext.symm.trans hcommit),
      hreturned (fun _ hselect => by cases hnext.symm.trans hselect)]
    exact h.modify hnext
  | commit next hnext =>
    rw [hreturned (fun _ hselect => by cases hnext.symm.trans hselect)]
    exact h.commit hnext hexclusive
  | rollback next hnext =>
    rw [hafter (fun _ hcommit => by cases hnext.symm.trans hcommit),
      hreturned (fun _ hselect => by cases hnext.symm.trans hselect)]
    exact h.rollback hnext

/-- A statement takes the jobs along their transitions. -/
theorem evolves {s s' : Atomic κ (List (BackgroundJob ν)) (Point ν)}
    (h : Claims s.contents s.points phase returned) (hstep : Atomic.Step queueProgram written s t s') :
    ∃ mayEnd, Evolves mayEnd s.contents s'.contents := by
  cases hstep with
  | commit => exact ⟨_, evolves_seen _ fun id hid => h.running_of_owned hid⟩
  | _ => exact ⟨fun _ => False, .refl _ _⟩

end Claims

/-! ## Runs -/

namespace Process

/-- A process whose sessions have what they say that they have. -/
structure Sound (p : Process κ ν) : Prop where
  isolated : p.config.Isolated written
  claims : Claims p.jobs p.config.points p.phase p.returned

theorem sound_start : (start : Process κ ν).Sound where
  isolated _ := rfl
  claims :=
    { ids := List.nodup_nil
      sound := fun _ hjob => absurd hjob List.not_mem_nil
      owned := fun _ _ hid => by cases hid
      owner := fun _ _ _ hid => by cases hid
      claim := fun _ _ hid => by cases hid
      startUp := fun _ hrole => by cases hrole
      worker := fun _ hrole => by cases hrole
      nodup := List.nodup_nil
      started := fun _ hid => absurd hid List.not_mem_nil
      unread := fun _ _ hid => by cases hid }

variable {p p' : Process κ ν}

/-- Every event keeps the process sound, and takes the jobs along their transitions. -/
theorem sound_step (h : p.Sound) {event : Event κ ν} (hstep : p.step event = some p') :
    p'.Sound ∧ ∃ mayEnd, Evolves mayEnd p.jobs p'.jobs := by
  cases event with
  | execute t =>
    obtain ⟨config, hexecute, rfl⟩ := Option.map_eq_some_iff.mp hstep
    obtain ⟨hisolated, hatomic⟩ := Config.isolated_execute accounts h.isolated hexecute
    have hclaims := h.claims.execute (fun t' ht hwritten => by_contra fun hwritten' =>
      ht (h.isolated.eq_of_written hwritten' hwritten)) hatomic
    have hview := h.isolated.view (t := t)
    refine ⟨⟨hisolated, ?_⟩, h.claims.evolves hatomic⟩
    dsimp only
    rw [hview]
    exact hclaims
  | signal t signal =>
    rw [step] at hstep
    split_ifs at hstep with hpermits
    obtain ⟨config, hleave, rfl⟩ := Option.map_eq_some_iff.mp hstep
    obtain ⟨hisolated, next, hnext, hatomic⟩ := Config.isolated_leave accounts h.isolated hleave
    have hjobs : config.database.committed = p.jobs := congrArg Atomic.contents hatomic
    have hpoints : config.points = Function.update p.config.points t next :=
      congrArg Atomic.points hatomic
    have hclaims := h.claims.signal hpermits hnext
    rw [← hjobs, ← hpoints] at hclaims
    refine ⟨⟨hisolated, hclaims⟩, fun _ => False, ?_⟩
    change Evolves _ p.jobs config.database.committed
    rw [hjobs]
    exact Evolves.refl _ _
  | restart =>
    obtain rfl := Option.some.inj hstep
    exact ⟨⟨Config.isolated_restart rfl, h.claims.restart⟩, fun _ => False, Evolves.refl _ _⟩

/-- Every job of a process that has ended is in another one, with its status. -/
def KeepsEnded (p p' : Process κ ν) : Prop :=
  ∀ id job, findJob id p.jobs = some job → job.status.IsFinal →
    ∃ job', findJob id p'.jobs = some job' ∧ job'.status = job.status

/-- A run keeps the process sound, and the status of every job that has ended. -/
theorem sound_run (h : p.Sound) {events : List (Event κ ν)} (hrun : p.run events = some p') :
    p'.Sound ∧ p.KeepsEnded p' := by
  refine Runs.invariant (I := fun q => q.Sound ∧ p.KeepsEnded q) (fun q q' event hq hstep => ?_) hrun
    ⟨h, fun id job hjob _ => ⟨job, hjob, rfl⟩⟩
  obtain ⟨hsound, hkeeps⟩ := hq
  obtain ⟨hsound', mayEnd, hevolves⟩ := sound_step hsound hstep
  refine ⟨hsound', fun id job hjob hfinal => ?_⟩
  obtain ⟨middle, hmiddle, hstatus⟩ := hkeeps id job hjob hfinal
  obtain ⟨job', hjob', hstatus'⟩ :=
    hevolves.findJob_of_isFinal hsound.claims.ids hmiddle (hstatus ▸ hfinal)
  exact ⟨job', hjob', hstatus'.trans hstatus⟩

/-- No job that a worker has got is cancelled, and none is attempted twice. -/
theorem Sound.attempts (h : p.Sound) {job : BackgroundJob ν} (hjob : job ∈ p.jobs) :
    job.attempts ≤ 1 ∧ (job.status = .canceled → job.id ∉ p.returned) := by
  have hsound := h.claims.sound job hjob
  constructor
  · rw [BackgroundJob.stage] at hsound
    cases hstatus : job.status <;> rw [hstatus] at hsound <;> exact (le_of_eq hsound).trans (by decide)
  · intro hstatus hmem
    obtain ⟨job', hjob', hsame, hone⟩ := h.claims.started job.id hmem
    obtain rfl := List.inj_on_of_nodup_map h.claims.ids hjob' hjob hsame
    rw [BackgroundJob.stage, hstatus, hone] at hsound
    cases hsound

/-- Jobs run once and end for good, in every run of any number of workers and other calls:
a job is claimed once at most and attempted once at most, a cancelled job is not run, and a
job that has ended keeps its status. -/
theorem jobs_run_once {before after : List (Event κ ν)} (hbefore : start.run before = some p)
    (hafter : p.run after = some p') :
    p'.returned.Nodup ∧ (∀ job ∈ p'.jobs, job.attempts ≤ 1) ∧
      (∀ job ∈ p'.jobs, job.status = .canceled → job.id ∉ p'.returned) ∧
      p.KeepsEnded p' := by
  obtain ⟨hsound, -⟩ := sound_run sound_start hbefore
  obtain ⟨hsound', hfinal⟩ := sound_run hsound hafter
  exact ⟨hsound'.claims.nodup, fun job hjob => (hsound'.attempts hjob).1,
    fun job hjob => (hsound'.attempts hjob).2, hfinal⟩

/-- Two workers after one job. -/
def twoWorkers : List (Event Bool Unit) :=
  [.signal true (.resetStale 0), .execute true, .execute true,
    .signal true (.enqueue { jobType := .taskRun, payload := ∅, runAt := 1 }),
    .execute true, .execute true, .execute true,
    .signal true (.claimNext "default" none 2), .signal false (.claimNext "file-ops" none 2),
    .execute true, .execute false, .execute true, .execute true, .execute true, .execute false,
    .execute false]

theorem jobs_run_once_twoWorkers :
    ∃ p : Process Bool Unit, start.run twoWorkers = some p ∧ p.returned = [1] ∧ p.returned.Nodup := by
  have hrun : ((start.run twoWorkers).map Process.returned) = some [1] := by decide +kernel
  obtain ⟨p, hp, hreturned⟩ := Option.map_eq_some_iff.mp hrun
  exact ⟨p, hp, hreturned, (jobs_run_once hp (show p.run [] = some p from rfl)).1⟩

end Process

end MediaMasterr.Jobs
