import MediaMasterr.Foundations.Runs
import Mathlib.Data.Finset.Basic

/-! # The running tasks

The blocks that `track_task_execution` guards, with every await of theirs an event of its
own. The set of running tasks is exact as long as no two blocks of a task overlap when
one of them leaves, and as long as the bookkeeping does not fail. -/

namespace MediaMasterr.Jobs.TaskTracking

open MediaMasterr.Foundations

inductive Task
  | syncMedia | resyncMedia | syncMediaLibraries | syncLinkedData | scanCleanupCandidates
  | tagCleanupCandidates | deleteCleanupCandidates | weeklyHouseKeeping | checkAppUpdates
  | imdbRatingsRefresh | anilistRatingsRefresh | mdblistRatingsRefresh | omdbRatingsRefresh
  | refreshPlaybackHistory
  deriving DecidableEq

inductive TaskStatus
  | scheduled | queued | completed | error | running | disabled
  deriving DecidableEq

/-- A row of the history, its times in microseconds. -/
structure TaskRun where
  taskScheduleId : Option Nat
  task : Task
  status : TaskStatus
  startedAt : Int
  completedAt : Int
  errorMessage : Option String
  deriving DecidableEq

/-- An entry of `_recent_completions`. -/
structure Completion where
  status : TaskStatus
  completedTime : Int
  error : Option String

inductive BodyEnd
  | returned
  | raised (error : String)
  /-- By an exception that `except Exception` lets pass, as a cancellation. -/
  | interrupted
  deriving DecidableEq

/-- The await at which a block stands. -/
inductive Phase
  | lookup
  | body (scheduleId : Option Nat)
  /-- The session that adds a row; `committed` once the row is in the table. -/
  | writing (row : TaskRun) (committed : Bool)
  | notifying
  | left
  deriving DecidableEq

/-- A block; `bodyEnd` remembers how its body ended. -/
structure Block where
  task : Task
  startTime : Int
  phase : Phase := .lookup
  bodyEnd : Option BodyEnd := none
  deriving DecidableEq

/-- What the await of a block comes back with. -/
inductive Move
  | scheduled (scheduleId : Option Nat)
  | scheduleFails
  | bodyEnds (bodyEnd : BodyEnd) (now : Int)
  | commits
  | written
  | writeFails (error : String) (now : Int)
  | interrupted
  | notified

/-- What a move does outside its block. -/
structure Effect where
  recent : Option Completion := none
  row : Option TaskRun := none
  discards : Bool := false

namespace Block

def Inside (b : Block) : Prop := b.phase ≠ .left

instance (b : Block) : Decidable b.Inside := inferInstanceAs (Decidable (_ ≠ _))

/-- The status that fits the end of the body. -/
def status? (b : Block) : Option TaskStatus :=
  match b.bodyEnd with
  | some .returned => some .completed
  | some (.raised _) => some .error
  | _ => none

/-- `finally` -/
def leaves (b : Block) : Block × Effect := ({ b with phase := .left }, { discards := true })

def taskRun (b : Block) (scheduleId : Option Nat) (status : TaskStatus) (now : Int)
    (error : Option String) : TaskRun :=
  ⟨scheduleId, b.task, status, b.startTime, now, error⟩

/-- `except Exception`, up to the commit of its row. -/
def fails (b : Block) (scheduleId : Option Nat) (error : String) (now : Int) : Block × Effect :=
  ({ b with phase := .writing (b.taskRun scheduleId .error now (some error)) false },
    { recent := some ⟨.error, now, some error⟩ })

def advance (b : Block) (move : Move) : Option (Block × Effect) :=
  match b.phase, move with
  | .lookup, .scheduled scheduleId => some ({ b with phase := .body scheduleId }, {})
  -- The lookup stands before `try`.
  | .lookup, .scheduleFails => some ({ b with phase := .left }, {})
  | .body scheduleId, .bodyEnds .returned now =>
    some ({ b with
        phase := .writing (b.taskRun scheduleId .completed now none) false
        bodyEnd := some .returned },
      { recent := some ⟨.completed, now, none⟩ })
  | .body scheduleId, .bodyEnds (.raised error) now =>
    some ({ b with bodyEnd := some (.raised error) }.fails scheduleId error now)
  | .body _, .bodyEnds .interrupted _ => some { b with bodyEnd := some .interrupted }.leaves
  | .writing row false, .commits =>
    some ({ b with phase := .writing row true }, { row := some row })
  | .writing row true, .written =>
    if row.status = .completed then some b.leaves else some ({ b with phase := .notifying }, {})
  -- The write of a completion is inside `try`, that of an error is not.
  | .writing row _, .writeFails error now =>
    if row.status = .completed then some (b.fails row.taskScheduleId error now)
    else some b.leaves
  | .writing _ _, .interrupted => some b.leaves
  -- An exception of the notification is logged only.
  | .notifying, .notified => some b.leaves
  | _, _ => none

end Block

/-- The memory of the process and the history, with the blocks entered so far; a row of
the history stands beside the number of the block that added it. -/
structure Tracker where
  runningTasks : Finset Task := ∅
  recentCompletions : Task → Option Completion := fun _ => none
  taskRuns : List (Nat × TaskRun) := []
  blocks : List Block := []

inductive Event
  | enter (task : Task) (now : Int)
  | move (block : Nat) (move : Move)
  | status (task : Task) (now : Int)

def completionTtlMinutes : Int := 3

namespace Tracker

def isTaskRunning (s : Tracker) (task : Task) : Prop := task ∈ s.runningTasks

instance (s : Tracker) (task : Task) : Decidable (s.isTaskRunning task) :=
  inferInstanceAs (Decidable (task ∈ s.runningTasks))

def getTaskStatus (s : Tracker) (task : Task) (now : Int) :
    (TaskStatus × Option String) × Tracker :=
  if s.isTaskRunning task then ((.running, none), s)
  else match s.recentCompletions task with
    | some recent =>
      if now - recent.completedTime < completionTtlMinutes * 60 * 1000000 then
        ((recent.status, recent.error), s)
      else ((.scheduled, none),
        { s with recentCompletions := Function.update s.recentCompletions task none })
    | none => ((.scheduled, none), s)

def apply (s : Tracker) (i : Nat) (b : Block) (effect : Effect) : Tracker where
  runningTasks := if effect.discards then s.runningTasks.erase b.task else s.runningTasks
  recentCompletions := match effect.recent with
    | some recent => Function.update s.recentCompletions b.task (some recent)
    | none => s.recentCompletions
  taskRuns := s.taskRuns ++ (effect.row.map fun row => (i, row)).toList
  blocks := s.blocks.set i b

def step (s : Tracker) : Event → Option Tracker
  | .enter task now => some { s with
      runningTasks := insert task s.runningTasks
      blocks := s.blocks ++ [{ task, startTime := now }] }
  | .move i move => do
    let b ← s.blocks[i]?
    let (b', effect) ← b.advance move
    some (s.apply i b' effect)
  | .status task now => some (s.getTaskStatus task now).2

/-- The rows that a block has left. -/
def rowsOf (s : Tracker) (i : Nat) : List TaskRun :=
  s.taskRuns.filterMap fun (j, row) => if j = i then some row else none

/-- A block of the task has been entered and not left. -/
def SomeInside (s : Tracker) (task : Task) : Prop :=
  ∃ i : Nat, ∃ b : Block, s.blocks[i]? = some b ∧ b.task = task ∧ b.Inside

/-- The same of a block other than `i`. -/
def OtherInside (s : Tracker) (i : Nat) (task : Task) : Prop :=
  ∃ j : Nat, ∃ b : Block, j ≠ i ∧ s.blocks[j]? = some b ∧ b.task = task ∧ b.Inside

/-- The running tasks are those of the blocks inside, and a block whose body has come to
its end or has raised leaves one row at most, of the status that fits. -/
structure Exact (s : Tracker) : Prop where
  running : ∀ task, s.isTaskRunning task ↔ s.SomeInside task
  rows : ∀ i b, s.blocks[i]? = some b → ∀ status ∈ b.status?,
    (s.rowsOf i).length ≤ 1 ∧ ∀ row ∈ s.rowsOf i, row.status = status

end Tracker

/-- The move takes its block through `finally`. -/
def Phase.reachesFinally : Phase → Move → Prop
  | .body _, .bodyEnds .interrupted _ => True
  | .writing row _, .written => row.status = .completed
  | .writing row _, .writeFails _ _ => row.status ≠ .completed
  | .writing _ _, .interrupted => True
  | .notifying, .notified => True
  | _, _ => False

/-- What the tracking bears: no block passes `finally` while another one of its task is
inside, no schedule lookup fails in the only block of a task, and no row is committed of
an error in the bookkeeping of a body that came to its end. -/
def Tracker.Bears (s : Tracker) : Event → Prop
  | .move i move => ∀ b, s.blocks[i]? = some b →
    (b.phase.reachesFinally move → ¬s.OtherInside i b.task) ∧
      (b.phase = .lookup → move = .scheduleFails → s.OtherInside i b.task) ∧
      ∀ row, b.phase = .writing row false → move = .commits → b.status? = some row.status
  | _ => True

/-- What the phase says of the end of the body and of the rows left so far. -/
def Block.Sound (b : Block) (rows : List TaskRun) : Prop :=
  match b.phase with
  | .lookup | .body _ => b.status? = none ∧ rows = []
  | .writing row committed => b.status?.isSome ∧
      (row.status = .completed → b.status? = some .completed) ∧
      (committed = false → b.status? = some row.status → rows = [])
  | _ => True

/-- All that a move of a block can do. -/
structure Block.Advanced (b : Block) (move : Move) (b' : Block) (effect : Effect) : Prop where
  task : b'.task = b.task
  inside : b.Inside
  discards : effect.discards = true ↔ b.phase.reachesFinally move
  remains : b'.Inside ↔ ¬b.phase.reachesFinally move ∧ ¬(b.phase = .lookup ∧ move = .scheduleFails)
  row : ∀ row, effect.row = some row ↔ b.phase = .writing row false ∧ move = .commits
  status : b'.status? = b.status? ∨ ∃ scheduleId, b.phase = .body scheduleId
  sound : ∀ rows, b.Sound rows → b'.Sound (rows ++ effect.row.toList)
  recent : ∀ recent ∈ effect.recent, recent.status ≠ .running

namespace Block

variable {b b' c : Block} {move : Move} {effect : Effect}

@[simp] theorem status?_phase (b : Block) (phase : Phase) :
    { b with phase }.status? = b.status? := rfl

theorem advanced_leaves (htask : c.task = b.task) (hfinally : b.phase.reachesFinally move)
    (hinside : b.Inside) (hrow : move ≠ .commits)
    (hstatus : c.status? = b.status? ∨ ∃ scheduleId, b.phase = .body scheduleId)
    (h : c.leaves = (b', effect)) : b.Advanced move b' effect := by
  obtain ⟨rfl, rfl⟩ := Prod.mk.inj h
  exact {
    task := htask
    inside := hinside
    discards := by simp [hfinally]
    remains := by simp [hfinally, Inside]
    row := fun row => ⟨fun h => by simp at h, fun h => absurd h.2 hrow⟩
    status := hstatus
    sound := fun _ _ => trivial
    recent := by simp }

/-- A move to a phase inside that adds no row. -/
theorem advanced_inside {recent : Option Completion} (htask : b'.task = b.task)
    (hinside : b.Inside) (hinside' : b'.Inside) (hfinally : ¬b.phase.reachesFinally move)
    (hlookup : move ≠ .scheduleFails) (hrow : move ≠ .commits)
    (hstatus : b'.status? = b.status? ∨ ∃ scheduleId, b.phase = .body scheduleId)
    (hsound : ∀ rows, b.Sound rows → b'.Sound rows)
    (hrecent : ∀ completion ∈ recent, completion.status ≠ .running) :
    b.Advanced move b' { recent } where
  task := htask
  inside := hinside
  discards := by simp [hfinally]
  remains := by simp [hinside', hfinally, hlookup]
  row row := ⟨fun h => by simp at h, fun h => absurd h.2 hrow⟩
  status := hstatus
  sound rows h := by simpa using hsound rows h
  recent := hrecent

theorem advanced_fails {scheduleId : Option Nat} {error : String} {now : Int}
    (htask : c.task = b.task) (hinside : b.Inside) (hfinally : ¬b.phase.reachesFinally move)
    (hlookup : move ≠ .scheduleFails) (hrow : move ≠ .commits)
    (hstatus : c.status? = b.status? ∨ ∃ scheduleId, b.phase = .body scheduleId)
    (hsound : ∀ rows, b.Sound rows → c.status?.isSome ∧ (c.status? = some .error → rows = []))
    (h : c.fails scheduleId error now = (b', effect)) : b.Advanced move b' effect := by
  obtain ⟨rfl, rfl⟩ := Prod.mk.inj h
  apply advanced_inside
  case hsound =>
    intro rows hrows
    obtain ⟨hsome, hnil⟩ := hsound rows hrows
    exact ⟨hsome, by simp [taskRun], fun _ => hnil⟩
  all_goals first | assumption | simp [Inside]

theorem advanced (h : b.advance move = some (b', effect)) : b.Advanced move b' effect := by
  unfold advance at h
  split at h
  case h_1 hphase =>
    obtain ⟨rfl, rfl⟩ := Prod.mk.inj (Option.some.inj h)
    apply advanced_inside <;> simp [Inside, Sound, hphase, Phase.reachesFinally]
  case h_2 hphase =>
    obtain ⟨rfl, rfl⟩ := Prod.mk.inj (Option.some.inj h)
    constructor <;> simp [Inside, Sound, hphase, Phase.reachesFinally, status?]
  case h_3 hphase =>
    obtain ⟨rfl, rfl⟩ := Prod.mk.inj (Option.some.inj h)
    apply advanced_inside <;> simp [Inside, Sound, hphase, Phase.reachesFinally, status?, taskRun]
  case h_4 hphase =>
    apply advanced_fails _ _ _ _ _ _ _ (Option.some.inj h) <;>
      simp [Inside, Sound, hphase, Phase.reachesFinally, status?]
  case h_5 hphase =>
    apply advanced_leaves _ _ _ _ _ (Option.some.inj h) <;>
      simp [Inside, hphase, Phase.reachesFinally]
  case h_6 hphase =>
    obtain ⟨rfl, rfl⟩ := Prod.mk.inj (Option.some.inj h)
    constructor
    case sound =>
      intro rows hrows
      simp only [Sound, hphase] at hrows
      exact ⟨hrows.1, hrows.2.1, by simp⟩
    all_goals simp [Inside, hphase, Phase.reachesFinally]
  case h_7 hphase =>
    split at h
    · apply advanced_leaves _ _ _ _ _ (Option.some.inj h) <;>
        simp [Inside, Phase.reachesFinally, *]
    · obtain ⟨rfl, rfl⟩ := Prod.mk.inj (Option.some.inj h)
      apply advanced_inside <;> simp [Inside, Sound, Phase.reachesFinally, *]
  case h_8 hphase =>
    split at h
    case isTrue hstatus =>
      have hsound : ∀ rows, b.Sound rows →
          b.status?.isSome ∧ (b.status? = some .error → rows = []) := by
        intro rows hrows
        simp only [Sound, hphase] at hrows
        simp [hrows.2.1 hstatus]
      apply advanced_fails rfl _ _ _ _ (.inl rfl) hsound (Option.some.inj h) <;>
        simp [Inside, Phase.reachesFinally, *]
    case isFalse hstatus =>
      apply advanced_leaves _ _ _ _ _ (Option.some.inj h) <;>
        simp [Inside, Phase.reachesFinally, *]
  case h_9 hphase =>
    apply advanced_leaves _ _ _ _ _ (Option.some.inj h) <;>
      simp [Inside, hphase, Phase.reachesFinally]
  case h_10 hphase =>
    apply advanced_leaves _ _ _ _ _ (Option.some.inj h) <;>
      simp [Inside, hphase, Phase.reachesFinally]
  case h_11 => cases h

end Block

namespace Tracker

variable {s s' : Tracker} {i j : Nat} {b b' : Block} {move : Move} {effect : Effect}
  {task : Task} {event : Event}

theorem rowsOf_apply : (s.apply i b effect).rowsOf j =
    s.rowsOf j ++ if i = j then effect.row.toList else [] := by
  rw [rowsOf, apply, List.filterMap_append, ← rowsOf]
  cases effect.row <;> split <;> simp [*]

theorem getElem?_apply_self (hb : s.blocks[i]? = some b) :
    (s.apply i b' effect).blocks[i]? = some b' := by
  obtain ⟨hi, -⟩ := List.getElem?_eq_some_iff.mp hb
  exact List.getElem?_set_self hi

theorem getElem?_apply_of_ne (h : i ≠ j) : (s.apply i b effect).blocks[j]? = s.blocks[j]? :=
  List.getElem?_set_ne h

theorem otherInside_apply :
    (s.apply i b effect).OtherInside i task ↔ s.OtherInside i task := by
  refine exists_congr fun j => exists_congr fun b => and_congr_right fun hj => ?_
  rw [getElem?_apply_of_ne hj.symm]

theorem someInside_iff (hb : s.blocks[i]? = some b) :
    s.SomeInside task ↔ s.OtherInside i task ∨ b.task = task ∧ b.Inside := by
  constructor
  · rintro ⟨j, c, hc, htask⟩
    by_cases hj : j = i
    · subst hj
      obtain rfl := Option.some.inj (hb.symm.trans hc)
      exact .inr htask
    · exact .inl ⟨j, c, hj, hc, htask⟩
  · rintro (⟨j, c, -, hc, htask⟩ | htask)
    · exact ⟨j, c, hc, htask⟩
    · exact ⟨i, b, hb, htask⟩

/-- What holds in every run. -/
structure Consistent (s : Tracker) : Prop where
  numbered : ∀ p ∈ s.taskRuns, p.1 < s.blocks.length
  sound : ∀ i (b : Block), s.blocks[i]? = some b → b.Sound (s.rowsOf i)
  recent : ∀ task recent, s.recentCompletions task = some recent → recent.status ≠ .running

theorem consistent_start : Consistent {} where
  numbered := by simp
  sound := by simp
  recent := by simp

theorem Consistent.rowsOf_eq_nil (hs : s.Consistent) : s.rowsOf s.blocks.length = [] := by
  rw [rowsOf, List.filterMap_eq_nil_iff]
  intro p hp
  exact if_neg (hs.numbered p hp).ne

theorem step_move (h : s.step (.move i move) = some s') :
    ∃ b b' effect, s.blocks[i]? = some b ∧ b.Advanced move b' effect ∧
      s' = s.apply i b' effect := by
  obtain ⟨b, hb, h⟩ := Option.bind_eq_some_iff.mp h
  obtain ⟨⟨b', effect⟩, hadvance, h⟩ := Option.bind_eq_some_iff.mp h
  exact ⟨b, b', effect, hb, Block.advanced hadvance, (Option.some.inj h).symm⟩

theorem Consistent.advanced (hs : s.Consistent) (hb : s.blocks[i]? = some b)
    (hadvanced : b.Advanced move b' effect) : (s.apply i b' effect).Consistent where
  numbered p hp := by
    obtain ⟨hi, -⟩ := List.getElem?_eq_some_iff.mp hb
    rw [apply, List.length_set]
    rcases List.mem_append.mp hp with hp | hp
    · exact hs.numbered p hp
    · obtain ⟨row, -, rfl⟩ := Option.map_eq_some_iff.mp (Option.mem_toList.mp hp)
      exact hi
  sound j c hc := by
    by_cases hj : i = j
    · subst hj
      obtain rfl := Option.some.inj ((getElem?_apply_self hb).symm.trans hc)
      rw [rowsOf_apply, if_pos rfl]
      exact hadvanced.sound _ (hs.sound i b hb)
    · rw [getElem?_apply_of_ne hj] at hc
      rw [rowsOf_apply, if_neg hj, List.append_nil]
      exact hs.sound j c hc
  recent task recent h := by
    have hrecent := hadvanced.recent
    rw [apply] at h
    cases heffect : effect.recent with
    | none =>
      rw [heffect] at h
      exact hs.recent task recent h
    | some completion =>
      rw [heffect] at h hrecent
      dsimp only at h
      by_cases htask : task = b'.task
      · subst htask
        rw [Function.update_self] at h
        exact hrecent recent h
      · rw [Function.update_of_ne htask] at h
        exact hs.recent task recent h

theorem getElem?_enter {blocks : List Block} {c : Block} :
    (blocks ++ [b])[i]? = some c ↔ blocks[i]? = some c ∨ i = blocks.length ∧ b = c := by
  rcases Nat.lt_trichotomy i blocks.length with hi | rfl | hi
  · simp [List.getElem?_append_left hi, hi.ne]
  · simp
  · have := List.getElem?_eq_none_iff.mpr hi.le
    simp [List.getElem?_append_right hi.le, this, hi.ne', Nat.sub_ne_zero_of_lt hi]

theorem Consistent.enter {now : Int} (hs : s.Consistent)
    (h : s.step (.enter task now) = some s') : s'.Consistent := by
  obtain rfl := Option.some.inj h
  refine ⟨fun p hp => ?_, fun i b hb => ?_, hs.recent⟩
  · rw [List.length_append]
    exact Nat.lt_add_right _ (hs.numbered p hp)
  · rcases getElem?_enter.mp hb with hb | ⟨rfl, rfl⟩
    · exact hs.sound i b hb
    · exact ⟨rfl, hs.rowsOf_eq_nil⟩

theorem getTaskStatus_frame (s : Tracker) (task : Task) (now : Int) :
    (s.getTaskStatus task now).2.runningTasks = s.runningTasks ∧
      (s.getTaskStatus task now).2.taskRuns = s.taskRuns ∧
      (s.getTaskStatus task now).2.blocks = s.blocks := by
  rw [getTaskStatus]
  split
  · exact ⟨rfl, rfl, rfl⟩
  · split
    · split <;> exact ⟨rfl, rfl, rfl⟩
    · exact ⟨rfl, rfl, rfl⟩

theorem Consistent.getTaskStatus {now : Int} (hs : s.Consistent) :
    (s.getTaskStatus task now).2.Consistent := by
  obtain ⟨-, hruns, hblocks⟩ := getTaskStatus_frame s task now
  refine ⟨by rw [hruns, hblocks]; exact hs.numbered, fun i b hb => ?_, fun task' recent h => ?_⟩
  · rw [hblocks] at hb
    rw [rowsOf, hruns]
    exact hs.sound i b hb
  · apply hs.recent task' recent
    rw [Tracker.getTaskStatus] at h
    split at h
    · exact h
    · split at h
      · split at h
        · exact h
        · dsimp only at h
          by_cases htask : task' = task
          · rw [htask, Function.update_self] at h
            cases h
          · rwa [Function.update_of_ne htask] at h
      · exact h

theorem Consistent.step (hs : s.Consistent) (h : s.step event = some s') : s'.Consistent := by
  cases event with
  | enter task now => exact hs.enter h
  | move i move =>
    obtain ⟨b, b', effect, hb, hadvanced, rfl⟩ := step_move h
    exact hs.advanced hb hadvanced
  | status task now =>
    obtain rfl := Option.some.inj h
    exact hs.getTaskStatus

theorem exact_start : Exact {} where
  running task := by simp [isTaskRunning, SomeInside]
  rows := by simp

theorem Exact.enter {now : Int} (hs : s.Exact) (h : s.step (.enter task now) = some s') :
    s'.Exact := by
  obtain rfl := Option.some.inj h
  constructor
  · intro task'
    rw [isTaskRunning, Finset.mem_insert]
    constructor
    · rintro (rfl | hrunning)
      · exact ⟨s.blocks.length, _, getElem?_enter.mpr (.inr ⟨rfl, rfl⟩), rfl,
          by simp [Block.Inside]⟩
      · obtain ⟨i, b, hb, hinside⟩ := (hs.running task').mp hrunning
        exact ⟨i, b, getElem?_enter.mpr (.inl hb), hinside⟩
    · rintro ⟨i, b, hb, htask, hinside⟩
      rcases getElem?_enter.mp hb with hb | ⟨-, rfl⟩
      · exact .inr ((hs.running task').mpr ⟨i, b, hb, htask, hinside⟩)
      · exact .inl htask.symm
  · intro i b hb status hstatus
    rcases getElem?_enter.mp hb with hb | ⟨-, rfl⟩
    · exact hs.rows i b hb status hstatus
    · cases hstatus

theorem isTaskRunning_apply (hs : s.Exact) (hadvanced : b.Advanced move b' effect) :
    (s.apply i b' effect).isTaskRunning task ↔
      s.SomeInside task ∧ ¬(b.task = task ∧ b.phase.reachesFinally move) := by
  rw [← hs.running, isTaskRunning, apply, ← hadvanced.discards, hadvanced.task]
  split
  case isTrue hdiscards => simp [hdiscards, isTaskRunning, and_comm, eq_comm]
  case isFalse hdiscards => simp [hdiscards, isTaskRunning]

/-- The set is exact after a move if and only if the move is harmless. -/
theorem running_apply_iff (hs : s.Exact) (hb : s.blocks[i]? = some b)
    (hadvanced : b.Advanced move b' effect) :
    (∀ task, (s.apply i b' effect).isTaskRunning task ↔ (s.apply i b' effect).SomeInside task) ↔
      (b.phase.reachesFinally move → ¬s.OtherInside i b.task) ∧
        (b.phase = .lookup → move = .scheduleFails → s.OtherInside i b.task) := by
  have hiff : ∀ task, ((s.apply i b' effect).isTaskRunning task ↔
      (s.apply i b' effect).SomeInside task) ↔
      (b.task = task → (b.phase.reachesFinally move → ¬s.OtherInside i task) ∧
        (b.phase = .lookup → move = .scheduleFails → s.OtherInside i task)) := by
    intro task
    have hlookup : b.phase = .lookup → ¬b.phase.reachesFinally move := by
      rintro hphase
      simp [hphase, Phase.reachesFinally]
    rw [isTaskRunning_apply hs hadvanced, someInside_iff hb,
      someInside_iff (getElem?_apply_self hb), otherInside_apply, hadvanced.remains,
      hadvanced.task]
    have := hadvanced.inside
    grind
  simp only [hiff, forall_eq']

/-- The rows fit after a move if and only if the row that it commits does. -/
theorem rows_apply_iff (hs : s.Exact) (hconsistent : s.Consistent) (hb : s.blocks[i]? = some b)
    (hadvanced : b.Advanced move b' effect) :
    (∀ j (c : Block), (s.apply i b' effect).blocks[j]? = some c → ∀ status ∈ c.status?,
      ((s.apply i b' effect).rowsOf j).length ≤ 1 ∧
        ∀ row ∈ (s.apply i b' effect).rowsOf j, row.status = status) ↔
      ∀ row, b.phase = .writing row false → move = .commits → b.status? = some row.status := by
  have hsound := hconsistent.sound i b hb
  constructor
  · intro hrows row hphase hmove
    have hrow := (hadvanced.row row).mpr ⟨hphase, hmove⟩
    have hsame : b'.status? = b.status? := hadvanced.status.resolve_right (by simp [hphase])
    rw [Block.Sound, hphase] at hsound
    obtain ⟨status, hstatus⟩ := Option.isSome_iff_exists.mp hsound.1
    have hlast := (hrows i b' (getElem?_apply_self hb) status (hsame.trans hstatus)).2 row
    rw [hstatus, hlast (by simp [rowsOf_apply, hrow])]
  · intro hcommits j c hc status hstatus
    rw [rowsOf_apply]
    by_cases hj : i = j
    · subst hj
      obtain rfl := Option.some.inj ((getElem?_apply_self hb).symm.trans hc)
      rw [if_pos rfl]
      cases hrow : effect.row with
      | none =>
        rw [Option.toList_none, List.append_nil]
        rcases hadvanced.status with hsame | ⟨scheduleId, hphase⟩
        · exact hs.rows i b hb status (hsame.symm.trans hstatus)
        · rw [Block.Sound, hphase] at hsound
          simp [hsound.2]
      | some row =>
        obtain ⟨hphase, hmove⟩ := (hadvanced.row row).mp hrow
        have hsame : b'.status? = b.status? := hadvanced.status.resolve_right (by simp [hphase])
        have hfits := hcommits row hphase hmove
        rw [Block.Sound, hphase] at hsound
        rw [hsound.2.2 rfl hfits]
        have : row.status = status := Option.some.inj (hfits.symm.trans (hsame.symm.trans hstatus))
        simpa
    · rw [getElem?_apply_of_ne hj] at hc
      rw [if_neg hj, List.append_nil]
      exact hs.rows j c hc status hstatus

theorem Consistent.exact_iff (hconsistent : s.Consistent) (hs : s.Exact)
    (h : s.step event = some s') : s'.Exact ↔ s.Bears event := by
  cases event with
  | enter task now => exact iff_of_true (hs.enter h) trivial
  | move i move =>
    obtain ⟨b, b', effect, hb, hadvanced, rfl⟩ := step_move h
    have hrunning := running_apply_iff hs hb hadvanced
    have hrows := rows_apply_iff hs hconsistent hb hadvanced
    constructor
    · rintro ⟨h₁, h₂⟩ c hc
      obtain rfl := Option.some.inj (hb.symm.trans hc)
      obtain ⟨hfinally, hlookup⟩ := hrunning.mp h₁
      exact ⟨hfinally, hlookup, hrows.mp h₂⟩
    · intro hbears
      obtain ⟨hfinally, hlookup, hcommits⟩ := hbears b hb
      exact ⟨hrunning.mpr ⟨hfinally, hlookup⟩, hrows.mpr hcommits⟩
  | status task now =>
    obtain rfl := Option.some.inj h
    obtain ⟨hrunning, hruns, hblocks⟩ := getTaskStatus_frame s task now
    refine iff_of_true ⟨fun task' => ?_, fun i b hb => ?_⟩ trivial
    · rw [isTaskRunning, hrunning, SomeInside, hblocks]
      exact hs.running task'
    · rw [hblocks] at hb
      rw [rowsOf, hruns]
      exact hs.rows i b hb

end Tracker

open Tracker

/-- The tracking is exact all along a run if and only if it bears each event. -/
theorem exact_iff_bears (events : List Event) (s' : Tracker)
    (hrun : Runs.run step {} events = some s') :
    (∀ k s, Runs.run step {} (events.take k) = some s → s.Exact) ↔
      Runs.Meets step Bears {} events :=
  (Runs.meets_iff_forall_take (fun _ _ _ hs h => Consistent.step hs h)
    (fun _ _ _ hconsistent hs h => hconsistent.exact_iff hs h) hrun consistent_start
    exact_start).symm

/-- A block leaves, though its row could not be written, while another task runs. -/
def twoTasks : List Event :=
  [.enter .checkAppUpdates 0, .enter .syncMedia 1, .move 1 (.scheduled none),
    .move 1 (.bodyEnds (.raised "timeout") 2), .move 1 (.writeFails "locked" 3)]

theorem exact_twoTasks : (Runs.run step {} twoTasks).isSome ∧
    ∀ k s, Runs.run step {} (twoTasks.take k) = some s → s.Exact := by
  refine ⟨rfl, (exact_iff_bears twoTasks _ rfl).mpr ?_⟩
  refine (Runs.meets_cons rfl).mpr ⟨trivial, (Runs.meets_cons rfl).mpr ⟨trivial, ?_⟩⟩
  refine (Runs.meets_cons rfl).mpr ⟨?_, (Runs.meets_cons rfl).mpr ⟨?_, ?_⟩⟩
  · rintro b ⟨⟩
    simp [Phase.reachesFinally]
  · rintro b ⟨⟩
    simp [Phase.reachesFinally]
  · refine (Runs.meets_cons rfl).mpr ⟨?_, trivial⟩
    rintro b ⟨⟩
    refine ⟨?_, by simp, by simp⟩
    rintro - ⟨i, b, hi, hb, htask, -⟩
    rcases i with _ | _ | i
    · obtain rfl := Option.some.inj hb
      cases htask
    · exact hi rfl
    · cases hb

/-- A block entered inside another one of its task takes the task out of the set. -/
theorem not_exact_nested : ¬∀ events s, Runs.run step {} events = some s → s.Exact := by
  intro h
  have hexact := h [.enter .syncMedia 0, .move 0 (.scheduled none), .enter .syncMedia 1,
    .move 1 (.scheduled none), .move 1 (.bodyEnds .returned 2), .move 1 .commits,
    .move 1 .written] _ rfl
  have hrunning := (hexact.running .syncMedia).mpr ⟨0, _, rfl, rfl, by simp [Block.Inside]⟩
  revert hrunning
  decide

end MediaMasterr.Jobs.TaskTracking
