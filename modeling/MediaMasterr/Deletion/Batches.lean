import MediaMasterr.Deletion.Services
import MediaMasterr.Database.Frames

/-! # Batches of the Arr instances

The movie and series handlers send their work to the Arr instances in one batch a
configuration. A batch that raises no exception is handled as a whole; otherwise
every candidate of it is marked as failed. -/

namespace MediaMasterr.Deletion

open MediaMasterr.Foundations MediaMasterr.Database

/-- How the batches of one kind are run: the connected clients, the batch of a configuration,
its calls, and the exception that ends it. -/
structure BatchRoute (J : Type) where
  clients : List (Nat × ClientId)
  batch : Nat → List J
  calls : ClientId → Nat → List J → List Event
  error : Nat → List J → Option String
  arrId : J → Nat
  candidateIds : J → List Nat
  failure : String

/-- What the loop over the configurations has done so far. -/
structure BatchRun (J : Type) where
  db : Tables
  events : List Event := []
  handled : List J := []
  refresh : List (Nat × List Nat) := []

namespace BatchRoute

variable {J : Type} (route : BatchRoute J) (now : Nat)

/-- One batch. -/
def runBatch (run : BatchRun J) (config : Nat) : BatchRun J :=
  match route.clients.lookup config with
  | none => run
  | some client =>
    let jobs := route.batch config
    let run := { run with events := run.events ++ route.calls client config jobs }
    match route.error config jobs with
    | none =>
      { run with
        handled := run.handled ++ jobs
        refresh := run.refresh ++ [(config, (jobs.map route.arrId).eraseDups)] }
    | some e =>
      { run with
        db := run.db.markCandidateDeleteFailures now (jobs.flatMap route.candidateIds)
          (route.failure ++ " for config " ++ toString config ++ ": " ++ e) }

/-- The batches of the configurations, in order. -/
def runBatches (configs : List Nat) (db : Tables) : BatchRun J :=
  configs.foldl (route.runBatch now) { db }

/-- The batch of a configuration is handled: it has a client and raises no exception. -/
def handles (config : Nat) : Bool :=
  (route.clients.lookup config).isSome && (route.error config (route.batch config)).isNone

/-- The calls of a configuration's batch, when it has a client. -/
def callsOf (config : Nat) : List Event :=
  match route.clients.lookup config with
  | none => []
  | some client => route.calls client config (route.batch config)

variable {route now} {configs : List Nat} {db : Tables}

theorem runBatch_handled (run : BatchRun J) (config : Nat) :
    (route.runBatch now run config).handled =
      run.handled ++ if route.handles config then route.batch config else [] := by
  cases hc : route.clients.lookup config with
  | none => simp [runBatch, handles, hc]
  | some client =>
    cases he : route.error config (route.batch config) <;> simp [runBatch, handles, hc, he]

theorem runBatch_events (run : BatchRun J) (config : Nat) :
    (route.runBatch now run config).events = run.events ++ route.callsOf config := by
  dsimp only [runBatch, callsOf]
  cases route.clients.lookup config with
  | none => simp
  | some client => cases route.error config (route.batch config) <;> rfl

theorem runBatch_marks (run : BatchRun J) (config : Nat) :
    run.db.Marks (route.runBatch now run config).db := by
  dsimp only [runBatch]
  cases route.clients.lookup config with
  | none => exact .refl _
  | some client =>
    cases route.error config (route.batch config) with
    | none => exact .refl _
    | some e => exact Tables.marks_markCandidateDeleteFailures _ _ _

theorem mem_handled {job : J} : job ∈ (route.runBatches now configs db).handled ↔
    ∃ config ∈ configs, route.handles config ∧ job ∈ route.batch config := by
  rw [runBatches, Loops.foldl_trace runBatch_handled]
  simp

theorem runBatches_events :
    (route.runBatches now configs db).events = configs.flatMap route.callsOf := by
  rw [runBatches, Loops.foldl_trace runBatch_events]
  simp

/-- The batches mark candidates, and change nothing else. -/
theorem runBatches_marks : db.Marks (route.runBatches now configs db).db :=
  Loops.foldl_invariant (P := fun run : BatchRun J => db.Marks run.db)
    (fun config _ run h => h.trans (runBatch_marks run config)) (.refl db)

end BatchRoute

/-! ## One entry for each target -/

section FirstOfEach

variable {J : Type} {key : J → Nat} {jobs : List J}

/-- The first entry of every key, in the order of the keys' first appearance. -/
def firstOfEach (key : J → Nat) (jobs : List J) : List J :=
  (jobs.map key).eraseDups.filterMap fun k => jobs.find? (key · == k)

theorem mem_of_mem_firstOfEach {job : J} (h : job ∈ firstOfEach key jobs) : job ∈ jobs := by
  obtain ⟨k, -, hk⟩ := List.mem_filterMap.mp h
  exact List.mem_of_find?_eq_some hk

theorem exists_mem_firstOfEach {job : J} (h : job ∈ jobs) :
    ∃ first ∈ firstOfEach key jobs, key first = key job := by
  have hsome : (jobs.find? (key · == key job)).isSome :=
    List.find?_isSome.mpr ⟨job, h, by simp⟩
  obtain ⟨first, hfirst⟩ := Option.isSome_iff_exists.mp hsome
  refine ⟨first, List.mem_filterMap.mpr ⟨key job, ?_, hfirst⟩,
    by simpa using List.find?_some hfirst⟩
  simpa using ⟨job, h, rfl⟩

theorem nodup_eraseDups (keys : List Nat) : keys.eraseDups.Nodup := by
  induction hn : keys.length using Nat.strong_induction_on generalizing keys with
  | h n ih =>
    cases keys with
    | nil => simp
    | cons k keys =>
      rw [List.eraseDups_cons, List.nodup_cons]
      refine ⟨by simp, ih _ ?_ _ rfl⟩
      rw [← hn]
      exact Nat.lt_succ_of_le (List.length_filter_le _ keys)

/-- The first entries have different keys. -/
theorem firstOfEach_pairwise (key : J → Nat) (jobs : List J) :
    (firstOfEach key jobs).Pairwise fun a b => key a ≠ key b := by
  refine List.Pairwise.filterMap _ ?_ (nodup_eraseDups (jobs.map key))
  intro k k' hne a ha b hb
  have hka : key a = k := by simpa using List.find?_some ha
  have hkb : key b = k' := by simpa using List.find?_some hb
  rwa [hka, hkb]

end FirstOfEach

end MediaMasterr.Deletion
