import Mathlib.Data.List.Basic

/-! # Runs

The runs of a system that takes one step for each event, and the runs whose events
meet a condition on the state before them. -/

namespace MediaMasterr.Foundations.Runs

variable {σ ε : Type*}

def run (step : σ → ε → Option σ) (s : σ) (events : List ε) : Option σ := events.foldlM step s

/-- Each event of a run meets the condition. -/
def Meets (step : σ → ε → Option σ) (condition : σ → ε → Prop) : σ → List ε → Prop
  | _, [] => True
  | s, event :: events =>
    condition s event ∧ ∀ s', step s event = some s' → Meets step condition s' events

variable {step : σ → ε → Option σ} {condition : σ → ε → Prop} {I : σ → Prop} {s s' : σ}
    {events : List ε}

@[simp] theorem run_nil : run step s [] = some s := rfl

theorem run_cons {event : ε} :
    run step s (event :: events) = (step s event).bind (run step · events) :=
  List.foldlM_cons

theorem meets_cons {event : ε} (h : step s event = some s') :
    Meets step condition s (event :: events) ↔
      condition s event ∧ Meets step condition s' events := by
  rw [Meets, h]
  simp only [Option.some.injEq, forall_eq']

/-- A run whose events each have a next state. -/
theorem run_total (f : σ → ε → σ) : run (fun s event => some (f s event)) s events =
    some (events.foldl f s) :=
  List.foldlM_pure

theorem meets_append {rest : List ε} (h : run step s events = some s') :
    Meets step condition s (events ++ rest) ↔
      Meets step condition s events ∧ Meets step condition s' rest := by
  induction events generalizing s with
  | nil =>
    obtain rfl := Option.some.inj h
    exact (iff_of_eq (true_and _)).symm
  | cons event events ih =>
    rw [run_cons] at h
    obtain ⟨middle, hmiddle, hrest⟩ := Option.bind_eq_some_iff.mp h
    rw [List.cons_append, meets_cons hmiddle, meets_cons hmiddle, ih hrest, and_assoc]

theorem meets_of_forall (h : ∀ s event, event ∈ events → condition s event) :
    Meets step condition s events := by
  induction events generalizing s with
  | nil => trivial
  | cons event events ih =>
    exact ⟨h s event List.mem_cons_self, fun _ _ =>
      ih fun s event hmem => h s event (List.mem_cons_of_mem _ hmem)⟩

theorem Meets.and {condition' : σ → ε → Prop} (h : Meets step condition s events)
    (h' : Meets step condition' s events) :
    Meets step (fun s event => condition s event ∧ condition' s event) s events := by
  induction events generalizing s with
  | nil => trivial
  | cons event events ih => exact ⟨⟨h.1, h'.1⟩, fun s' hs' => ih (h.2 s' hs') (h'.2 s' hs')⟩

theorem Meets.mono {condition' : σ → ε → Prop} (h : Meets step condition s events)
    (himp : ∀ s event, condition s event → condition' s event) : Meets step condition' s events := by
  induction events generalizing s with
  | nil => trivial
  | cons event events ih => exact ⟨himp s event h.1, fun s' hs' => ih (h.2 s' hs')⟩

/-- What every event that meets the condition keeps, the whole run keeps. -/
theorem invariant_of_meets
    (hstep : ∀ s s' event, I s → condition s event → step s event = some s' → I s')
    (hmeets : Meets step condition s events) (hrun : run step s events = some s') (hs : I s) :
      I s' := by
  induction events generalizing s with
  | nil =>
    obtain rfl := Option.some.inj hrun
    exact hs
  | cons event events ih =>
    rw [run_cons] at hrun
    obtain ⟨middle, hmiddle, hrest⟩ := Option.bind_eq_some_iff.mp hrun
    exact ih (hmeets.2 middle hmiddle) hrest (hstep s middle event hs hmeets.1 hmiddle)

/-- What every event keeps, the whole run keeps. -/
theorem invariant (hstep : ∀ s s' event, I s → step s event = some s' → I s')
    (hrun : run step s events = some s') (hs : I s) : I s' :=
  invariant_of_meets (fun s s' event h _ => hstep s s' event h)
    (meets_of_forall fun _ _ _ => trivial : Meets step (fun _ _ => True) s events) hrun hs

/-- Where the condition is exactly what a step needs to keep the property, a run meets it
if and only if every state of the run has the property. -/
theorem meets_iff_forall_take {J : σ → Prop}
    (hinvariant : ∀ s s' event, J s → step s event = some s' → J s')
    (hstep : ∀ s s' event, J s → I s → step s event = some s' → (I s' ↔ condition s event))
    (hrun : run step s events = some s') (hJ : J s) (hI : I s) :
      Meets step condition s events ↔ ∀ k r, run step s (events.take k) = some r → I r := by
  induction events generalizing s with
  | nil =>
    refine iff_of_true trivial fun k r hr => ?_
    rw [List.take_nil] at hr
    obtain rfl := Option.some.inj hr
    exact hI
  | cons event events ih =>
    rw [run_cons] at hrun
    obtain ⟨middle, hmiddle, hrest⟩ := Option.bind_eq_some_iff.mp hrun
    have hJ' := hinvariant s middle event hJ hmiddle
    have hrun_take : ∀ k, run step s ((event :: events).take (k + 1)) =
        run step middle (events.take k) := by
      intro k
      rw [List.take_succ_cons, run_cons, hmiddle, Option.bind_some]
    rw [meets_cons hmiddle, ← hstep s middle event hJ hI hmiddle]
    constructor
    · rintro ⟨hI', hmeets⟩ k r hr
      cases k with
      | zero =>
        obtain rfl := Option.some.inj hr
        exact hI
      | succ k => exact (ih hrest hJ' hI').mp hmeets k r (hrun_take k ▸ hr)
    · intro hall
      have hI' : I middle := hall 1 middle (hrun_take 0)
      exact ⟨hI', (ih hrest hJ' hI').mpr fun k r hr => hall (k + 1) r (by rw [hrun_take, hr])⟩

end MediaMasterr.Foundations.Runs
