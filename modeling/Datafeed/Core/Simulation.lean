import Datafeed.Core.Machine

/-!
# Simulation between machines

An implementation machine refines a specification machine along an abstraction
of its states when every step it takes, from a state of its invariant, is a run
of the specification.  The run may be empty, for a step that the specification
does not see, or have several steps.  The step rule is proved once for each
implementation; the theorems below carry it along whole runs.
-/

namespace Datafeed.Machine

variable {State Action Abstract Event : Type*}

/-- The specification's view of a run: what each of its steps stands for. -/
def history (machine : Machine State Action)
    (events : State → Action → List Event) : State → List Action → List Event
  | _, [] => []
  | state, action :: actions =>
      events state action ++
        (machine.step state action).elim [] fun next =>
          history machine events next actions

open Classical in
/-- The runs whose steps all satisfy a condition, as a machine of its own. -/
noncomputable def restrict (machine : Machine State Action)
    (condition : State → Action → Prop) : Machine State Action where
  initial := machine.initial
  step state action :=
    if condition state action then machine.step state action else none

theorem restrict_step_eq_some_iff {machine : Machine State Action}
    {condition : State → Action → Prop} {state next : State}
    {action : Action} :
    (machine.restrict condition).step state action = some next ↔
      condition state action ∧ machine.step state action = some next := by
  simp [restrict]

theorem run_restrict {machine : Machine State Action}
    {condition : State → Action → Prop} {state : State}
    {actions : List Action} (halong : machine.Along condition state actions) :
    (machine.restrict condition).run state actions =
      machine.run state actions := by
  induction actions generalizing state with
  | nil => rfl
  | cons action actions ih =>
      obtain ⟨hcondition, hrest⟩ := halong
      have hstep : (machine.restrict condition).step state action =
          machine.step state action := if_pos hcondition
      rw [run_cons, run_cons, hstep]
      cases hnext : machine.step state action with
      | none => rfl
      | some next => exact ih (hrest next hnext)

theorem history_restrict {machine : Machine State Action}
    {condition : State → Action → Prop} (events : State → Action → List Event)
    {state : State} {actions : List Action}
    (halong : machine.Along condition state actions) :
    history (machine.restrict condition) events state actions =
      history machine events state actions := by
  induction actions generalizing state with
  | nil => rfl
  | cons action actions ih =>
      obtain ⟨hcondition, hrest⟩ := halong
      have hstep : (machine.restrict condition).step state action =
          machine.step state action := if_pos hcondition
      rw [history, history, hstep]
      cases hnext : machine.step state action with
      | none => rfl
      | some next =>
          exact congrArg (events state action ++ ·) (ih (hrest next hnext))

/-- A refinement mapping from `implementation` to `specification`. -/
structure Simulation (implementation : Machine State Action)
    (specification : Machine Abstract Event) where
  invariant : State → Prop
  abstraction : State → Abstract
  events : State → Action → List Event
  invariant_initial : invariant implementation.initial
  invariant_step : ∀ state action next, invariant state →
    implementation.step state action = some next → invariant next
  abstraction_initial :
    abstraction implementation.initial = specification.initial
  matched : ∀ state action next, invariant state →
    implementation.step state action = some next →
      specification.run (abstraction state) (events state action) =
        some (abstraction next)

namespace Simulation

variable {implementation : Machine State Action}
  {specification : Machine Abstract Event}
  (simulation : Simulation implementation specification)

/-- The history of a run of the implementation. -/
abbrev trace (state : State) (actions : List Action) : List Event :=
  history implementation simulation.events state actions

/-- A run of the implementation is a run of the specification. -/
theorem run_trace {state final : State} {actions : List Action}
    (hstate : simulation.invariant state)
    (hrun : implementation.run state actions = some final) :
    specification.run (simulation.abstraction state)
        (simulation.trace state actions) =
      some (simulation.abstraction final) := by
  induction actions generalizing state with
  | nil =>
      obtain rfl : state = final := by simpa using hrun
      rfl
  | cons action actions ih =>
      obtain ⟨next, hstep, hrest⟩ := exists_of_run_cons hrun
      have hmatched := simulation.matched state action next hstate hstep
      have hnext := simulation.invariant_step state action next hstate hstep
      rw [trace, history, run_append, hmatched, hstep, Option.bind_some]
      exact ih hnext hrest

theorem run_trace_initial {final : State} {actions : List Action}
    (hrun : implementation.run implementation.initial actions = some final) :
    specification.run specification.initial
        (simulation.trace implementation.initial actions) =
      some (simulation.abstraction final) := by
  rw [← simulation.abstraction_initial]
  exact simulation.run_trace simulation.invariant_initial hrun

theorem invariant_of_reachable {state : State}
    (hreach : implementation.Reachable state) : simulation.invariant state :=
  hreach.invariant simulation.invariant_initial simulation.invariant_step

/-- What the implementation reaches, the specification reaches. -/
theorem reachable {state : State} (hreach : implementation.Reachable state) :
    specification.Reachable (simulation.abstraction state) := by
  obtain ⟨actions, hrun⟩ := hreach
  exact ⟨_, simulation.run_trace_initial hrun⟩

end Simulation

end Datafeed.Machine
