import Mathlib.Data.List.Basic

/-!
# Machines with guarded steps

A machine has a start state and a partial step function: an action that is not
enabled in a state has no successor.  A run is a finite list of actions, so one
machine covers every sequence of calls of a component and every interleaving of
the steps of several threads.  The two induction rules below carry an invariant
along a run, either for every enabled step or for the steps that satisfy a
condition on the state they start from.
-/

namespace Datafeed

/-- A start state and a partial, deterministic step function. -/
structure Machine (State Action : Type*) where
  initial : State
  step : State → Action → Option State

namespace Machine

variable {State Action : Type*} (machine : Machine State Action)

/-- The state after a list of actions, if all of them are enabled in turn. -/
def run : State → List Action → Option State
  | state, [] => some state
  | state, action :: actions =>
      (machine.step state action).bind fun next => run next actions

@[simp]
theorem run_nil (state : State) : machine.run state [] = some state := rfl

@[simp]
theorem run_cons (state : State) (action : Action) (actions : List Action) :
    machine.run state (action :: actions) =
      (machine.step state action).bind fun next => machine.run next actions := rfl

theorem run_append (state : State) (first second : List Action) :
    machine.run state (first ++ second) =
      (machine.run state first).bind fun next => machine.run next second := by
  induction first generalizing state with
  | nil => rfl
  | cons action actions ih =>
      simp only [List.cons_append, run_cons]
      cases machine.step state action with
      | none => rfl
      | some next => exact ih next

theorem exists_of_run_cons {machine : Machine State Action}
    {state final : State} {action : Action} {actions : List Action}
    (hrun : machine.run state (action :: actions) = some final) :
    ∃ next, machine.step state action = some next ∧
      machine.run next actions = some final :=
  Option.bind_eq_some_iff.mp hrun

theorem run_singleton {machine : Machine State Action} {state next : State}
    {action : Action} (hstep : machine.step state action = some next) :
    machine.run state [action] = some next := by
  rw [run_cons, hstep, Option.bind_some, run_nil]

theorem run_pair {machine : Machine State Action}
    {state middle final : State} {first second : Action}
    (hfirst : machine.step state first = some middle)
    (hsecond : machine.step middle second = some final) :
    machine.run state [first, second] = some final := by
  rw [run_cons, hfirst, Option.bind_some, run_singleton hsecond]

/-- The states the machine can reach from its start state. -/
def Reachable (state : State) : Prop :=
  ∃ actions, machine.run machine.initial actions = some state

/-- Every step of the run of `actions` from `state` satisfies `condition`, a
relation between the action and the state it is taken from. -/
def Along (condition : State → Action → Prop) : State → List Action → Prop
  | _, [] => True
  | state, action :: actions =>
      condition state action ∧
        ∀ next, machine.step state action = some next →
          Along condition next actions

instance Along.decidable (condition : State → Action → Prop)
    [∀ state action, Decidable (condition state action)] :
    ∀ (state : State) (actions : List Action),
      Decidable (machine.Along condition state actions)
  | _, [] => inferInstanceAs (Decidable True)
  | state, action :: actions =>
      have := fun next => Along.decidable condition next actions
      inferInstanceAs (Decidable (condition state action ∧
        ∀ next, next ∈ machine.step state action →
          machine.Along condition next actions))

/-- Every state of the run of `actions` from `state` has the property. -/
def Throughout (property : State → Prop) : State → List Action → Prop
  | state, [] => property state
  | state, action :: actions =>
      property state ∧
        ∀ next, machine.step state action = some next →
          Throughout property next actions

/-- The property holds in the state and in every state that can follow it. -/
def Always (property : State → Prop) (state : State) : Prop :=
  ∀ actions final, machine.run state actions = some final → property final

/-- Some continuation ends in a state with the property. -/
def CanReach (property : State → Prop) (state : State) : Prop :=
  ∃ actions final, machine.run state actions = some final ∧ property final

variable {machine}

theorem canReach_of_property {property : State → Prop} {state : State}
    (hproperty : property state) : machine.CanReach property state :=
  ⟨[], state, rfl, hproperty⟩

theorem CanReach.of_step {property : State → Prop} {state next : State}
    (action : Action) (hstep : machine.step state action = some next)
    (hreach : machine.CanReach property next) :
    machine.CanReach property state := by
  obtain ⟨actions, final, hrun, hproperty⟩ := hreach
  refine ⟨action :: actions, final, ?_, hproperty⟩
  rw [run_cons, hstep, Option.bind_some, hrun]

theorem CanReach.trans {middle property : State → Prop} {state : State}
    (hmiddle : machine.CanReach middle state)
    (hproperty : ∀ other, middle other → machine.CanReach property other) :
    machine.CanReach property state := by
  obtain ⟨first, other, hfirst, hother⟩ := hmiddle
  obtain ⟨second, final, hsecond, hfinal⟩ := hproperty other hother
  refine ⟨first ++ second, final, ?_, hfinal⟩
  rw [run_append, hfirst, Option.bind_some, hsecond]

theorem not_always_of_canReach {property : State → Prop} {state : State}
    (hreach : machine.CanReach (fun final => ¬ property final) state) :
    ¬ machine.Always property state := by
  obtain ⟨actions, final, hrun, hnot⟩ := hreach
  intro halways
  exact hnot (halways actions final hrun)

theorem along_append {condition : State → Action → Prop}
    {first second : List Action} {state middle : State}
    (hrun : machine.run state first = some middle) :
    machine.Along condition state (first ++ second) ↔
      machine.Along condition state first ∧
        machine.Along condition middle second := by
  induction first generalizing state with
  | nil =>
      obtain rfl : state = middle := by simpa using hrun
      simp [Along]
  | cons action actions ih =>
      obtain ⟨next, hstep, hrest⟩ := exists_of_run_cons hrun
      simp only [List.cons_append, Along, hstep, Option.some.injEq,
        forall_eq', ih hrest, and_assoc]

theorem Throughout.start {property : State → Prop} {state : State}
    {actions : List Action}
    (hthroughout : machine.Throughout property state actions) :
    property state := by
  cases actions with
  | nil => exact hthroughout
  | cons _ _ => exact hthroughout.1

theorem along_of_forall {condition : State → Action → Prop}
    {actions : List Action}
    (hactions : ∀ action ∈ actions, ∀ state, condition state action)
    (state : State) : machine.Along condition state actions := by
  induction actions generalizing state with
  | nil => trivial
  | cons action actions ih =>
      refine ⟨hactions action List.mem_cons_self state, fun next _ => ih ?_ next⟩
      exact fun other hother => hactions other (List.mem_cons_of_mem _ hother)

theorem Along.and {first second : State → Action → Prop} {state : State}
    {actions : List Action} (hfirst : machine.Along first state actions)
    (hsecond : machine.Along second state actions) :
    machine.Along (fun other action => first other action ∧ second other action)
      state actions := by
  induction actions generalizing state with
  | nil => trivial
  | cons action actions ih =>
      exact ⟨⟨hfirst.1, hsecond.1⟩, fun next hstep =>
        ih (hfirst.2 next hstep) (hsecond.2 next hstep)⟩

/-- A condition that an invariant turns into another one. -/
theorem Along.of_invariant {first second : State → Action → Prop}
    {invariant : State → Prop}
    (hpreserve : ∀ state action next, invariant state → first state action →
      machine.step state action = some next → invariant next)
    (hsecond : ∀ state action, invariant state → first state action →
      second state action)
    {actions : List Action} {state : State} (hstart : invariant state)
    (halong : machine.Along first state actions) :
    machine.Along second state actions := by
  induction actions generalizing state with
  | nil => trivial
  | cons action actions ih =>
      refine ⟨hsecond state action hstart halong.1, fun next hstep => ?_⟩
      exact ih (hpreserve state action next hstart halong.1 hstep)
        (halong.2 next hstep)

/-- Invariant rule for runs whose steps all satisfy `condition`. -/
theorem invariant_along {condition : State → Action → Prop}
    {invariant : State → Prop}
    (hpreserve : ∀ state action next, invariant state →
      condition state action → machine.step state action = some next →
        invariant next)
    {actions : List Action} {state final : State}
    (hstart : invariant state)
    (halong : machine.Along condition state actions)
    (hrun : machine.run state actions = some final) : invariant final := by
  induction actions generalizing state with
  | nil =>
      obtain rfl : state = final := by simpa using hrun
      exact hstart
  | cons action actions ih =>
      obtain ⟨next, hstep, hrest⟩ := exists_of_run_cons hrun
      exact ih (hpreserve state action next hstart halong.1 hstep)
        (halong.2 next hstep) hrest

/-- What an invariant of the runs along `condition` implies holds throughout
such a run. -/
theorem throughout_of_along {condition : State → Action → Prop}
    {invariant property : State → Prop}
    (hpreserve : ∀ state action next, invariant state →
      condition state action → machine.step state action = some next →
        invariant next)
    (hproperty : ∀ state, invariant state → property state)
    {actions : List Action} {state : State} (hstart : invariant state)
    (halong : machine.Along condition state actions) :
    machine.Throughout property state actions := by
  induction actions generalizing state with
  | nil => exact hproperty state hstart
  | cons action actions ih =>
      refine ⟨hproperty state hstart, fun next hstep => ?_⟩
      exact ih (hpreserve state action next hstart halong.1 hstep)
        (halong.2 next hstep)

/-- If no step that breaks the condition keeps the property, a run with the
property throughout is along the condition.  The steps may be taken to satisfy
another condition. -/
theorem along_of_throughout {first condition : State → Action → Prop}
    {property : State → Prop}
    (hcondition : ∀ state action, property state → first state action →
      (∀ next, machine.step state action = some next → property next) →
        condition state action)
    {actions : List Action} {state : State}
    (hfirst : machine.Along first state actions)
    (hthroughout : machine.Throughout property state actions) :
    machine.Along condition state actions := by
  induction actions generalizing state with
  | nil => trivial
  | cons action actions ih =>
      refine ⟨hcondition state action hthroughout.1 hfirst.1 fun next hstep => ?_,
        fun next hstep => ih (hfirst.2 next hstep) (hthroughout.2 next hstep)⟩
      exact (hthroughout.2 next hstep).start

/-- If each step keeps the property exactly when it satisfies `condition`, so
does the run. -/
theorem throughout_iff_along {condition : State → Action → Prop}
    {invariant property : State → Prop}
    (hpreserve : ∀ state action next, invariant state →
      machine.step state action = some next → invariant next)
    (hcondition : ∀ state action, invariant state → property state →
      (condition state action ↔
        ∀ next, machine.step state action = some next → property next))
    {actions : List Action} {state : State} (hstart : invariant state)
    (hproperty : property state) :
    machine.Throughout property state actions ↔
      machine.Along condition state actions := by
  induction actions generalizing state with
  | nil => exact iff_of_true hproperty trivial
  | cons action actions ih =>
      have hkept := hcondition state action hstart hproperty
      constructor
      · intro hthroughout
        have hnext : ∀ next, machine.step state action = some next →
            property next :=
          fun next hstep => (hthroughout.2 next hstep).start
        refine ⟨hkept.mpr hnext, fun next hstep => ?_⟩
        exact (ih (hpreserve state action next hstart hstep)
          (hnext next hstep)).mp (hthroughout.2 next hstep)
      · intro halong
        refine ⟨hproperty, fun next hstep => ?_⟩
        exact (ih (hpreserve state action next hstart hstep)
          (hkept.mp halong.1 next hstep)).mpr (halong.2 next hstep)

/-- Invariant rule for all runs. -/
theorem invariant_run {invariant : State → Prop}
    (hpreserve : ∀ state action next, invariant state →
      machine.step state action = some next → invariant next)
    {actions : List Action} {state final : State}
    (hstart : invariant state)
    (hrun : machine.run state actions = some final) : invariant final := by
  have halong : machine.Along (fun _ _ => True) state actions :=
    along_of_forall (fun _ _ _ => trivial) state
  exact invariant_along
    (fun state action next hstate _ hstep =>
      hpreserve state action next hstate hstep) hstart halong hrun

/-- What an invariant implies holds in every state that can follow. -/
theorem always_of_invariant {invariant property : State → Prop}
    (hpreserve : ∀ state action next, invariant state →
      machine.step state action = some next → invariant next)
    (hproperty : ∀ state, invariant state → property state)
    {state : State} (hstate : invariant state) :
    machine.Always property state := by
  intro actions final hrun
  exact hproperty final (invariant_run hpreserve hstate hrun)

/-- What holds initially and is kept by every step holds in every reachable
state. -/
theorem Reachable.invariant {invariant : State → Prop}
    (hinitial : invariant machine.initial)
    (hpreserve : ∀ state action next, invariant state →
      machine.step state action = some next → invariant next)
    {state : State} (hreach : machine.Reachable state) : invariant state := by
  obtain ⟨actions, hrun⟩ := hreach
  exact invariant_run hpreserve hinitial hrun

theorem Reachable.of_step {state next : State} {action : Action}
    (hreach : machine.Reachable state)
    (hstep : machine.step state action = some next) :
    machine.Reachable next := by
  obtain ⟨actions, hrun⟩ := hreach
  refine ⟨actions ++ [action], ?_⟩
  rw [run_append, hrun, Option.bind_some]
  exact run_singleton hstep

end Machine

end Datafeed
