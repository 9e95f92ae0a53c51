import Datafeed.Core.Machine
import Mathlib.Data.List.Fold
import Mathlib.Data.List.MinMax

/-!
# Calls whose atomic steps interleave

A call of an operation on shared data goes through points, taking one atomic step
at each until it has returned.  Any number of calls are under way at a time, and
the next step may be that of any of them.  What a step may do besides (such as the
spurious failure of a weak exchange) is a choice of its own.

A counter of the shared data is what the calls do to it: add one, subtract one,
store a value or leave it alone.  It is bounded by the calls that add to it and
the values that are stored, as long as no call subtracts from zero.
-/

namespace Datafeed.Interleaving

/-- The operations: where a call begins, and its step at a point.  There is none
where it has returned. -/
structure Program (Shared Operation Point Choice : Type*) where
  enter : Operation → Point
  step : Shared → Operation → Point → Choice → Option (Shared × Point)

structure Call (Operation Point : Type*) where
  operation : Operation
  point : Point

structure State (Shared Operation Point : Type*) where
  shared : Shared
  calls : List (Call Operation Point)

inductive Action (Operation Choice : Type*)
  | call (operation : Operation)
  /-- The next step of a call; calls are numbered in their order. -/
  | step (call : ℕ) (choice : Choice)

variable {Shared Operation Point Choice : Type*}

/-- The operations of all calls so far. -/
def State.operations (state : State Shared Operation Point) : List Operation :=
  state.calls.map Call.operation

/-- A new call. -/
def Program.begin (program : Program Shared Operation Point Choice)
    (state : State Shared Operation Point) (operation : Operation) :
    State Shared Operation Point :=
  { state with
    calls := state.calls ++ [⟨operation, program.enter operation⟩] }

/-- A call goes on to another point. -/
def State.goOn (state : State Shared Operation Point) (index : ℕ)
    (operation : Operation) (shared : Shared) (point : Point) :
    State Shared Operation Point :=
  ⟨shared, state.calls.set index ⟨operation, point⟩⟩

/-- All interleavings, from shared data on which no call is under way. -/
def Program.machine (program : Program Shared Operation Point Choice)
    (shared : Shared) :
    Machine (State Shared Operation Point) (Action Operation Choice) where
  initial := ⟨shared, []⟩
  step state action :=
    match action with
    | .call operation => some (program.begin state operation)
    | .step index choice =>
        state.calls[index]?.bind fun call =>
          (program.step state.shared call.operation call.point choice).map
            fun result => state.goOn index call.operation result.1 result.2

section Steps

variable {program : Program Shared Operation Point Choice} {start : Shared}
  {state next : State Shared Operation Point}

/-- What a step can be. -/
theorem step_cases {action : Action Operation Choice}
    (hstep : (program.machine start).step state action = some next) :
    (∃ operation, action = .call operation ∧
      next = program.begin state operation) ∨
    ∃ index choice call shared point, action = .step index choice ∧
      state.calls[index]? = some call ∧
      program.step state.shared call.operation call.point choice =
        some (shared, point) ∧
      next = state.goOn index call.operation shared point := by
  cases action with
  | call operation => exact Or.inl ⟨operation, rfl, (Option.some.inj hstep).symm⟩
  | step index choice =>
      obtain ⟨call, hcall, hresult⟩ := Option.bind_eq_some_iff.mp hstep
      obtain ⟨⟨shared, point⟩, hpoint, rfl⟩ := Option.map_eq_some_iff.mp hresult
      exact Or.inr ⟨index, choice, call, shared, point, rfl, hcall, hpoint, rfl⟩

/-- A call keeps its operation. -/
theorem operations_goOn {index : ℕ} {call : Call Operation Point}
    (hcall : state.calls[index]? = some call) (shared : Shared) (point : Point) :
    (state.goOn index call.operation shared point).operations =
      state.operations := by
  obtain ⟨hindex, rfl⟩ := List.getElem?_eq_some_iff.mp hcall
  have hbound : index < state.operations.length := by
    rwa [State.operations, List.length_map]
  have hmapped : state.operations[index] = state.calls[index].operation :=
    List.getElem_map _
  rw [State.operations, State.goOn, List.map_set, ← hmapped]
  exact List.set_getElem_self hbound

theorem operations_begin (operation : Operation) :
    (program.begin state operation).operations =
      state.operations ++ [operation] := by
  simp [State.operations, Program.begin]

theorem mem_goOn {index : ℕ} {call : Call Operation Point}
    (hcall : state.calls[index]? = some call) (shared : Shared) (point : Point) :
    ⟨call.operation, point⟩ ∈
      (state.goOn index call.operation shared point).calls := by
  obtain ⟨hindex, -⟩ := List.getElem?_eq_some_iff.mp hcall
  exact List.mem_set hindex _

/-- A call is the one that goes on or has another number. -/
theorem eq_or_exists_of_mem_goOn {index : ℕ} {operation : Operation}
    {shared : Shared} {point : Point} {other : Call Operation Point}
    (hmem : other ∈ (state.goOn index operation shared point).calls) :
    other = ⟨operation, point⟩ ∨
      ∃ place, place ≠ index ∧ state.calls[place]? = some other := by
  obtain ⟨place, hplace⟩ := List.mem_iff_getElem?.mp hmem
  rw [State.goOn, List.getElem?_set] at hplace
  split at hplace
  · split at hplace
    · exact Or.inl (Option.some.inj hplace).symm
    · cases hplace
  · rename_i hne
    exact Or.inr ⟨place, Ne.symm hne, hplace⟩

/-- A call that differs from the one that goes on stays where it is. -/
theorem mem_goOn_of_ne {index : ℕ} {call other : Call Operation Point}
    (hcall : state.calls[index]? = some call) (hmem : other ∈ state.calls)
    (hne : other ≠ call) (shared : Shared) (point : Point) :
    other ∈ (state.goOn index call.operation shared point).calls := by
  obtain ⟨place, hplace⟩ := List.mem_iff_getElem?.mp hmem
  have hother : index ≠ place := by
    rintro rfl
    exact hne (Option.some.inj (hplace.symm.trans hcall))
  refine List.mem_iff_getElem?.mpr ⟨place, ?_⟩
  rw [State.goOn, List.getElem?_set_ne hother, hplace]

/-- The calls of a kind, when one of them goes on. -/
theorem countP_set_add {calls : List (Call Operation Point)} {index : ℕ}
    {call : Call Operation Point} (hcall : calls[index]? = some call)
    (after : Call Operation Point) (kind : Call Operation Point → Bool) :
    (calls.set index after).countP kind + (kind call).toNat =
      calls.countP kind + (kind after).toNat := by
  obtain ⟨hindex, rfl⟩ := List.getElem?_eq_some_iff.mp hcall
  have hpositive := List.boole_getElem_le_countP (p := kind) hindex
  rw [List.countP_set hindex]
  cases hbefore : kind calls[index] <;> cases hafter : kind after <;>
    simp only [hbefore, Bool.toNat_true, Bool.toNat_false, if_true,
      Bool.false_eq_true, if_false] at hpositive ⊢ <;> omega

end Steps

/-! ## A call without another in between -/

/-- The steps of one call, taken one after the other. -/
inductive Program.Alone (program : Program Shared Operation Point Choice)
    (operation : Operation) : Shared → Point → Shared → Point → Prop
  | here (shared : Shared) (point : Point) :
      Alone program operation shared point shared point
  | goesOn {shared next final : Shared} {point pointNext pointFinal : Point}
      (choice : Choice)
      (hstep : program.step shared operation point choice =
        some (next, pointNext))
      (hrest : Alone program operation next pointNext final pointFinal) :
      Alone program operation shared point final pointFinal

theorem Program.Alone.trans {program : Program Shared Operation Point Choice}
    {operation : Operation} {shared middle final : Shared}
    {point pointMiddle pointFinal : Point}
    (hfirst : program.Alone operation shared point middle pointMiddle)
    (hsecond : program.Alone operation middle pointMiddle final pointFinal) :
    program.Alone operation shared point final pointFinal := by
  induction hfirst with
  | here shared point => exact hsecond
  | goesOn choice hstep _ ih => exact .goesOn choice hstep (ih hsecond)

/-- They are a run in which the other calls rest. -/
theorem Program.Alone.exists_run {program : Program Shared Operation Point Choice}
    {start shared final : Shared} {operation : Operation}
    {point pointFinal : Point}
    (halone : program.Alone operation shared point final pointFinal)
    (calls : List (Call Operation Point)) :
    ∃ choices : List Choice, (program.machine start).run
      ⟨shared, calls ++ [⟨operation, point⟩]⟩
        (choices.map (.step calls.length)) =
      some ⟨final, calls ++ [⟨operation, pointFinal⟩]⟩ := by
  induction halone with
  | here shared point => exact ⟨[], rfl⟩
  | @goesOn shared next final point pointNext pointFinal choice hstep hrest ih =>
      obtain ⟨choices, hrun⟩ := ih
      have hnext : (program.machine start).step
          ⟨shared, calls ++ [⟨operation, point⟩]⟩ (.step calls.length choice) =
            some ⟨next, calls ++ [⟨operation, pointNext⟩]⟩ := by
        simp [Program.machine, State.goOn, hstep]
      refine ⟨choice :: choices, ?_⟩
      rw [List.map_cons, Machine.run_cons, hnext, Option.bind_some]
      exact hrun

/-! ## A counter -/

/-- What a step does to a counter, with what it leaves to be added by the call. -/
inductive Effect (value next : UInt64) (assigned : ℕ)
    (adding addingNext subtracting : Bool) : Prop
  | keeps (hvalue : next = value) (hadding : addingNext = adding)
      (hsubtracting : subtracting = false)
  | adds (hvalue : next = value + 1) (hadding : adding = true)
      (hdone : addingNext = false) (hsubtracting : subtracting = false)
  | subtracts (hvalue : next = value - 1) (hadding : addingNext = adding)
      (hsubtracting : subtracting = true)
  | stores (hvalue : next.toNat ≤ assigned) (hadding : addingNext = adding)
      (hsubtracting : subtracting = false)

/-- A counter of the shared data.  Each call of some operations adds one to it,
once; the points say whether it is still to do so, and which steps subtract. -/
structure Counter (program : Program Shared Operation Point Choice) where
  value : Shared → UInt64
  increments : Operation → Bool
  /-- The largest value that a call of the operation stores. -/
  assigned : Operation → ℕ
  adding : Operation → Point → Bool
  subtracting : Operation → Point → Bool
  adding_enter : ∀ operation,
    adding operation (program.enter operation) = increments operation
  effect : ∀ {shared operation point choice next pointNext},
    program.step shared operation point choice = some (next, pointNext) →
      Effect (value shared) (value next) (assigned operation)
        (adding operation point) (adding operation pointNext)
        (subtracting operation point)
  enabled : ∀ shared operation point choice,
    subtracting operation point = true →
      (program.step shared operation point choice).isSome
  subtracting_enter : ∀ operation,
    subtracting operation (program.enter operation) = false
  /-- A call is about to subtract if it has found the counter above zero. -/
  tested : ∀ {shared operation point choice next pointNext},
    program.step shared operation point choice = some (next, pointNext) →
      subtracting operation pointNext = true → value next ≠ 0

namespace Counter

variable {program : Program Shared Operation Point Choice}
  (counter : Counter program) {start : Shared}
  {state next : State Shared Operation Point}

/-- The number of calls that add to the counter. -/
def increasing (state : State Shared Operation Point) : ℕ :=
  state.operations.countP counter.increments

/-- The largest value that a call has to store. -/
def largest (state : State Shared Operation Point) : ℕ :=
  (state.operations.map counter.assigned).foldl max 0

/-- The calls that have not added to it yet. -/
def pending (state : State Shared Operation Point) : ℕ :=
  state.calls.countP fun call => counter.adding call.operation call.point

/-- The counter has not wrapped. -/
def Bounded (state : State Shared Operation Point) : Prop :=
  (counter.value state.shared).toNat ≤
    counter.increasing state + counter.largest state

/-- A step that subtracts finds the counter above zero. -/
def Finds (state : State Shared Operation Point)
    (action : Action Operation Choice) : Prop :=
  ∀ index choice call, action = .step index choice →
    state.calls[index]? = some call →
      counter.subtracting call.operation call.point = true →
        counter.value state.shared ≠ 0

instance Finds.decidable (state : State Shared Operation Point)
    (action : Action Operation Choice) : Decidable (counter.Finds state action) :=
  match action with
  | .call _ => isTrue (by rintro _ _ _ ⟨⟩)
  | .step index choice =>
      decidable_of_iff (∀ call ∈ state.calls[index]?,
        counter.subtracting call.operation call.point = true →
          counter.value state.shared ≠ 0)
        ⟨by rintro hfinds _ _ call ⟨rfl, rfl⟩; exact hfinds call,
          fun hfinds call => hfinds index choice call rfl⟩

/-- A step that lowers the counter comes while no other call is about to subtract
from it. -/
def Undisturbed (state : State Shared Operation Point)
    (action : Action Operation Choice) : Prop :=
  ∀ index choice call shared point, action = .step index choice →
    state.calls[index]? = some call →
      program.step state.shared call.operation call.point choice =
        some (shared, point) →
      counter.value shared < counter.value state.shared →
        ∀ place other, place ≠ index → state.calls[place]? = some other →
          counter.subtracting other.operation other.point = false

/-- The counter is above zero while a call is about to subtract from it. -/
def Positive (state : State Shared Operation Point) : Prop :=
  ∀ call ∈ state.calls, counter.subtracting call.operation call.point = true →
    counter.value state.shared ≠ 0

theorem positive_initial (start : Shared) :
    counter.Positive (program.machine start).initial :=
  fun _ hmem => absurd hmem List.not_mem_nil

/-- So few calls that a counter which has wrapped below zero stands out. -/
def Few (state : State Shared Operation Point)
    (_action : Action Operation Choice) : Prop :=
  counter.increasing state + counter.largest state + 1 < UInt64.size

instance Few.decidable (state : State Shared Operation Point)
    (action : Action Operation Choice) : Decidable (counter.Few state action) :=
  inferInstanceAs (Decidable (_ < _))

/-- The bound with what is still to be added. -/
structure Invariant (state : State Shared Operation Point) : Prop where
  bound : (counter.value state.shared).toNat + counter.pending state ≤
    counter.increasing state + counter.largest state
  fewer : counter.pending state ≤ counter.increasing state

theorem pending_goOn {index : ℕ} {call : Call Operation Point}
    (hcall : state.calls[index]? = some call) (shared : Shared) (point : Point) :
    counter.pending (state.goOn index call.operation shared point) +
        (counter.adding call.operation call.point).toNat =
      counter.pending state +
        (counter.adding call.operation point).toNat :=
  countP_set_add hcall ⟨call.operation, point⟩
    fun other => counter.adding other.operation other.point

theorem increasing_goOn {index : ℕ} {call : Call Operation Point}
    (hcall : state.calls[index]? = some call) (shared : Shared) (point : Point) :
    counter.increasing (state.goOn index call.operation shared point) =
      counter.increasing state := by
  rw [increasing, operations_goOn hcall, increasing]

theorem largest_goOn {index : ℕ} {call : Call Operation Point}
    (hcall : state.calls[index]? = some call) (shared : Shared) (point : Point) :
    counter.largest (state.goOn index call.operation shared point) =
      counter.largest state := by
  rw [largest, operations_goOn hcall, largest]

theorem assigned_le_largest {index : ℕ} {call : Call Operation Point}
    (hcall : state.calls[index]? = some call) :
    counter.assigned call.operation ≤ counter.largest state := by
  have hmem : counter.assigned call.operation ∈
      state.operations.map counter.assigned :=
    List.mem_map_of_mem (List.mem_map_of_mem (List.mem_of_getElem? hcall))
  rw [largest, List.foldl_eq_foldr]
  exact List.le_max_of_le' 0 hmem (Nat.le_refl _)

variable {counter}

theorem Invariant.bounded (hinvariant : counter.Invariant state) :
    counter.Bounded state :=
  le_trans (Nat.le_add_right _ _) hinvariant.bound

theorem invariant_initial (hzero : counter.value start = 0) :
    counter.Invariant (program.machine start).initial where
  bound := by
    rw [show (program.machine start).initial = ⟨start, []⟩ from rfl, hzero]
    exact Nat.zero_le _
  fewer := Nat.zero_le _

theorem largest_begin (operation : Operation) :
    counter.largest (program.begin state operation) =
      max (counter.largest state) (counter.assigned operation) := by
  rw [largest, operations_begin, List.map_append, List.foldl_append]
  rfl

/-- A new call adds to both sides of the bound, or raises the right one. -/
theorem Invariant.begin (hinvariant : counter.Invariant state)
    (operation : Operation) :
    counter.Invariant (program.begin state operation) := by
  have hincreasing : counter.increasing (program.begin state operation) =
      counter.increasing state + (counter.increments operation).toNat := by
    rw [increasing, operations_begin, List.countP_append, List.countP_singleton]
    cases counter.increments operation <;> rfl
  have hpending : counter.pending (program.begin state operation) =
      counter.pending state + (counter.increments operation).toNat := by
    rw [pending, Program.begin, List.countP_append, List.countP_singleton,
      counter.adding_enter]
    cases counter.increments operation <;> rfl
  have hlargest := le_max_left (counter.largest state)
    (counter.assigned operation)
  obtain ⟨hbound, hfewer⟩ := hinvariant
  have hvalue : (program.begin state operation).shared = state.shared := rfl
  constructor
  · rw [hincreasing, hpending, largest_begin, hvalue]
    omega
  · rw [hincreasing, hpending]
    omega

theorem toNat_add_one_le (value : UInt64) :
    (value + 1).toNat ≤ value.toNat + 1 := by
  rw [UInt64.toNat_add]
  exact Nat.mod_le _ _

theorem toNat_sub_one_le {value : UInt64} (hne : value ≠ 0) :
    (value - 1).toNat ≤ value.toNat := by
  have hpositive : (1 : UInt64) ≤ value :=
    UInt64.le_iff_toNat_le.mpr
      (UInt64.lt_iff_toNat_lt.mp (UInt64.pos_iff_ne_zero.mpr hne))
  rw [UInt64.toNat_sub_of_le value 1 hpositive]
  exact Nat.sub_le _ _

/-- A call that goes on keeps the bound, if it does not subtract from zero. -/
theorem Invariant.goOn (hinvariant : counter.Invariant state) {index : ℕ}
    {call : Call Operation Point} (hcall : state.calls[index]? = some call)
    {choice : Choice} {shared : Shared} {point : Point}
    (hpoint : program.step state.shared call.operation call.point choice =
      some (shared, point))
    (hfinds : counter.subtracting call.operation call.point = true →
      counter.value state.shared ≠ 0) :
    counter.Invariant (state.goOn index call.operation shared point) := by
  have hpending := counter.pending_goOn hcall shared point
  have hassigned := counter.assigned_le_largest hcall
  have hshared : (state.goOn index call.operation shared point).shared =
      shared := rfl
  obtain ⟨hbound, hfewer⟩ := hinvariant
  suffices hboth : (counter.value shared).toNat + counter.pending
        (state.goOn index call.operation shared point) ≤
          counter.increasing state + counter.largest state ∧
      counter.pending (state.goOn index call.operation shared point) ≤
        counter.increasing state by
    constructor
    · rw [counter.increasing_goOn hcall, counter.largest_goOn hcall, hshared]
      exact hboth.1
    · rw [counter.increasing_goOn hcall]
      exact hboth.2
  cases counter.effect hpoint with
  | keeps hvalue hadding =>
      rw [hadding] at hpending
      rw [hvalue]
      omega
  | adds hvalue hadding hdone =>
      have hnext := toNat_add_one_le (counter.value state.shared)
      rw [hadding, hdone, Bool.toNat_true, Bool.toNat_false] at hpending
      rw [hvalue]
      omega
  | subtracts hvalue hadding hsubtracting =>
      have hnext := toNat_sub_one_le (hfinds hsubtracting)
      rw [hadding] at hpending
      rw [hvalue]
      omega
  | stores hvalue hadding =>
      rw [hadding] at hpending
      omega

theorem Invariant.step (hinvariant : counter.Invariant state)
    {action : Action Operation Choice} (hfinds : counter.Finds state action)
    (hstep : (program.machine start).step state action = some next) :
    counter.Invariant next := by
  rcases step_cases hstep with ⟨operation, -, rfl⟩ |
    ⟨index, choice, call, shared, point, haction, hcall, hpoint, rfl⟩
  · exact hinvariant.begin operation
  · exact hinvariant.goOn hcall hpoint (hfinds index choice call haction hcall)

/-- As long as no call subtracts from zero the counter is bounded. -/
theorem throughout_bounded (hzero : counter.value start = 0)
    {actions : List (Action Operation Choice)}
    (halong : (program.machine start).Along counter.Finds
      (program.machine start).initial actions) :
    (program.machine start).Throughout counter.Bounded
      (program.machine start).initial actions :=
  Machine.throughout_of_along
    (fun _ _ _ hinvariant hfinds hstep => hinvariant.step hfinds hstep)
    (fun _ hinvariant => hinvariant.bounded) (invariant_initial hzero) halong

theorem Positive.begin (hpositive : counter.Positive state)
    (operation : Operation) :
    counter.Positive (program.begin state operation) := by
  intro call hmem hsubtracting
  rcases List.mem_append.mp hmem with hbefore | hnew
  · exact hpositive call hbefore hsubtracting
  · rw [List.mem_singleton.mp hnew, counter.subtracting_enter] at hsubtracting
    cases hsubtracting

theorem Positive.step (hpositive : counter.Positive state)
    {action : Action Operation Choice}
    (hundisturbed : counter.Undisturbed state action)
    (hstep : (program.machine start).step state action = some next) :
    counter.Positive next := by
  rcases step_cases hstep with ⟨operation, -, rfl⟩ |
    ⟨index, choice, call, shared, point, haction, hcall, hpoint, rfl⟩
  · exact hpositive.begin operation
  · intro other hmem hsubtracting
    rcases eq_or_exists_of_mem_goOn hmem with rfl | ⟨place, hplace, hother⟩
    · exact counter.tested hpoint hsubtracting
    · -- another call is about to subtract, so this one does not lower the counter
      have hkept : ¬ counter.value shared < counter.value state.shared := by
        intro hlower
        have hnot := hundisturbed index choice call shared point haction hcall
          hpoint hlower place other hplace hother
        rw [hsubtracting] at hnot
        cases hnot
      have hbefore := hpositive other (List.mem_of_getElem? hother) hsubtracting
      intro hzero
      refine hkept ?_
      rw [show counter.value shared = 0 from hzero]
      exact UInt64.pos_iff_ne_zero.mpr hbefore

/-- What a call has found above zero is so when it subtracts, if nothing has
lowered it in between. -/
theorem finds_of_undisturbed {actions : List (Action Operation Choice)}
    (halong : (program.machine start).Along counter.Undisturbed
      (program.machine start).initial actions) :
    (program.machine start).Along counter.Finds
      (program.machine start).initial actions := by
  refine Machine.Along.of_invariant
    (fun _ _ _ hpositive hundisturbed hstep => hpositive.step hundisturbed hstep)
    ?_ (positive_initial counter start) halong
  rintro state action hpositive - index choice call - hcall
  exact hpositive call (List.mem_of_getElem? hcall)

/-- A step that subtracts from zero passes the bound, where that is low. -/
theorem finds_of_bounded {action : Action Operation Choice}
    (hfew : counter.Few state action)
    (hnext : ∀ next, (program.machine start).step state action = some next →
      counter.Bounded next) :
    counter.Finds state action := by
  rintro index choice call rfl hcall hsubtracting hzero
  obtain ⟨⟨shared, point⟩, hpoint⟩ := Option.isSome_iff_exists.mp
    (counter.enabled state.shared call.operation call.point choice hsubtracting)
  have hstep : (program.machine start).step state (.step index choice) =
      some (state.goOn index call.operation shared point) := by
    simp [Program.machine, hcall, hpoint]
  have hbounded := hnext _ hstep
  rw [Bounded, counter.increasing_goOn hcall,
    counter.largest_goOn hcall] at hbounded
  cases counter.effect hpoint with
  | subtracts hvalue =>
      have hwrapped : (counter.value shared).toNat = UInt64.size - 1 := by
        rw [hvalue, hzero]
        decide
      have hshared : (counter.value
          (state.goOn index call.operation shared point).shared).toNat =
            UInt64.size - 1 := hwrapped
      rw [Few] at hfew
      omega
  | keeps _ _ hnot | adds _ _ _ hnot | stores _ _ hnot =>
      rw [hsubtracting] at hnot
      cases hnot

end Counter

end Datafeed.Interleaving
