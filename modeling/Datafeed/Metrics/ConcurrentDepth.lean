import Datafeed.Core.Interleaving
import Datafeed.Metrics.Monitors

/-!
# Depths under concurrent calls

`QueueMonitor` has no mutex: its depths and their maxima are atomics.  A decrement
loads the depth, tests it, and subtracts in a step of its own; an increment or an
assignment changes the depth first and then raises the maximum in a loop of weak
exchanges.  The model takes each atomic access as one step, and the tests between
them with the access before.  The calls are the three operations on each depth;
`reset` and the other members are left out.
-/

namespace Datafeed.QueueMonitor

open Interleaving (Program Counter)

inductive Queue
  | incoming
  | outgoing
  | serialization
  deriving DecidableEq

/-- The nine operations on the depths, three for each queue. -/
inductive DepthCall
  | increment (queue : Queue)
  | decrement (queue : Queue)
  | setDepth (queue : Queue) (depth : UInt64)
  deriving DecidableEq

/-- The operation of the monitor that is called. -/
def DepthCall.operation : DepthCall → Operation
  | .increment .incoming => .incrementIncoming
  | .increment .outgoing => .incrementOutgoing
  | .increment .serialization => .incrementSerialization
  | .decrement .incoming => .decrementIncoming
  | .decrement .outgoing => .decrementOutgoing
  | .decrement .serialization => .decrementSerialization
  | .setDepth .incoming depth => .setIncomingDepth depth
  | .setDepth .outgoing depth => .setOutgoingDepth depth
  | .setDepth .serialization depth => .setSerializationDepth depth

def DepthCall.queue : DepthCall → Queue
  | .increment queue => queue
  | .decrement queue => queue
  | .setDepth queue _ => queue

/-- Where a call stands. -/
inductive DepthPoint
  | start
  /-- A decrement that has loaded a depth above zero. -/
  | subtract
  /-- Before the load of the maximum that `value` may raise. -/
  | loadMax (value : UInt64)
  /-- In the loop, with `max` as it was last loaded. -/
  | exchange (value max : UInt64)
  | returned
  deriving DecidableEq

/-- The depths of the three queues with their maxima. -/
abbrev Depths := Queue → QueueDepth

/-- The test of the loop, `while (value > max)`. -/
def whileAbove (value max : UInt64) : DepthPoint :=
  if value > max then .exchange value max else .returned

def setDepth (queue : Queue) (depth : UInt64) (depths : Depths) : Depths :=
  Function.update depths queue { depths queue with depth }

def setMax (queue : Queue) (max : UInt64) (depths : Depths) : Depths :=
  Function.update depths queue { depths queue with max }

/-- The first access of a call. -/
def firstStep (depths : Depths) : DepthCall → Depths × DepthPoint
  | .increment queue =>
      (setDepth queue ((depths queue).depth + 1) depths,
        .loadMax ((depths queue).depth + 1))
  | .decrement queue =>
      (depths, if (depths queue).depth > 0 then .subtract else .returned)
  | .setDepth queue depth => (setDepth queue depth depths, .loadMax depth)

/-- The next access of a call; the weak exchange may fail spuriously.  Where it
succeeds, `max` in the loop stays as it was, where it fails it is loaded anew. -/
def depthStep (depths : Depths) (call : DepthCall) :
    DepthPoint → Bool → Option (Depths × DepthPoint)
  | .start, _ => some (firstStep depths call)
  | .subtract, _ =>
      some (setDepth call.queue ((depths call.queue).depth - 1) depths, .returned)
  | .loadMax value, _ =>
      some (depths, whileAbove value (depths call.queue).max)
  | .exchange value max, spurious =>
      if (depths call.queue).max = max ∧ spurious = false then
        some (setMax call.queue value depths, whileAbove value max)
      else some (depths, whileAbove value (depths call.queue).max)
  | .returned, _ => none

def depthProgram : Program Depths DepthCall DepthPoint Bool where
  enter _ := .start
  step := depthStep

abbrev DepthState := Interleaving.State Depths DepthCall DepthPoint

/-- Any number of calls on the depths of a new monitor. -/
def depths : Machine DepthState (Interleaving.Action DepthCall Bool) :=
  depthProgram.machine fun _ => {}

/-! ## A call without another in between -/

/-- What the monitor's operation does when it is one step. -/
def DepthCall.apply (depths : Depths) : DepthCall → Depths
  | .increment queue =>
      Function.update depths queue (depths queue).increment
  | .decrement queue =>
      Function.update depths queue (depths queue).decrement
  | .setDepth queue depth =>
      Function.update depths queue ((depths queue).setDepth depth)

def depthsOf (monitor : QueueMonitor) : Depths
  | .incoming => monitor.incoming
  | .outgoing => monitor.outgoing
  | .serialization => monitor.serialization

theorem depthsOf_apply (monitor : QueueMonitor) (call : DepthCall) :
    depthsOf (monitor.apply call.operation) = call.apply (depthsOf monitor) := by
  funext queue
  rcases call with queue | queue | ⟨queue, depth⟩ <;> cases queue <;>
    cases ‹Queue› <;> rfl

/-- The loop ends with the maximum raised. -/
theorem alone_loadMax (depths : Depths) (call : DepthCall) (value : UInt64) :
    depthProgram.Alone call depths (.loadMax value)
      (Function.update depths call.queue
        ((depths call.queue).raise value)) .returned := by
  by_cases habove : value > (depths call.queue).max
  · have hexchange : whileAbove value (depths call.queue).max =
        .exchange value (depths call.queue).max := if_pos habove
    have hraise : (depths call.queue).raise value =
        { depths call.queue with max := value } := if_pos habove
    rw [hraise]
    -- loaded, exchanged, and once more with the value that was loaded
    refine .goesOn false rfl ?_
    rw [hexchange]
    refine .goesOn false (if_pos ⟨rfl, rfl⟩) ?_
    rw [hexchange]
    have hloaded : (setMax call.queue value depths call.queue).max = value := by
      rw [setMax, Function.update_self]
    refine .goesOn false (if_neg ?_) ?_
    · rw [hloaded]
      exact fun hsame => UInt64.ne_of_lt habove hsame.1.symm
    · rw [hloaded, show whileAbove value value = .returned from
        if_neg (UInt64.lt_irrefl value)]
      exact .here _ _
  · have hreturned : whileAbove value (depths call.queue).max = .returned :=
      if_neg habove
    have hraise : (depths call.queue).raise value = depths call.queue :=
      if_neg habove
    rw [hraise, Function.update_eq_self]
    refine .goesOn false rfl ?_
    rw [hreturned]
    exact .here _ _

/-- A call that no other one comes between does what the operation does. -/
theorem alone_apply (depths : Depths) (call : DepthCall) :
    depthProgram.Alone call depths .start (call.apply depths) .returned := by
  cases call with
  | increment queue =>
      rw [DepthCall.apply, QueueDepth.increment]
      refine .goesOn false rfl ?_
      have hrest := alone_loadMax (setDepth queue ((depths queue).depth + 1) depths)
        (.increment queue) ((depths queue).depth + 1)
      simpa only [DepthCall.queue, setDepth, Function.update_self,
        Function.update_idem] using hrest
  | decrement queue =>
      by_cases hpositive : (depths queue).depth > 0
      · have hdecrement : (depths queue).decrement =
            { depths queue with depth := (depths queue).depth - 1 } :=
          if_pos hpositive
        rw [DepthCall.apply, hdecrement]
        refine .goesOn false rfl ?_
        rw [if_pos hpositive]
        exact .goesOn false rfl (.here _ _)
      · have hdecrement : (depths queue).decrement = depths queue :=
          if_neg hpositive
        rw [DepthCall.apply, hdecrement, Function.update_eq_self]
        refine .goesOn false rfl ?_
        rw [if_neg hpositive]
        exact .here _ _
  | setDepth queue depth =>
      rw [DepthCall.apply, QueueDepth.setDepth]
      refine .goesOn false rfl ?_
      have hrest := alone_loadMax (setDepth queue depth depths)
        (.setDepth queue depth) depth
      simpa only [DepthCall.queue, setDepth, Function.update_self,
        Function.update_idem] using hrest

/-- So it does from any state of the calls. -/
theorem exists_run_apply (monitor : QueueMonitor)
    (calls : List (Interleaving.Call DepthCall DepthPoint)) (call : DepthCall) :
    ∃ actions, depths.run ⟨depthsOf monitor, calls⟩ actions =
      some ⟨depthsOf (monitor.apply call.operation),
        calls ++ [⟨call, .returned⟩]⟩ := by
  obtain ⟨choices, hrun⟩ := (alone_apply (depthsOf monitor) call).exists_run calls
  rw [← depthsOf_apply] at hrun
  exact ⟨.call call :: choices.map (.step calls.length), hrun⟩

/-! ## What an access does -/

/-- From the depth of its own queue before it and the point of the call to the
depth after it and the next point. -/
inductive Access (before : QueueDepth) :
    DepthCall → DepthPoint → QueueDepth → DepthPoint → Prop
  | add (queue : Queue) :
      Access before (.increment queue) .start
        { before with depth := before.depth + 1 } (.loadMax (before.depth + 1))
  | load (queue : Queue) :
      Access before (.decrement queue) .start before
        (if before.depth > 0 then .subtract else .returned)
  | store (queue : Queue) (depth : UInt64) :
      Access before (.setDepth queue depth) .start { before with depth }
        (.loadMax depth)
  | subtract (call : DepthCall) :
      Access before call .subtract { before with depth := before.depth - 1 }
        .returned
  | loadMax (call : DepthCall) (value : UInt64) :
      Access before call (.loadMax value) before (whileAbove value before.max)
  | exchange (call : DepthCall) (value : UInt64) :
      Access before call (.exchange value before.max) { before with max := value }
        (whileAbove value before.max)
  | reload (call : DepthCall) (value max : UInt64) :
      Access before call (.exchange value max) before
        (whileAbove value before.max)

/-- An access is to the depth of one queue. -/
theorem access_of_depthStep {depths next : Depths} {call : DepthCall}
    {point pointNext : DepthPoint} {spurious : Bool}
    (hstep : depthStep depths call point spurious = some (next, pointNext)) :
    Access (depths call.queue) call point (next call.queue) pointNext ∧
      ∀ other, other ≠ call.queue → next other = depths other := by
  have hkept : ∀ other, other ≠ call.queue → depths other = depths other :=
    fun _ _ => rfl
  have hupdated : ∀ queue : QueueDepth, ∀ other, other ≠ call.queue →
      Function.update depths call.queue queue other = depths other :=
    fun queue other hother => Function.update_of_ne hother queue depths
  cases point with
  | start =>
      cases call with
      | increment queue =>
          obtain ⟨rfl, rfl⟩ := Option.some.inj hstep
          refine ⟨?_, hupdated _⟩
          simpa only [DepthCall.queue, setDepth, Function.update_self]
            using Access.add queue
      | decrement queue =>
          obtain ⟨rfl, rfl⟩ := Option.some.inj hstep
          exact ⟨.load queue, hkept⟩
      | setDepth queue depth =>
          obtain ⟨rfl, rfl⟩ := Option.some.inj hstep
          refine ⟨?_, hupdated _⟩
          simpa only [DepthCall.queue, setDepth, Function.update_self]
            using Access.store queue depth
  | subtract =>
      obtain ⟨rfl, rfl⟩ := Option.some.inj hstep
      refine ⟨?_, hupdated _⟩
      simpa only [setDepth, Function.update_self] using Access.subtract call
  | loadMax value =>
      obtain ⟨rfl, rfl⟩ := Option.some.inj hstep
      exact ⟨.loadMax call value, hkept⟩
  | exchange value max =>
      rw [depthStep] at hstep
      split at hstep
      · rename_i hsucceeds
        obtain ⟨rfl, rfl⟩ := Option.some.inj hstep
        obtain ⟨rfl, -⟩ := hsucceeds
        refine ⟨?_, hupdated _⟩
        simpa only [setMax, Function.update_self] using Access.exchange call value
      · obtain ⟨rfl, rfl⟩ := Option.some.inj hstep
        exact ⟨.reload call value max, hkept⟩
  | returned => cases hstep

theorem whileAbove_ne (value max : UInt64) :
    whileAbove value max ≠ .start ∧ whileAbove value max ≠ .subtract := by
  rw [whileAbove]
  split <;> simp

/-- A decrement goes on to subtract from a depth above zero. -/
theorem Access.tested {before after : QueueDepth} {call : DepthCall}
    {point : DepthPoint} (haccess : Access before call point after .subtract) :
    after.depth ≠ 0 := by
  generalize hnext : DepthPoint.subtract = pointNext at haccess
  cases haccess with
  | load queue =>
      split at hnext
      · exact UInt64.pos_iff_ne_zero.mp ‹_›
      · cases hnext
  | add queue | store queue depth | subtract call => cases hnext
  | loadMax call value | exchange call value | reload call value max =>
      exact absurd hnext.symm (whileAbove_ne _ _).2

/-- The depth of a queue, as the calls count it. -/
def depthCounter (queue : Queue) : Counter depthProgram where
  value depths := (depths queue).depth
  increments call := call = .increment queue
  assigned
    | .setDepth other depth => if other = queue then depth.toNat else 0
    | _ => 0
  adding call point := call = .increment queue ∧ point = .start
  subtracting call point := call.queue = queue ∧ point = .subtract
  adding_enter call := by simp [depthProgram]
  effect {depths call point spurious next pointNext} hstep := by
    obtain ⟨haccess, hother⟩ := access_of_depthStep hstep
    by_cases hqueue : call.queue = queue
    · subst hqueue
      generalize depths call.queue = before, next call.queue = after at haccess
      cases haccess with
      | add queue => exact .adds rfl (by simp [DepthCall.queue]) (by simp) (by simp)
      | load queue => exact .keeps rfl (by simp) (by simp)
      | store queue depth => exact .stores (by simp [DepthCall.queue]) (by simp) (by simp)
      | subtract call => exact .subtracts rfl (by simp) (by simp)
      | loadMax call value | exchange call value | reload call value max =>
          exact .keeps rfl (by simp [whileAbove_ne]) (by simp)
    · have hnot : call ≠ .increment queue := by
        rintro rfl
        exact hqueue rfl
      refine .keeps ?_ ?_ ?_
      · rw [hother queue (Ne.symm hqueue)]
      · simp [hnot]
      · simp [hqueue]
  enabled depths call point spurious hsubtracting := by
    obtain ⟨-, rfl⟩ := of_decide_eq_true hsubtracting
    rfl
  subtracting_enter call := by simp [depthProgram]
  tested {depths call point spurious next pointNext} hstep hsubtracting := by
    obtain ⟨rfl, rfl⟩ := of_decide_eq_true hsubtracting
    exact (access_of_depthStep hstep).1.tested

/-! ## The maximum -/

/-- The call goes on to raise the maximum to a value not below the depth. -/
def DepthPoint.Raises (depth : UInt64) : DepthPoint → Prop
  | .loadMax value => depth ≤ value
  | .exchange value _ => depth ≤ value
  | .start | .subtract | .returned => False

/-- In the loop the value is above the maximum that was loaded. -/
def DepthPoint.Above : DepthPoint → Prop
  | .exchange value max => max < value
  | .start | .subtract | .loadMax _ | .returned => True

theorem above_whileAbove (value max : UInt64) : (whileAbove value max).Above := by
  rw [whileAbove]
  split
  · assumption
  · trivial

theorem Access.above {before after : QueueDepth} {call : DepthCall}
    {point pointNext : DepthPoint}
    (haccess : Access before call point after pointNext) : pointNext.Above := by
  cases haccess with
  | add queue | store queue depth | subtract call => trivial
  | load queue =>
      split <;> trivial
  | loadMax call value | exchange call value | reload call value max =>
      exact above_whileAbove _ _

theorem DepthPoint.Raises.mono {depth lower : UInt64} {point : DepthPoint}
    (hraises : point.Raises depth) (hle : lower ≤ depth) :
    point.Raises lower := by
  cases point with
  | loadMax value | exchange value max => exact UInt64.le_trans hle hraises
  | start | subtract | returned => exact hraises

/-- A loop for a value that is not below the depth ends with a maximum that is
not below it either. -/
theorem covered_whileAbove {depth value max : UInt64} (hraises : depth ≤ value) :
    depth ≤ max ∨ (whileAbove value max).Raises depth := by
  rw [whileAbove]
  split
  · exact Or.inr hraises
  · rename_i hnot
    exact Or.inl (UInt64.le_trans hraises (UInt64.not_lt.mp hnot))

/-- An access leaves the depth covered, by the maximum or by its call, unless it
neither raises the depth nor lowers the maximum, and its call did not cover the
depth. -/
theorem Access.covered {before after : QueueDepth} {call : DepthCall}
    {point pointNext : DepthPoint}
    (haccess : Access before call point after pointNext) (habove : point.Above)
    (hfinds : point = .subtract → before.depth ≠ 0) :
    (after.depth ≤ after.max ∨ pointNext.Raises after.depth) ∨
      (after.depth ≤ before.depth ∧ before.max ≤ after.max ∧
        ¬ point.Raises before.depth) := by
  cases haccess with
  | add queue | store queue depth => exact Or.inl (Or.inr (UInt64.le_refl _))
  | load queue => exact Or.inr ⟨UInt64.le_refl _, UInt64.le_refl _, id⟩
  | subtract call =>
      have hlower : before.depth - 1 ≤ before.depth :=
        UInt64.le_iff_toNat_le.mpr
          (Interleaving.Counter.toNat_sub_one_le (hfinds rfl))
      exact Or.inr ⟨hlower, UInt64.le_refl _, id⟩
  | loadMax call value | reload call value max =>
      by_cases hraises : before.depth ≤ value
      · exact Or.inl (covered_whileAbove hraises)
      · exact Or.inr ⟨UInt64.le_refl _, UInt64.le_refl _, hraises⟩
  | exchange call value =>
      by_cases hraises : before.depth ≤ value
      · exact Or.inl (Or.inl hraises)
      · exact Or.inr ⟨UInt64.le_refl _, UInt64.le_of_lt habove, hraises⟩

/-- The maximum is not below the depth, or a call is about to raise it. -/
structure Covered (queue : Queue) (state : DepthState) : Prop where
  above : ∀ call ∈ state.calls, call.point.Above
  covered : (state.shared queue).depth ≤ (state.shared queue).max ∨
    ∃ call ∈ state.calls, call.operation.queue = queue ∧
      call.point.Raises (state.shared queue).depth

theorem covered_initial (queue : Queue) : Covered queue depths.initial where
  above _ hmem := absurd hmem List.not_mem_nil
  covered := Or.inl (UInt64.le_refl 0)

theorem Covered.begin {queue : Queue} {state : DepthState}
    (hcovered : Covered queue state) (call : DepthCall) :
    Covered queue (depthProgram.begin state call) where
  above other hmem := by
    rcases List.mem_append.mp hmem with hbefore | hnew
    · exact hcovered.above other hbefore
    · rw [List.mem_singleton.mp hnew]
      trivial
  covered := by
    rcases hcovered.covered with hmax | ⟨other, hmem, hraises⟩
    · exact Or.inl hmax
    · exact Or.inr ⟨other, List.mem_append_left _ hmem, hraises⟩

/-- After a step its call covers the depth of a queue, or what covered it before
still does. -/
theorem covered_of_depthStep {depths next : Depths} {call : DepthCall}
    {point pointNext : DepthPoint} {spurious : Bool}
    (hstep : depthStep depths call point spurious = some (next, pointNext))
    (habove : point.Above) {queue : Queue}
    (hfinds : call.queue = queue → point = .subtract →
      (depths queue).depth ≠ 0) :
    ((next queue).depth ≤ (next queue).max ∨
        call.queue = queue ∧ pointNext.Raises (next queue).depth) ∨
      ((next queue).depth ≤ (depths queue).depth ∧
        (depths queue).max ≤ (next queue).max ∧
        ¬ (call.queue = queue ∧ point.Raises (depths queue).depth)) := by
  obtain ⟨haccess, hother⟩ := access_of_depthStep hstep
  by_cases hqueue : call.queue = queue
  · subst hqueue
    simpa only [true_and] using haccess.covered habove (hfinds rfl)
  · rw [hother queue (Ne.symm hqueue)]
    exact Or.inr ⟨UInt64.le_refl _, UInt64.le_refl _, fun h => hqueue h.1⟩

theorem Covered.goOn {queue : Queue} {state : DepthState}
    (hcovered : Covered queue state) {index : ℕ}
    {call : Interleaving.Call DepthCall DepthPoint}
    (hcall : state.calls[index]? = some call) {spurious : Bool} {next : Depths}
    {point : DepthPoint}
    (hstep : depthStep state.shared call.operation call.point spurious =
      some (next, point))
    (hfinds : call.operation.queue = queue → call.point = .subtract →
      (state.shared queue).depth ≠ 0) :
    Covered queue (state.goOn index call.operation next point) := by
  have habove : call.point.Above :=
    hcovered.above call (List.mem_of_getElem? hcall)
  constructor
  · intro other hmem
    rcases Interleaving.eq_or_exists_of_mem_goOn hmem with rfl |
      ⟨place, -, hplace⟩
    · exact (access_of_depthStep hstep).1.above
    · exact hcovered.above other (List.mem_of_getElem? hplace)
  · rcases covered_of_depthStep hstep habove hfinds with
      (hmax | hraises) | ⟨hdepth, hmax, hnot⟩
    · exact Or.inl hmax
    · exact Or.inr ⟨_, Interleaving.mem_goOn hcall next point, hraises⟩
    · rcases hcovered.covered with hbelow | ⟨other, hmem, hqueue, hraises⟩
      · exact Or.inl (UInt64.le_trans hdepth (UInt64.le_trans hbelow hmax))
      · -- the call that covered it is not the one that went on
        have hne : other ≠ call := by
          rintro rfl
          exact hnot ⟨hqueue, hraises⟩
        exact Or.inr ⟨other,
          Interleaving.mem_goOn_of_ne hcall hmem hne next point, hqueue,
          hraises.mono hdepth⟩

/-! ## Throughout a run -/

/-- What is expected of the depth of a queue: it has not wrapped, and while no
call on it is under way the maximum is not below it. -/
structure Right (queue : Queue) (state : DepthState) : Prop where
  bounded : (depthCounter queue).Bounded state
  maximum : (∀ call ∈ state.calls, call.operation.queue = queue →
      call.point = .returned) →
    (state.shared queue).depth ≤ (state.shared queue).max

theorem Covered.maximum {queue : Queue} {state : DepthState}
    (hcovered : Covered queue state)
    (hreturned : ∀ call ∈ state.calls, call.operation.queue = queue →
      call.point = .returned) :
    (state.shared queue).depth ≤ (state.shared queue).max := by
  rcases hcovered.covered with hmax | ⟨call, hmem, hqueue, hraises⟩
  · exact hmax
  · rw [hreturned call hmem hqueue] at hraises
    exact hraises.elim

theorem Covered.step {queue : Queue} {state next : DepthState}
    {action : Interleaving.Action DepthCall Bool} (hcovered : Covered queue state)
    (hfinds : (depthCounter queue).Finds state action)
    (hstep : depths.step state action = some next) : Covered queue next := by
  rcases Interleaving.step_cases hstep with ⟨call, -, rfl⟩ |
    ⟨index, spurious, call, shared, point, haction, hcall, hpoint, rfl⟩
  · exact hcovered.begin call
  · refine hcovered.goOn hcall hpoint fun hqueue hsubtract => ?_
    exact hfinds index spurious call haction hcall
      (decide_eq_true ⟨hqueue, hsubtract⟩)

/-- In a run in which every decrement that has found a depth above zero finds it
so again when it subtracts, the depth is right throughout. -/
theorem throughout_right {queue : Queue}
    {actions : List (Interleaving.Action DepthCall Bool)}
    (halong : depths.Along (depthCounter queue).Finds depths.initial actions) :
    depths.Throughout (Right queue) depths.initial actions := by
  have hpreserve : ∀ state action next,
      (depthCounter queue).Invariant state ∧ Covered queue state →
        (depthCounter queue).Finds state action →
        depths.step state action = some next →
          (depthCounter queue).Invariant next ∧ Covered queue next :=
    fun state action next hinvariant hfinds hstep =>
      ⟨hinvariant.1.step hfinds hstep, hinvariant.2.step hfinds hstep⟩
  have hright : ∀ state,
      (depthCounter queue).Invariant state ∧ Covered queue state →
        Right queue state :=
    fun state hinvariant =>
      ⟨hinvariant.1.bounded, hinvariant.2.maximum⟩
  exact Machine.throughout_of_along hpreserve hright
    ⟨Counter.invariant_initial rfl, covered_initial queue⟩ halong

/-- So it is if nothing lowers the depth while a decrement is about to subtract. -/
theorem throughout_right_of_undisturbed {queue : Queue}
    {actions : List (Interleaving.Action DepthCall Bool)}
    (halong : depths.Along (depthCounter queue).Undisturbed depths.initial
      actions) :
    depths.Throughout (Right queue) depths.initial actions :=
  throughout_right (Counter.finds_of_undisturbed halong)

/-- A decrement that subtracts from a depth of zero makes it pass the bound. -/
theorem along_finds {queue : Queue}
    {actions : List (Interleaving.Action DepthCall Bool)}
    (hfew : depths.Along (depthCounter queue).Few depths.initial actions)
    (hright : depths.Throughout (Right queue) depths.initial actions) :
    depths.Along (depthCounter queue).Finds depths.initial actions := by
  refine Machine.along_of_throughout ?_ hfew hright
  intro state action _ hfew hnext
  exact Counter.finds_of_bounded hfew fun next hstep =>
    (hnext next hstep).bounded

end Datafeed.QueueMonitor
