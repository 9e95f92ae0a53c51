import Datafeed.Core.Worker
import Datafeed.Metrics.MetricAggregator
import Mathlib.Data.Fintype.Basic

/-!
# The snapshot scheduler

The loop of `SnapshotScheduler` takes a snapshot on every tick that is not
paused and gives it to the registered callbacks, all of them under
`callbacks_mutex_`.  Other threads pause and resume the loop and register or
clear callbacks; the latter wait while the loop holds the mutex.  What the loop
sleeps between two ticks only delays the next test of `running_`.
-/

namespace Datafeed.SnapshotScheduler

open MetricAggregator

variable {Callback : Type*}

/-- A tick: its snapshot and the callbacks found when it took the mutex. -/
structure Tick (Callback : Type*) where
  snapshot : FeedMetricsSnapshot
  callbacks : List (Option Callback)

/-- The members of the scheduler; an empty `std::function` is `none`.  `locked`
says that the loop holds `callbacks_mutex_`; the last two fields record the
ticks and the calls they made. -/
structure Scheduler (Callback : Type*) where
  paused : Bool := false
  callbacks : List (Option Callback) := []
  locked : Bool := false
  ticks : List (Tick Callback) := []
  calls : List (Callback × FeedMetricsSnapshot) := []

/-- Where the worker stands in `run`. -/
inductive Point (Callback : Type*)
  | testRunning
  | testPaused
  | getSnapshot
  | lock (snapshot : FeedMetricsSnapshot)
  /-- In the loop over `callbacks_`, with these still to come. -/
  | call (snapshot : FeedMetricsSnapshot) (remaining : List (Option Callback))

inductive Operation (Callback : Type*)
  | pause
  | resume
  | registerCallback (callback : Option Callback)
  | clearCallbacks

/-- One step of `run`; the input is what the collector would return. -/
def workerStep (running : Bool) (point : Point Callback)
    (reading : FeedMetricsSnapshot) (scheduler : Scheduler Callback) :
    Option (Option (Point Callback) × Scheduler Callback) :=
  match point with
  | .testRunning =>
      some (if running then some .testPaused else none, scheduler)
  | .testPaused =>
      some (some (if scheduler.paused then .testRunning else .getSnapshot),
        scheduler)
  | .getSnapshot => some (some (.lock reading), scheduler)
  | .lock snapshot =>
      some (some (.call snapshot scheduler.callbacks),
        { scheduler with
          locked := true
          ticks := scheduler.ticks ++ [⟨snapshot, scheduler.callbacks⟩] })
  | .call snapshot (some callback :: remaining) =>
      some (some (.call snapshot remaining),
        { scheduler with
          calls := scheduler.calls ++ [(callback, snapshot)] })
  | .call snapshot (none :: remaining) =>
      some (some (.call snapshot remaining), scheduler)
  | .call _ [] => some (some .testRunning, { scheduler with locked := false })

def operate (operation : Operation Callback) (scheduler : Scheduler Callback) :
    Option (Scheduler Callback) :=
  match operation with
  | .pause => some { scheduler with paused := true }
  | .resume => some { scheduler with paused := false }
  | .registerCallback callback =>
      if scheduler.locked then none
      else
        some { scheduler with callbacks := scheduler.callbacks ++ [callback] }
  | .clearCallbacks =>
      if scheduler.locked then none else some { scheduler with callbacks := [] }

def program : Worker.Program (Point Callback) FeedMetricsSnapshot
    (Operation Callback) (Scheduler Callback) where
  entry := .testRunning
  prepare _ scheduler := some { scheduler with paused := false }
  step := workerStep
  operate := operate

variable {Caller : Type*} [DecidableEq Caller]

/-- The scheduler with its threads. -/
def threads : Machine
    (Worker.State Caller (Point Callback) (Scheduler Callback))
    (Worker.Action Caller FeedMetricsSnapshot (Operation Callback)) :=
  Worker.machine program {}

/-! ## The calls that a tick makes -/

/-- Each callback that is not empty, in the order of registration. -/
def Tick.calls (tick : Tick Callback) :
    List (Callback × FeedMetricsSnapshot) :=
  tick.callbacks.filterMap fun callback =>
    callback.map fun called => (called, tick.snapshot)

/-- The calls that the tick under way has still to make. -/
def owed : Option (Point Callback) → List (Callback × FeedMetricsSnapshot)
  | some (.call snapshot remaining) => Tick.calls ⟨snapshot, remaining⟩
  | _ => []

/-- Whether the worker is between `lock` and the end of the tick. -/
def Calling : Option (Point Callback) → Prop
  | some (.call _ _) => True
  | _ => False

/-- The calls made so far are those of the ticks, up to the ones still owed;
and the callbacks do not change during a tick. -/
structure CallsEach (point : Option (Point Callback))
    (scheduler : Scheduler Callback) : Prop where
  calls : scheduler.calls ++ owed point =
    scheduler.ticks.flatMap Tick.calls
  locked : scheduler.locked = true ↔ Calling point
  kept : Calling point →
    (scheduler.ticks.getLast?.map Tick.callbacks) = some scheduler.callbacks

theorem callsEach_step {running : Bool} {point : Point Callback}
    {reading : FeedMetricsSnapshot} {scheduler : Scheduler Callback}
    {result : Option (Point Callback) × Scheduler Callback}
    (hcalls : CallsEach (some point) scheduler)
    (hstep : workerStep running point reading scheduler = some result) :
    CallsEach result.1 result.2 := by
  obtain ⟨hmade, hlocked, hkept⟩ := hcalls
  cases point with
  | testRunning =>
      obtain rfl := Option.some.inj hstep
      cases running with
      | true => exact ⟨hmade, hlocked, hkept⟩
      | false => exact ⟨hmade, hlocked, hkept⟩
  | testPaused =>
      obtain rfl := Option.some.inj hstep
      cases hpaused : scheduler.paused with
      | true => exact ⟨hmade, hlocked, hkept⟩
      | false => exact ⟨hmade, hlocked, hkept⟩
  | getSnapshot =>
      obtain rfl := Option.some.inj hstep
      exact ⟨hmade, hlocked, hkept⟩
  | lock snapshot =>
      obtain rfl := Option.some.inj hstep
      refine ⟨?_, by simp [Calling], fun _ => by simp⟩
      have hbefore : scheduler.calls =
          scheduler.ticks.flatMap Tick.calls := by simpa [owed] using hmade
      simp [owed, hbefore]
  | call snapshot remaining =>
      cases remaining with
      | nil =>
          obtain rfl := Option.some.inj hstep
          refine ⟨?_, by simp [Calling], nofun⟩
          simpa [owed, Tick.calls] using hmade
      | cons callback remaining =>
          cases callback with
          | none =>
              obtain rfl := Option.some.inj hstep
              exact ⟨hmade, hlocked, hkept⟩
          | some called =>
              obtain rfl := Option.some.inj hstep
              refine ⟨?_, hlocked, hkept⟩
              simpa [owed, Tick.calls] using hmade

theorem callsEach_operate {point : Option (Point Callback)}
    {operation : Operation Callback} {before after : Scheduler Callback}
    (hcalls : CallsEach point before)
    (hoperate : operate operation before = some after) :
    CallsEach point after := by
  obtain ⟨hmade, hlocked, hkept⟩ := hcalls
  cases operation with
  | pause =>
      obtain rfl := Option.some.inj hoperate
      exact ⟨hmade, hlocked, hkept⟩
  | resume =>
      obtain rfl := Option.some.inj hoperate
      exact ⟨hmade, hlocked, hkept⟩
  | registerCallback callback =>
      simp only [operate, Option.ite_none_left_eq_some] at hoperate
      obtain ⟨hfree, hregistered⟩ := hoperate
      obtain rfl := Option.some.inj hregistered
      exact ⟨hmade, hlocked, fun hcalling => absurd (hlocked.mpr hcalling) hfree⟩
  | clearCallbacks =>
      simp only [operate, Option.ite_none_left_eq_some] at hoperate
      obtain ⟨hfree, hcleared⟩ := hoperate
      obtain rfl := Option.some.inj hcleared
      exact ⟨hmade, hlocked, fun hcalling => absurd (hlocked.mpr hcalling) hfree⟩

/-- When the calls of `start` and `stop` do not overlap, the calls made are a
prefix of what the ticks owe: each tick calls every non-empty callback that was
registered when it took the mutex, once, in order and with its own snapshot,
before the next tick begins.  Between two ticks nothing is owed, and during a
tick the callbacks stay as they were. -/
theorem threads_callEach
    {actions : List (Worker.Action Caller FeedMetricsSnapshot
      (Operation Callback))}
    {final : Worker.State Caller (Point Callback) (Scheduler Callback)}
    (hserialized : threads.Along Worker.Serialized threads.initial actions)
    (hrun : threads.run threads.initial actions = some final) :
    final.data.calls <+: final.data.ticks.flatMap Tick.calls ∧
    (final.data.locked = false →
      final.data.calls = final.data.ticks.flatMap Tick.calls) ∧
    (final.data.locked = true →
      final.data.ticks.getLast?.map Tick.callbacks =
        some final.data.callbacks) := by
  have hcalls : CallsEach final.current final.data := by
    refine Worker.invariant_of_along ⟨rfl, by simp [Calling], nofun⟩ ?_ ?_ ?_
      hserialized hrun
    · rintro reading before after ⟨hmade, hlocked, hkept⟩ hprepared
      obtain rfl := Option.some.inj hprepared
      exact ⟨hmade, hlocked, hkept⟩
    · exact fun _ _ _ _ _ hcalls hstep => callsEach_step hcalls hstep
    · exact fun _ _ _ _ hcalls hoperate => callsEach_operate hcalls hoperate
  refine ⟨⟨_, hcalls.calls⟩, fun hfree => ?_, fun hlocked => ?_⟩
  · have hnone : owed final.current = [] := by
      have hidle : ¬ Calling final.current := by
        rw [← hcalls.locked, hfree]
        decide
      cases hcurrent : final.current with
      | none => rfl
      | some point =>
          cases point with
          | call snapshot remaining => simp [hcurrent, Calling] at hidle
          | _ => rfl
    have hmade := hcalls.calls
    rwa [hnone, List.append_nil] at hmade
  · exact hcalls.kept (hcalls.locked.mp hlocked)

/-! ## A paused scheduler -/

/-- The step does not clear `paused_`. -/
def KeepsPaused (state : Worker.State Caller (Point Callback)
    (Scheduler Callback)) :
    Worker.Action Caller FeedMetricsSnapshot (Operation Callback) → Prop
  | .operate .resume => False
  | .advance caller _ => state.calls caller ≠ .creating
  | _ => True

/-- A tick that found the scheduler unpaused has still to be counted. -/
def uncounted : Option (Point Callback) → ℕ
  | some .getSnapshot | some (.lock _) => 1
  | _ => 0

theorem uncounted_le_one (point : Option (Point Callback)) :
    uncounted point ≤ 1 := by
  unfold uncounted
  split
  · exact le_refl 1
  · exact le_refl 1
  · exact Nat.zero_le 1

/-- At most `bound` ticks, including the one that may be under way. -/
def PausedWithin (bound : ℕ) (point : Option (Point Callback))
    (scheduler : Scheduler Callback) : Prop :=
  scheduler.paused = true ∧ scheduler.ticks.length + uncounted point ≤ bound

theorem pausedWithin_step {bound : ℕ} {running : Bool} {point : Point Callback}
    {reading : FeedMetricsSnapshot} {scheduler : Scheduler Callback}
    {result : Option (Point Callback) × Scheduler Callback}
    (hpaused : PausedWithin bound (some point) scheduler)
    (hstep : workerStep running point reading scheduler = some result) :
    PausedWithin bound result.1 result.2 := by
  obtain ⟨hflag, hticks⟩ := hpaused
  cases point with
  | testRunning =>
      obtain rfl := Option.some.inj hstep
      cases running with
      | true => exact ⟨hflag, hticks⟩
      | false => exact ⟨hflag, hticks⟩
  | testPaused =>
      obtain rfl := Option.some.inj hstep
      refine ⟨hflag, ?_⟩
      simpa [hflag, uncounted] using hticks
  | getSnapshot =>
      obtain rfl := Option.some.inj hstep
      exact ⟨hflag, hticks⟩
  | lock snapshot =>
      obtain rfl := Option.some.inj hstep
      refine ⟨hflag, ?_⟩
      simpa [uncounted] using hticks
  | call snapshot remaining =>
      cases remaining with
      | nil =>
          obtain rfl := Option.some.inj hstep
          exact ⟨hflag, hticks⟩
      | cons callback remaining =>
          cases callback with
          | none =>
              obtain rfl := Option.some.inj hstep
              exact ⟨hflag, hticks⟩
          | some called =>
              obtain rfl := Option.some.inj hstep
              exact ⟨hflag, hticks⟩

theorem pausedWithin_operate {bound : ℕ} {point : Option (Point Callback)}
    {operation : Operation Callback} {before after : Scheduler Callback}
    (hpaused : PausedWithin bound point before)
    (hresume : operation ≠ .resume)
    (hoperate : operate operation before = some after) :
    PausedWithin bound point after := by
  obtain ⟨hflag, hticks⟩ := hpaused
  cases operation with
  | pause =>
      obtain rfl := Option.some.inj hoperate
      exact ⟨rfl, hticks⟩
  | resume => exact absurd rfl hresume
  | registerCallback callback =>
      simp only [operate, Option.ite_none_left_eq_some] at hoperate
      obtain rfl := Option.some.inj hoperate.2
      exact ⟨hflag, hticks⟩
  | clearCallbacks =>
      simp only [operate, Option.ite_none_left_eq_some] at hoperate
      obtain rfl := Option.some.inj hoperate.2
      exact ⟨hflag, hticks⟩

/-- Once the scheduler is paused, and until it is resumed or started again, at
most one more tick is made: the one that had read `paused_` before. -/
theorem threads_atMostOneTick
    {before after : List (Worker.Action Caller FeedMetricsSnapshot
      (Operation Callback))}
    {state final : Worker.State Caller (Point Callback) (Scheduler Callback)}
    (hserialized : threads.Along Worker.Serialized threads.initial
      (before ++ after))
    (hstate : threads.run threads.initial before = some state)
    (hpaused : state.data.paused = true)
    (hkeeps : threads.Along KeepsPaused state after)
    (hfinal : threads.run state after = some final) :
    final.data.paused = true ∧
      final.data.ticks.length ≤ state.data.ticks.length + 1 := by
  obtain ⟨hprior, hlater⟩ := (Machine.along_append hstate).mp hserialized
  have horderly : Worker.Orderly state := Worker.orderly_of_along hprior hstate
  let bound := state.data.ticks.length + uncounted state.current
  have hpreserve : ∀ (current : Worker.State Caller (Point Callback)
      (Scheduler Callback)) action next,
      (Worker.Orderly current ∧
        PausedWithin bound current.current current.data) →
      (Worker.Serialized current action ∧ KeepsPaused current action) →
      threads.step current action = some next →
      Worker.Orderly next ∧ PausedWithin bound next.current next.data := by
    rintro current action next ⟨hcurrent, hwithin⟩ ⟨hserial, hkept⟩ hstep
    refine ⟨Worker.orderly_step hcurrent hserial hstep, ?_⟩
    refine hcurrent.invariant_step hstep hwithin ?_ ?_ ?_
    · rintro caller reading data rfl hcall
      exact absurd hcall hkept
    · intro point reading result hresult hpoint
      rw [hpoint] at hwithin
      exact pausedWithin_step hwithin hresult
    · rintro operation data rfl hoperated
      refine pausedWithin_operate hwithin ?_ hoperated
      rintro rfl
      exact hkept
  have hstart : Worker.Orderly state ∧
      PausedWithin bound state.current state.data :=
    ⟨horderly, hpaused, le_refl _⟩
  obtain ⟨-, hended, hticks⟩ :=
    Machine.invariant_along hpreserve hstart (hlater.and hkeeps) hfinal
  refine ⟨hended, ?_⟩
  have hone := uncounted_le_one state.current
  omega

/-- The second tick has read `paused_` when the scheduler is paused. -/
def pauseDuringTick :
    List (Worker.Action Unit FeedMetricsSnapshot (Operation String)) :=
  [.operate (.registerCallback (some "persist")),
    .operate (.registerCallback none), .start (), .advance () {},
    .advance () {}, .work 0 {}, .work 0 {}, .work 0 {}, .work 0 {}, .work 0 {},
    .work 0 {}, .work 0 {}, .work 0 {}, .work 0 {}, .operate .pause]

/-- That tick is still made. -/
def tickAfterPause :
    List (Worker.Action Unit FeedMetricsSnapshot (Operation String)) :=
  [.work 0 {}, .work 0 {}, .work 0 {}, .work 0 {}, .work 0 {}, .work 0 {},
    .work 0 {}]

theorem threads_callEach_pause :
    ∃ final : Worker.State Unit (Point String) (Scheduler String),
      threads.run threads.initial (pauseDuringTick ++ tickAfterPause) =
          some final ∧
        final.data.calls = [("persist", {}), ("persist", {})] ∧
        final.data.calls <+: final.data.ticks.flatMap Tick.calls := by
  have hserialized : threads.Along Worker.Serialized threads.initial
      (pauseDuringTick ++ tickAfterPause) := by decide
  exact ⟨_, rfl, rfl, (threads_callEach hserialized rfl).1⟩

theorem threads_atMostOneTick_pause :
    ∃ state final : Worker.State Unit (Point String) (Scheduler String),
      threads.run threads.initial pauseDuringTick = some state ∧
        threads.run state tickAfterPause = some final ∧
        state.data.ticks.length = 1 ∧ final.data.ticks.length = 2 ∧
        final.data.ticks.length ≤ state.data.ticks.length + 1 := by
  have hserialized : threads.Along Worker.Serialized threads.initial
      (pauseDuringTick ++ tickAfterPause) := by decide
  refine ⟨_, _, rfl, rfl, rfl, rfl, ?_⟩
  refine (threads_atMostOneTick hserialized rfl rfl ?_ rfl).2
  simp [Machine.Along, tickAfterPause, KeepsPaused]

end Datafeed.SnapshotScheduler
