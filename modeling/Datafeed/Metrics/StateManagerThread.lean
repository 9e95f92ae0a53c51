import Datafeed.Core.Simulation
import Datafeed.Core.Worker
import Datafeed.Metrics.StateManager

/-!
# The thread of the state manager

`start` and `stop` of `StateManager` may be called by any thread, while the
worker is anywhere in its loop: an iteration whose test of `running_` came before
the exchange of `stop` is still finished.  When the calls do not overlap, the
threads do together what the loop does on its own: the interval starts when the
worker is created, and the manager stops when the worker is joined.

A step of an iteration is one whose `getSnapshot` and callback return.  An
iteration in which they do not has no step here, so nothing is said of how long
a `stop` waits for the worker.
-/

namespace Datafeed.StateManager

open MetricAggregator

/-- Where the worker stands in `run`. -/
inductive Point
  | testRunning
  | iterate
  deriving DecidableEq

/-- What a step reads: the clock, the collector, and the clock after the
callback. -/
structure Reading where
  now : ℤ
  snapshot : FeedMetricsSnapshot
  resumed : ℤ

def setSummaryCallback (present : Bool) (state : State) : State :=
  { state with
    manager := { state.manager with summaryCallback := present } }

/-- `interval_start_ = std::chrono::steady_clock::now()`. -/
def beginInterval (now : ℤ) (state : State) : State :=
  { state with
    manager := { state.manager with intervalStart := now }
    clock := now }

/-- The worker, when `getSnapshot` and the callback return. -/
def workerStep (running : Bool) (point : Point) (reading : Reading)
    (state : State) : Option (Option Point × State) :=
  match point with
  | .testRunning => some (if running then some .iterate else none, state)
  | .iterate =>
      if state.clock ≤ reading.now ∧ reading.now ≤ reading.resumed then
        some (some .testRunning,
          StateManager.iterate reading.now reading.snapshot reading.resumed
            state)
      else none

def program : Worker.Program Point Reading Bool State where
  entry := .testRunning
  prepare reading state :=
    if state.clock ≤ reading.now then some (beginInterval reading.now state)
    else none
  step := workerStep
  operate present state := some (setSummaryCallback present state)

variable {Caller : Type*} [DecidableEq Caller]

/-- The manager with its threads, in a process whose clock has reached
`boot`. -/
def threads (boot : ℤ) :
    Machine (Worker.State Caller Point State)
      (Worker.Action Caller Reading Bool) :=
  Worker.machine program { clock := boot }

/-! ## The loop on its own -/

def setRunning (running : Bool) (state : State) : State :=
  { state with manager := { state.manager with running := running } }

/-- The manager runs while there is a worker to join. -/
def loopState (state : Worker.State Caller Point State) : State :=
  setRunning state.handle.isSome state.data

def loopEvents (state : Worker.State Caller Point State) :
    Worker.Action Caller Reading Bool → List Action
  | .start _ | .stop _ => []
  | .advance caller reading =>
      match state.calls caller with
      | .creating => [.start reading.now]
      | .joining => [.stop]
      | _ => []
  | .work thread reading =>
      match state.threads[thread]? with
      | some (some .iterate) =>
          [.iterate reading.now reading.snapshot reading.resumed]
      | _ => []
  | .operate present => [.setSummaryCallback present]

theorem iterate_setRunning (running : Bool) (now : ℤ)
    (snapshot : FeedMetricsSnapshot) (resumed : ℤ) (state : State) :
    iterate now snapshot resumed (setRunning running state) =
      setRunning running (iterate now snapshot resumed state) := by
  have hinterval :
      ((setRunning running state).manager.takeSnapshot
          snapshot).IntervalElapsed now ↔
        (state.manager.takeSnapshot snapshot).IntervalElapsed now := Iff.rfl
  rw [iterate, iterate]
  by_cases helapsed :
      (state.manager.takeSnapshot snapshot).IntervalElapsed now
  · rw [if_pos helapsed, if_pos (hinterval.mpr helapsed)]
    rfl
  · rw [if_neg helapsed, if_neg (hinterval.not.mpr helapsed)]
    rfl

theorem run_loopEvents {boot : ℤ} {state next : Worker.State Caller Point State}
    {action : Worker.Action Caller Reading Bool}
    (horderly : Worker.Orderly state)
    (hstep : Worker.step program state action = some next) :
    (machine boot).run (loopState state) (loopEvents state action) =
      some (loopState next) := by
  have halive := horderly.alive
  cases action with
  | start caller =>
      simp only [Worker.step, Option.ite_none_right_eq_some] at hstep
      obtain rfl := Option.some.inj hstep.2
      rfl
  | stop caller =>
      simp only [Worker.step, Option.ite_none_right_eq_some] at hstep
      obtain rfl := Option.some.inj hstep.2
      rfl
  | operate present =>
      simp only [Worker.step, Option.ite_none_left_eq_some] at hstep
      obtain ⟨data, hdata, rfl⟩ := Option.map_eq_some_iff.mp hstep.2
      obtain rfl := Option.some.inj hdata
      rfl
  | advance caller reading =>
      simp only [Worker.step, Option.ite_none_left_eq_some] at hstep
      rw [loopEvents]
      cases Worker.advances_of_advance hstep.2 with
      | refused hcall hrunning => simp only [hcall]; rfl
      | admitted hcall hrunning => simp only [hcall]; rfl
      | created hcall data hprepare =>
          obtain ⟨-, hnone⟩ := horderly.creating caller hcall
          simp only [program, Option.ite_none_right_eq_some] at hprepare
          obtain ⟨hclock, hbegun⟩ := hprepare
          obtain rfl := Option.some.inj hbegun
          simp only [hcall]
          apply Machine.run_singleton
          simp [machine, step, loopState, setRunning, hnone, hclock,
            Worker.State.create, Worker.State.setCall, beginInterval]
      | spared hcall hrunning => simp only [hcall]; rfl
      | stopped hcall hrunning => simp only [hcall]; rfl
      | joined hcall joined hjoin =>
          obtain ⟨-, hsome⟩ := horderly.joining caller hcall
          obtain ⟨thread, hhandle⟩ := Option.isSome_iff_exists.mp hsome
          simp only [Worker.State.join, hhandle] at hjoin
          split at hjoin
          · obtain rfl := Option.some.inj hjoin
            simp only [hcall]
            rfl
          · cases hjoin
  | work thread reading =>
      simp only [Worker.step, Option.ite_none_left_eq_some] at hstep
      obtain ⟨point, result, hthread, hresult, rfl⟩ :=
        Worker.exists_of_work hstep.2
      have hhandle := horderly.held.live thread point hthread
      rw [loopEvents, hthread]
      cases point with
      | testRunning =>
          obtain rfl := Option.some.inj hresult
          rfl
      | iterate =>
          simp only [program, workerStep,
            Option.ite_none_right_eq_some] at hresult
          obtain ⟨hclock, hiterated⟩ := hresult
          obtain rfl := Option.some.inj hiterated
          apply Machine.run_singleton
          simp only [machine, step, loopState, hhandle, Option.isSome_some,
            iterate_setRunning]
          exact if_pos ⟨rfl, hclock⟩

/-- The threads refine the loop. -/
noncomputable def refinesLoop (boot : ℤ) :
    Machine.Simulation
      ((threads boot : Machine (Worker.State Caller Point State) _).restrict
        Worker.Serialized)
      (machine boot) where
  invariant := Worker.Orderly
  abstraction := loopState
  events := loopEvents
  invariant_initial := Worker.orderly_initial _
  invariant_step _ _ _ horderly hstep :=
    have hserial := Machine.restrict_step_eq_some_iff.mp hstep
    Worker.orderly_step horderly hserial.1 hserial.2
  abstraction_initial := rfl
  matched _ _ _ horderly hstep :=
    run_loopEvents horderly (Machine.restrict_step_eq_some_iff.mp hstep).2

/-- When the calls of `start` and `stop` do not overlap, `std::terminate` is
never called; at most one worker is in its loop, and it is the one that can be
joined; the summaries partition the snapshots as they do for the loop on its
own; and once a `stop` has returned no worker has a step left. -/
theorem threads_orderly {boot : ℤ}
    {actions : List (Worker.Action Caller Reading Bool)}
    {final : Worker.State Caller Point State}
    (hserialized : (threads boot).Along Worker.Serialized
      (threads boot).initial actions)
    (hrun : (threads boot).run (threads boot).initial actions = some final) :
    final.terminated = false ∧
    (∀ thread point, final.threads[thread]? = some (some point) →
      final.handle = some thread) ∧
    Accounted final.data ∧
    (Worker.Settled final → final.running = false → ∀ thread reading,
      Worker.work program thread reading final = none) := by
  have horderly : Worker.Orderly final :=
    Worker.orderly_of_along hserialized hrun
  have hrestricted : ((threads boot).restrict Worker.Serialized).run
      (threads boot).initial actions = some final := by
    rw [Machine.run_restrict hserialized, hrun]
  have hloop : Accounted (loopState final) :=
    reachable_accounted ((refinesLoop boot).reachable ⟨actions, hrestricted⟩)
  refine ⟨horderly.alive, horderly.held.live, ?_, ?_⟩
  · exact hloop.control final.data.manager.running
      final.data.manager.summaryCallback final.data.manager.intervalStart
      final.data.clock
  · exact fun hsettled hrunning => horderly.work_eq_none hsettled hrunning

/-- The worker is in its second iteration when `stop` exchanges the flag. -/
def stopDuringIteration : List (Worker.Action Bool Reading Bool) :=
  [.operate true, .start true, .advance true ⟨0, {}, 0⟩,
    .advance true ⟨0, {}, 0⟩, .work 0 ⟨0, {}, 0⟩, .work 0 ⟨0, {}, 0⟩,
    .work 0 ⟨0, {}, 0⟩, .stop true, .advance true ⟨0, {}, 0⟩,
    .work 0 ⟨1, {}, 1⟩, .work 0 ⟨0, {}, 0⟩, .advance true ⟨0, {}, 0⟩]

theorem threads_orderly_stopDuringIteration :
    ∃ final : Worker.State Bool Point State,
      (threads 0).run (threads 0).initial stopDuringIteration = some final ∧
        final.data.taken.length = 2 ∧ final.terminated = false ∧
          Accounted final.data := by
  have hserialized : (threads 0).Along Worker.Serialized (threads 0).initial
      stopDuringIteration := by decide
  have horderly := threads_orderly hserialized rfl
  exact ⟨_, rfl, rfl, horderly.1, horderly.2.2.1⟩

/-- Whenever the loop runs and no call is under way, a `stop` and a `start` of
two threads can overlap so that `std::terminate` is called: the new worker is
assigned while the old one has not been joined. -/
theorem threads_canTerminate {boot : ℤ}
    {actions : List (Worker.Action Caller Reading Bool)}
    {state : Worker.State Caller Point State}
    (hserialized : (threads boot).Along Worker.Serialized
      (threads boot).initial actions)
    (hrun : (threads boot).run (threads boot).initial actions = some state)
    (hidle : ∀ caller, state.calls caller = .idle)
    (hrunning : state.running = true) {stopper starter : Caller}
    (hdistinct : starter ≠ stopper) :
    ∃ (reading : Reading) (final : Worker.State Caller Point State),
      (threads boot).run state
          [.stop stopper, .advance stopper reading, .start starter,
            .advance starter reading, .advance starter reading] =
        some final ∧ final.terminated = true := by
  have horderly : Worker.Orderly state :=
    Worker.orderly_of_along hserialized hrun
  refine ⟨⟨state.data.clock, {}, state.data.clock⟩, ?_⟩
  exact horderly.overlap hidle hrunning hdistinct (by simp [program])

theorem threads_canTerminate_sample :
    ∃ (state : Worker.State Bool Point State) (reading : Reading)
        (final : Worker.State Bool Point State),
      (threads 0).run (threads 0).initial
          [.start true, .advance true ⟨0, {}, 0⟩,
            .advance true ⟨0, {}, 0⟩] = some state ∧
        (threads 0).run state
          [.stop true, .advance true reading, .start false,
            .advance false reading, .advance false reading] = some final ∧
        final.terminated = true := by
  have hserialized : (threads 0 :
      Machine (Worker.State Bool Point State) _).Along Worker.Serialized
      (threads 0).initial [.start true, .advance true ⟨0, {}, 0⟩,
        .advance true ⟨0, {}, 0⟩] := by decide
  obtain ⟨reading, final, hrun, hterminated⟩ :=
    threads_canTerminate hserialized rfl (by decide) rfl
      (show false ≠ true by decide)
  exact ⟨_, reading, final, rfl, hrun, hterminated⟩

end Datafeed.StateManager
