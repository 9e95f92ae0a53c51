import Datafeed.Core.Machine
import Datafeed.Metrics.MetricAggregator
import Datafeed.Metrics.RingBuffer

/-!
# The state manager

The loop of `StateManager` gives every snapshot of the collector to three
consumers: the live snapshot, the ring buffer and the aggregator.  Once the
interval has elapsed the same iteration produces a summary and restarts the
interval.  The clock counts nanoseconds; the time the loop sleeps only delays
the next reading of the clock.
-/

namespace Datafeed

open MetricAggregator

/-- `RingCapacity`. -/
def ringCapacity : ℕ := 900

instance : NeZero ringCapacity := ⟨by decide⟩

/-- `AggregationInterval`, in minutes. -/
def aggregationInterval : ℤ := 15

def nanosecondsPerMinute : ℤ := 60 * 1000000000

/-- `duration_cast` to minutes, which truncates. -/
def toMinutes (nanoseconds : ℤ) : ℤ := nanoseconds.tdiv nanosecondsPerMinute

/-- The members of `StateManager`.  Of the callback it matters only whether it
is set. -/
structure StateManager where
  ring : RingBuffer FeedMetricsSnapshot ringCapacity := .empty
  aggregator : Aggregator := {}
  running : Bool := false
  latestSnapshot : FeedMetricsSnapshot := {}
  hasSnapshot : Bool := false
  summaryCallback : Bool := false
  intervalStart : ℤ := 0

namespace StateManager

def getLiveSnapshot (manager : StateManager) : FeedMetricsSnapshot :=
  if manager.hasSnapshot then manager.latestSnapshot else {}

/-- The part of an iteration before the interval is checked. -/
def takeSnapshot (snapshot : FeedMetricsSnapshot) (manager : StateManager) :
    StateManager :=
  { manager with
    latestSnapshot := snapshot
    hasSnapshot := true
    ring := manager.ring.push snapshot
    aggregator := addSnapshot manager.aggregator snapshot }

def IntervalElapsed (now : ℤ) (manager : StateManager) : Prop :=
  aggregationInterval ≤ toMinutes (now - manager.intervalStart)

instance (now : ℤ) (manager : StateManager) :
    Decidable (manager.IntervalElapsed now) :=
  inferInstanceAs (Decidable (_ ≤ _))

/-- The part of an iteration after the callback. -/
def restartInterval (resumed : ℤ) (manager : StateManager) : StateManager :=
  { manager with
    aggregator := reset manager.aggregator
    intervalStart := resumed }

/-! ## Runs -/

/-- A call of `produceSummary`: the aggregator it was made on, the snapshots
taken until then, the readings of the clock before the snapshot and after the
callback, and whether there was a callback. -/
structure Summary where
  snapshot : FeedMetricsSnapshot
  aggregator : Aggregator
  taken : List FeedMetricsSnapshot
  now : ℤ
  resumed : ℤ
  delivered : Bool

/-- The manager, the last reading of the clock and what the loop has done. -/
structure State where
  manager : StateManager := {}
  clock : ℤ
  taken : List FeedMetricsSnapshot := []
  summaries : List Summary := []

inductive Action
  | setSummaryCallback (present : Bool)
  | start (now : ℤ)
  | stop
  | iterate (now : ℤ) (snapshot : FeedMetricsSnapshot) (resumed : ℤ)

/-- The body of the loop in `run`. -/
def iterate (now : ℤ) (snapshot : FeedMetricsSnapshot) (resumed : ℤ)
    (state : State) : State :=
  let manager := state.manager.takeSnapshot snapshot
  if manager.IntervalElapsed now then
    { manager := manager.restartInterval resumed
      clock := resumed
      taken := state.taken ++ [snapshot]
      summaries := state.summaries ++
        [{ snapshot := produceSummary manager.aggregator
           aggregator := manager.aggregator
           taken := state.taken ++ [snapshot]
           now := now
           resumed := resumed
           delivered := manager.summaryCallback }] }
  else
    { state with
      manager := manager
      clock := now
      taken := state.taken ++ [snapshot] }

/-- The readings of the clock do not decrease, and the loop iterates only while
it is running. -/
def step (state : State) : Action → Option State
  | .setSummaryCallback present =>
      some { state with
        manager := { state.manager with summaryCallback := present } }
  | .start now =>
      if state.manager.running then some state
      else if state.clock ≤ now then
        some { state with
          manager :=
            { state.manager with
              running := true
              intervalStart := now }
          clock := now }
      else none
  | .stop =>
      some { state with manager := { state.manager with running := false } }
  | .iterate now snapshot resumed =>
      if state.manager.running = true ∧ state.clock ≤ now ∧ now ≤ resumed then
        some (iterate now snapshot resumed state)
      else none

/-- A new manager, in a process whose clock has reached `boot`. -/
def machine (boot : ℤ) : Machine State Action where
  initial := { clock := boot }
  step := step

/-! ## What the loop accounts for -/

/-- The summaries aggregate consecutive, non-empty parts of the snapshots, each
of them up to the snapshot of the summary's own iteration. -/
inductive Partition : List Summary → List FeedMetricsSnapshot → Prop
  | nil : Partition [] []
  | snoc {summaries : List Summary} {summary : Summary}
      {covered part : List FeedMetricsSnapshot}
      (hprior : Partition summaries covered) (hpart : part ≠ [])
      (htaken : summary.taken = covered ++ part)
      (haggregator : summary.aggregator.Agrees (aggregate part))
      (hsnapshot : summary.snapshot = produceSummary (aggregate part)) :
      Partition (summaries ++ [summary]) (covered ++ part)

/-- The aggregator holds exactly the snapshots after the last summary. -/
def Partitioned (state : State) : Prop :=
  ∃ covered rest, Partition state.summaries covered ∧
    state.taken = covered ++ rest ∧
    state.manager.aggregator.Agrees (aggregate rest)

/-- From the end of a summary to the next one. -/
def Spaced (earlier later : Summary) : Prop :=
  earlier.resumed + aggregationInterval * nanosecondsPerMinute ≤ later.now

/-- The live snapshot and the latest one of the ring buffer are the last one
that was taken. -/
def ShowsLast (state : State) : Prop :=
  ∀ snapshot, state.taken.getLast? = some snapshot →
    state.manager.getLiveSnapshot = snapshot ∧
      state.manager.ring.latest = snapshot

structure Accounted (state : State) : Prop where
  partitioned : Partitioned state
  nonempty : ∀ summary ∈ state.summaries, summary.aggregator.count ≠ 0
  spaced : state.summaries.Pairwise Spaced
  showsLast : ShowsLast state

/-! ## The invariant -/

/-- No summary resumed after the last reading of the clock or after the start of
the current interval. -/
def Resumed (state : State) : Prop :=
  ∀ summary ∈ state.summaries,
    summary.resumed ≤ state.clock ∧
      summary.resumed ≤ state.manager.intervalStart

structure Invariant (state : State) : Prop where
  accounted : Accounted state
  resumed : Resumed state

theorem invariant_initial (boot : ℤ) : Invariant (machine boot).initial where
  accounted :=
    { partitioned := ⟨[], [], .nil, rfl, rfl⟩
      nonempty := fun _ hsummary => absurd hsummary List.not_mem_nil
      spaced := List.Pairwise.nil
      showsLast := fun _ hlast => nomatch hlast }
  resumed := fun _ hsummary => absurd hsummary List.not_mem_nil

theorem minutes_le_of_intervalElapsed {now : ℤ} {manager : StateManager}
    (helapsed : manager.IntervalElapsed now) :
    manager.intervalStart + aggregationInterval * nanosecondsPerMinute ≤
      now := by
  simp only [IntervalElapsed, toMinutes, aggregationInterval,
    nanosecondsPerMinute] at helapsed ⊢
  by_cases hnegative : now - manager.intervalStart < 0
  · have hquotient := Int.tdiv_nonneg
      (show 0 ≤ -(now - manager.intervalStart) by omega)
      (show (0 : ℤ) ≤ 60 * 1000000000 by decide)
    rw [Int.neg_tdiv] at hquotient
    omega
  · rw [Int.tdiv_eq_ediv_of_nonneg (by omega)] at helapsed
    omega

/-- The aggregator that an iteration checks holds one snapshot more. -/
theorem agrees_takeSnapshot {manager : StateManager}
    {rest : List FeedMetricsSnapshot} (snapshot : FeedMetricsSnapshot)
    (hagrees : manager.aggregator.Agrees (aggregate rest)) :
    (manager.takeSnapshot snapshot).aggregator.Agrees
      (aggregate (rest ++ [snapshot])) := by
  rw [aggregate_append]
  exact hagrees.addSnapshot snapshot

theorem count_takeSnapshot (manager : StateManager)
    (snapshot : FeedMetricsSnapshot) :
    (manager.takeSnapshot snapshot).aggregator.count ≠ 0 :=
  Nat.succ_ne_zero manager.aggregator.count

theorem Partitioned.iterate {state : State}
    (hpartitioned : Partitioned state) (now : ℤ)
    (snapshot : FeedMetricsSnapshot) (resumed : ℤ) :
    Partitioned (iterate now snapshot resumed state) := by
  obtain ⟨covered, rest, hpartition, htaken, hagrees⟩ := hpartitioned
  have hadded := agrees_takeSnapshot snapshot hagrees
  have htakenNext :
      state.taken ++ [snapshot] = covered ++ (rest ++ [snapshot]) := by
    rw [htaken, List.append_assoc]
  rw [StateManager.iterate]
  split
  · refine ⟨covered ++ (rest ++ [snapshot]), [], ?_, ?_, agrees_reset _⟩
    · exact hpartition.snoc (List.append_ne_nil_of_right_ne_nil _
        (List.cons_ne_nil _ _)) htakenNext hadded hadded.produceSummary_eq
    · rw [List.append_nil]
      exact htakenNext
  · exact ⟨covered, rest ++ [snapshot], hpartition, htakenNext, hadded⟩

/-- An iteration adds no summary, or one of the aggregator it has just added
its snapshot to. -/
theorem mem_summaries_iterate {now resumed : ℤ}
    {snapshot : FeedMetricsSnapshot} {state : State} {summary : Summary}
    (hsummary :
      summary ∈ (iterate now snapshot resumed state).summaries) :
    summary ∈ state.summaries ∨
      summary.aggregator =
          (state.manager.takeSnapshot snapshot).aggregator ∧
        summary.now = now ∧ summary.resumed = resumed ∧
        state.manager.IntervalElapsed now := by
  rw [iterate] at hsummary
  split at hsummary
  · next helapsed =>
      rcases List.mem_append.mp hsummary with hold | hnew
      · exact Or.inl hold
      · rw [List.mem_singleton.mp hnew]
        exact Or.inr ⟨rfl, rfl, rfl, helapsed⟩
  · exact Or.inl hsummary

theorem Resumed.iterate {state : State} (hresumed : Resumed state)
    {now resumed : ℤ} (snapshot : FeedMetricsSnapshot)
    (hclock : state.clock ≤ now) (hlater : now ≤ resumed) :
    Resumed (iterate now snapshot resumed state) := by
  intro summary hsummary
  rw [StateManager.iterate] at hsummary ⊢
  split at hsummary
  · next helapsed =>
      rw [if_pos helapsed]
      rcases List.mem_append.mp hsummary with hold | hnew
      · have hbefore := (hresumed summary hold).1
        have hnow : summary.resumed ≤ resumed :=
          hbefore.trans (hclock.trans hlater)
        exact ⟨hnow, hnow⟩
      · rw [List.mem_singleton.mp hnew]
        exact ⟨le_refl _, le_refl _⟩
  · next hrunning =>
      rw [if_neg hrunning]
      have hbefore := hresumed summary hsummary
      exact ⟨hbefore.1.trans hclock, hbefore.2⟩

theorem spaced_iterate {state : State}
    (hspaced : state.summaries.Pairwise Spaced) (hresumed : Resumed state)
    (now : ℤ) (snapshot : FeedMetricsSnapshot) (resumed : ℤ) :
    (iterate now snapshot resumed state).summaries.Pairwise Spaced := by
  rw [iterate]
  split
  · next helapsed =>
      refine List.pairwise_append.mpr
        ⟨hspaced, List.pairwise_singleton _ _, ?_⟩
      intro earlier hearlier later hlater
      rw [List.mem_singleton.mp hlater, Spaced]
      have hinterval := minutes_le_of_intervalElapsed helapsed
      have hbefore := (hresumed earlier hearlier).2
      exact (Int.add_le_add_right hbefore _).trans hinterval
  · exact hspaced

theorem showsLast_iterate (now : ℤ) (snapshot : FeedMetricsSnapshot)
    (resumed : ℤ) (state : State) :
    ShowsLast (iterate now snapshot resumed state) := by
  intro last hlast
  have hlatest := RingBuffer.latest_push snapshot state.manager.ring
  have htaken : (iterate now snapshot resumed state).taken =
      state.taken ++ [snapshot] := by
    rw [iterate]
    split
    · rfl
    · rfl
  rw [htaken, List.getLast?_concat, Option.some.injEq] at hlast
  subst hlast
  rw [iterate]
  split
  · exact ⟨rfl, hlatest⟩
  · exact ⟨rfl, hlatest⟩

theorem Invariant.iterate {state : State} (hinvariant : Invariant state)
    {now resumed : ℤ} (snapshot : FeedMetricsSnapshot)
    (hclock : state.clock ≤ now) (hlater : now ≤ resumed) :
    Invariant (iterate now snapshot resumed state) where
  accounted :=
    { partitioned :=
        hinvariant.accounted.partitioned.iterate now snapshot resumed
      nonempty := by
        intro summary hsummary
        rcases mem_summaries_iterate hsummary with hold | ⟨hnew, -⟩
        · exact hinvariant.accounted.nonempty summary hold
        · rw [hnew]
          exact count_takeSnapshot state.manager snapshot
      spaced :=
        spaced_iterate hinvariant.accounted.spaced hinvariant.resumed now
          snapshot resumed
      showsLast := showsLast_iterate now snapshot resumed state }
  resumed := hinvariant.resumed.iterate snapshot hclock hlater

/-- The consumers do not depend on the control of the loop. -/
theorem Accounted.control {state : State} (haccounted : Accounted state)
    (running summaryCallback : Bool) (intervalStart clock : ℤ) :
    Accounted
      { state with
        manager :=
          { state.manager with
            running := running
            summaryCallback := summaryCallback
            intervalStart := intervalStart }
        clock := clock } :=
  ⟨haccounted.partitioned, haccounted.nonempty, haccounted.spaced,
    haccounted.showsLast⟩

/-- Starting the loop restarts the interval and leaves its consumers alone. -/
theorem Invariant.start {state : State} (hinvariant : Invariant state)
    {now : ℤ} (hclock : state.clock ≤ now) :
    Invariant
      { state with
        manager :=
          { state.manager with
            running := true
            intervalStart := now }
        clock := now } where
  accounted :=
    hinvariant.accounted.control true state.manager.summaryCallback now now
  resumed := fun summary hsummary =>
    have hbefore := (hinvariant.resumed summary hsummary).1.trans hclock
    ⟨hbefore, hbefore⟩

theorem invariant_step (boot : ℤ) (state : State) (action : Action)
    (next : State) (hinvariant : Invariant state)
    (hstep : (machine boot).step state action = some next) :
    Invariant next := by
  cases action with
  | setSummaryCallback present =>
      cases hstep
      exact ⟨hinvariant.accounted.control _ present _ _, hinvariant.resumed⟩
  | stop =>
      cases hstep
      exact ⟨hinvariant.accounted.control false _ _ _, hinvariant.resumed⟩
  | start now =>
      simp only [machine, step] at hstep
      split at hstep
      · cases hstep
        exact hinvariant
      · split at hstep
        · next hclock =>
            cases hstep
            exact hinvariant.start hclock
        · cases hstep
  | iterate now snapshot resumed =>
      simp only [machine, step] at hstep
      split at hstep
      · next hguard =>
          cases hstep
          exact hinvariant.iterate snapshot hguard.2.1 hguard.2.2
      · cases hstep

/-- In every state of every run the summaries partition the snapshots. -/
theorem reachable_accounted {boot : ℤ} {state : State}
    (hreach : (machine boot).Reachable state) : Accounted state := by
  have hinvariant : Invariant state :=
    hreach.invariant (invariant_initial boot) (invariant_step boot)
  exact hinvariant.accounted

def rateSnapshot (rate : ℚ) : FeedMetricsSnapshot where
  rates _ := rate
  levels _ := rate.num.toNat.toUInt64

/-- Six iterations, the third and the fifth of which end an interval. -/
def intervalRun : List Action :=
  [.setSummaryCallback true, .start 0,
    .iterate 0 (rateSnapshot 2) 0,
    .iterate (14 * nanosecondsPerMinute) (rateSnapshot 4)
      (14 * nanosecondsPerMinute),
    .iterate (15 * nanosecondsPerMinute) (rateSnapshot 9)
      (16 * nanosecondsPerMinute),
    .iterate (17 * nanosecondsPerMinute) (rateSnapshot 10)
      (17 * nanosecondsPerMinute),
    .iterate (31 * nanosecondsPerMinute) (rateSnapshot 20)
      (31 * nanosecondsPerMinute),
    .iterate (32 * nanosecondsPerMinute) (rateSnapshot 7)
      (32 * nanosecondsPerMinute)]

theorem intervalRun_accounted :
    ∃ state, (machine 0).run (machine 0).initial intervalRun = some state ∧
      state.summaries.map (·.snapshot.levels .memoryRss) = [5, 15] ∧
      state.taken.length = 6 ∧ Accounted state :=
  ⟨_, rfl, rfl, rfl, @reachable_accounted 0 _ ⟨intervalRun, rfl⟩⟩

end StateManager

end Datafeed
