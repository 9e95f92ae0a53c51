import Datafeed.Metrics.MetricsCollector

/-!
# The latency of a summary

The tracker's statistics are in order, the snapshot copies them for every
category, and the aggregator takes the minimum of the minima, the maximum of
the maxima and the averages of the rest.  As every snapshot has every category,
each sum has as many terms as there are snapshots, and the order survives.
-/

namespace Datafeed.MetricsCollector

open LatencyTracker (Ordered)
open MetricAggregator (Aggregator FeedMetricsSnapshot LatencyCategory
  LatencyRunning LatencyStats addSnapshot produceSummary)

/-! ## Snapshots of a collector -/

/-- The windows hold what was measured, whatever that is. -/
def Collector.Measured (collector : Collector) : Prop :=
  ∃ histories, collector.latencyTracker.Holds histories

theorem measured_new (reading : StartReading) : (new reading).Measured :=
  ⟨_, LatencyTracker.Tracker.holds_new⟩

theorem Collector.Measured.apply {collector : Collector}
    (hmeasured : collector.Measured) (event : Event) :
    (collector.apply event).Measured := by
  cases event with
  | latency operation =>
      obtain ⟨histories, hholds⟩ := hmeasured
      exact ⟨_, hholds.apply operation⟩
  | reset reading => exact measured_new reading
  | _ => exact hmeasured

theorem measured_runEvents (reading : StartReading) (events : List Event) :
    (runEvents (new reading) events).Measured := by
  induction events using List.reverseRecOn with
  | nil => exact measured_new reading
  | append_singleton events event ih =>
      rw [runEvents, List.foldl_append]
      exact ih.apply event

/-- A snapshot taken at some point of some run of a collector. -/
def Taken (snapshot : FeedMetricsSnapshot) : Prop :=
  ∃ start events reading,
    snapshot = (getSnapshot reading (runEvents (new start) events)).1

theorem Taken.ordered {snapshot : FeedMetricsSnapshot} (htaken : Taken snapshot)
    (category : LatencyCategory) :
    ∃ stats, snapshot.latencyStats category = some stats ∧ Ordered stats := by
  obtain ⟨start, events, reading, rfl⟩ := htaken
  obtain ⟨histories, hholds⟩ := measured_runEvents start events
  exact ⟨_, rfl, hholds.getLatencyStats_ordered category⟩

/-! ## The sums of the aggregator -/

/-- The sums of a number of ordered statistics. -/
structure Sums (number : ℕ) (running : LatencyRunning) : Prop where
  initialized : running.initialized = true
  min_p50 : number * running.minMin ≤ running.sumP50
  p50_p95 : running.sumP50 ≤ running.sumP95
  p95_p99 : running.sumP95 ≤ running.sumP99
  p99_max : running.sumP99 ≤ number * running.maxMax
  min_average : number * running.minMin ≤ running.sumAvg
  average_max : running.sumAvg ≤ number * running.maxMax

theorem sums_first {stats : LatencyStats} (hordered : Ordered stats) :
    Sums 1 (LatencyRunning.add stats {}) := by
  constructor <;> simp only [LatencyRunning.add, Bool.false_eq_true, if_false,
    Nat.cast_one, one_mul]
  · exact hordered.min_p50
  · exact hordered.p50_p95
  · exact hordered.p95_p99
  · exact hordered.p99_max
  · exact hordered.min_average
  · exact hordered.average_max

/-- A further term is at least the new minimum, and so is each earlier one. -/
theorem mul_min_le {number : ℕ} {low sum bound term : ℚ}
    (hsum : number * low ≤ sum) (hterm : bound ≤ term) :
    ((number + 1 : ℕ) : ℚ) * min low bound ≤ sum + term := by
  calc
    ((number + 1 : ℕ) : ℚ) * min low bound
        = number * min low bound + min low bound := by push_cast; ring
    _ ≤ number * low + bound := by
        refine add_le_add ?_ (min_le_right low bound)
        exact mul_le_mul_of_nonneg_left (min_le_left low bound)
          (Nat.cast_nonneg number)
    _ ≤ sum + term := add_le_add hsum hterm

theorem le_mul_max {number : ℕ} {high sum bound term : ℚ}
    (hsum : sum ≤ number * high) (hterm : term ≤ bound) :
    sum + term ≤ ((number + 1 : ℕ) : ℚ) * max high bound := by
  calc
    sum + term ≤ number * high + bound := add_le_add hsum hterm
    _ ≤ number * max high bound + max high bound := by
        refine add_le_add ?_ (le_max_right high bound)
        exact mul_le_mul_of_nonneg_left (le_max_left high bound)
          (Nat.cast_nonneg number)
    _ = ((number + 1 : ℕ) : ℚ) * max high bound := by push_cast; ring

theorem Sums.add {number : ℕ} {running : LatencyRunning}
    (hsums : Sums number running) {stats : LatencyStats}
    (hordered : Ordered stats) :
    Sums (number + 1) (LatencyRunning.add stats running) := by
  constructor <;> simp only [LatencyRunning.add, hsums.initialized, if_true]
  · exact mul_min_le hsums.min_p50 hordered.min_p50
  · exact add_le_add hsums.p50_p95 hordered.p50_p95
  · exact add_le_add hsums.p95_p99 hordered.p95_p99
  · exact le_mul_max hsums.p99_max hordered.p99_max
  · exact mul_min_le hsums.min_average hordered.min_average
  · exact le_mul_max hsums.average_max hordered.average_max

/-- The aggregator has seen a number of snapshots with every category. -/
structure Aggregated (number : ℕ) (aggregator : Aggregator) : Prop where
  count : aggregator.count = number
  latency : ∀ category,
    (number = 0 ∧ aggregator.latencyRunning category = none) ∨
      ∃ running, aggregator.latencyRunning category = some running ∧
        Sums number running

theorem Aggregated.addSnapshot {number : ℕ} {aggregator : Aggregator}
    (haggregated : Aggregated number aggregator)
    {snapshot : FeedMetricsSnapshot} (htaken : Taken snapshot) :
    Aggregated (number + 1) (addSnapshot aggregator snapshot) where
  count := congrArg (· + 1) haggregated.count
  latency category := by
    obtain ⟨stats, hstats, hordered⟩ := htaken.ordered category
    simp only [MetricAggregator.addSnapshot, MetricAggregator.addEntry, hstats]
    apply Or.inr
    rcases haggregated.latency category with
      ⟨hzero, hnone⟩ | ⟨running, hsome, hsums⟩
    · refine ⟨_, rfl, ?_⟩
      rw [hnone, hzero]
      exact sums_first hordered
    · refine ⟨_, rfl, ?_⟩
      rw [hsome]
      exact hsums.add hordered

theorem Aggregated.foldl {number : ℕ} {aggregator : Aggregator}
    (haggregated : Aggregated number aggregator)
    {snapshots : List FeedMetricsSnapshot}
    (htaken : ∀ snapshot ∈ snapshots, Taken snapshot) :
    Aggregated (number + snapshots.length)
      (snapshots.foldl MetricAggregator.addSnapshot aggregator) := by
  induction snapshots generalizing number aggregator with
  | nil => exact haggregated
  | cons snapshot snapshots ih =>
      have hhead := haggregated.addSnapshot (htaken snapshot List.mem_cons_self)
      have htail := ih hhead fun other hother =>
        htaken other (List.mem_cons_of_mem snapshot hother)
      rw [List.foldl_cons, List.length_cons, Nat.add_comm snapshots.length,
        ← Nat.add_assoc]
      exact htail

/-- Dividing the sums by their number keeps them in order. -/
theorem Sums.summary_ordered {number : ℕ} {running : LatencyRunning}
    (hsums : Sums number running) (hpositive : 0 < number) :
    Ordered (running.summary number) := by
  have hnumber : (0 : ℚ) < number := Nat.cast_pos.mpr hpositive
  constructor <;> simp only [LatencyRunning.summary]
  · rw [le_div_iff₀ hnumber, mul_comm]
    exact hsums.min_p50
  · exact div_le_div_of_nonneg_right hsums.p50_p95 hnumber.le
  · exact div_le_div_of_nonneg_right hsums.p95_p99 hnumber.le
  · rw [div_le_iff₀ hnumber, mul_comm]
    exact hsums.p99_max
  · rw [le_div_iff₀ hnumber, mul_comm]
    exact hsums.min_average
  · rw [div_le_iff₀ hnumber, mul_comm]
    exact hsums.average_max

/-- An aggregator as it is constructed or reset. -/
def Started (aggregator : Aggregator) : Prop :=
  aggregator = {} ∨ ∃ earlier, aggregator = MetricAggregator.reset earlier

theorem Started.aggregated {aggregator : Aggregator}
    (hstarted : Started aggregator) : Aggregated 0 aggregator := by
  rcases hstarted with rfl | ⟨earlier, rfl⟩
  · exact ⟨rfl, fun _ => Or.inl ⟨rfl, rfl⟩⟩
  · exact ⟨rfl, fun _ => Or.inl ⟨rfl, rfl⟩⟩

/-- Every category of a summary of snapshots is in order. -/
theorem summary_latency_ordered {aggregator : Aggregator}
    (hstarted : Started aggregator) {snapshots : List FeedMetricsSnapshot}
    (hne : snapshots ≠ []) (htaken : ∀ snapshot ∈ snapshots, Taken snapshot)
    (category : LatencyCategory) :
    ∃ stats,
      (produceSummary (snapshots.foldl addSnapshot aggregator)).latencyStats
          category = some stats ∧ Ordered stats := by
  have haggregated := hstarted.aggregated.foldl htaken
  rw [Nat.zero_add] at haggregated
  have hpositive : 0 < snapshots.length := List.length_pos_iff.mpr hne
  rcases haggregated.latency category with
    ⟨hzero, -⟩ | ⟨running, hsome, hsums⟩
  · exact absurd hzero hpositive.ne'
  · refine ⟨running.summary snapshots.length, ?_,
      hsums.summary_ordered hpositive⟩
    rw [produceSummary, if_neg (haggregated.count.trans_ne hpositive.ne')]
    simp only [hsome, Option.map_some, haggregated.count]

/-- Two seconds of a collector: one measurement of three milliseconds in the
first, none in the second. -/
theorem summary_latency_ordered_twoSeconds :
    let start : StartReading := ⟨0, 0, 0⟩
    let reading : SnapshotReading :=
      ⟨1000000000, 0, 0, ⟨0, 0, none, 0, 0, 0⟩, fun _ => 0⟩
    let measured : Event :=
      .latency (.endLatencyMeasurement 0 3000000 .parsing)
    let snapshots :=
      [(getSnapshot reading (runEvents (new start) [measured])).1,
        (getSnapshot reading (runEvents (new start) [])).1]
    ∃ stats,
      (produceSummary (snapshots.foldl addSnapshot {})).latencyStats .parsing =
        some stats ∧ Ordered stats := by
  intro start reading measured snapshots
  refine summary_latency_ordered (Or.inl rfl) (List.cons_ne_nil _ _) ?_ _
  intro snapshot hsnapshot
  rcases List.mem_pair.mp hsnapshot with rfl | rfl
  · exact ⟨start, [measured], reading, rfl⟩
  · exact ⟨start, [], reading, rfl⟩

end Datafeed.MetricsCollector
