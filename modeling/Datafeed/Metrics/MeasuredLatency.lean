import Datafeed.Metrics.AggregatorHistory
import Datafeed.Metrics.LatencySummary

/-!
# Seconds without a measurement

A collector reports a category without samples with count 0 and zeros, in the
same record as one with samples.  The aggregator does not look at the count: a
second without a measurement enters the minimum and the averages of the interval
as one of 0 ms.
-/

namespace Datafeed.MetricsCollector

open LatencyTracker (LatencyWindow)
open MetricAggregator (Aggregator FeedMetricsSnapshot LatencyCategory
  LatencyRunning LatencyStats Operation addSnapshot aggregate entryOf
  produceSummary run samplesOf sinceReset)

/-! ## Measured seconds -/

/-- The snapshot reports at least one sample of the category. -/
def Measured (category : LatencyCategory) (snapshot : FeedMetricsSnapshot) :
    Prop :=
  ∃ stats, snapshot.latencyStats category = some stats ∧ 0 < stats.count

/-- The minima of the snapshots with samples of the category. -/
def measuredMinima (category : LatencyCategory)
    (snapshots : List FeedMetricsSnapshot) : Set ℚ :=
  { low | ∃ snapshot ∈ snapshots, ∃ stats,
    snapshot.latencyStats category = some stats ∧ 0 < stats.count ∧
      stats.min = low }

/-- The minima of all snapshots. -/
def minima (category : LatencyCategory)
    (snapshots : List FeedMetricsSnapshot) : Set ℚ :=
  { low | ∃ snapshot ∈ snapshots, ∃ stats,
    snapshot.latencyStats category = some stats ∧ stats.min = low }

/-- The statistics of an interval that takes only measurements into account. -/
structure CountsMeasured (category : LatencyCategory)
    (snapshots : List FeedMetricsSnapshot) (stats : LatencyStats) : Prop where
  min : IsLeast (measuredMinima category snapshots) stats.min
  average : stats.min ≤ stats.average

/-! ## What an empty window reports -/

theorem Taken.zero_of_unmeasured {snapshot : FeedMetricsSnapshot}
    (htaken : Taken snapshot) {category : LatencyCategory}
    (hnone : ¬ Measured category snapshot) :
    snapshot.latencyStats category = some {} := by
  obtain ⟨start, events, reading, rfl⟩ := htaken
  let window :=
    (runEvents (new start) events).latencyTracker.windows category
  have hstats : (getSnapshot reading
      (runEvents (new start) events)).1.latencyStats category =
        some window.stats := rfl
  have hcount : window.stats.count = 0 := by
    by_contra hcount
    exact hnone ⟨_, hstats, UInt64.pos_iff_ne_zero.mpr hcount⟩
  rw [hstats, LatencyWindow.stats_of_count_eq_zero (by decide) hcount]

/-! ## The minimum of a summary -/

/-- The minima of a list of statistics. -/
def minimaOf (samples : List LatencyStats) : Set ℚ :=
  { low | ∃ stats ∈ samples, stats.min = low }

theorem minimaOf_append (samples : List LatencyStats) (stats : LatencyStats) :
    minimaOf (samples ++ [stats]) = minimaOf samples ∪ {stats.min} := by
  ext low
  constructor
  · rintro ⟨other, hother, rfl⟩
    rcases List.mem_append.mp hother with hmem | hmem
    · exact .inl ⟨other, hmem, rfl⟩
    · rw [List.mem_singleton.mp hmem]
      exact .inr rfl
  · rintro (⟨other, hmem, rfl⟩ | rfl)
    · exact ⟨other, List.mem_append_left _ hmem, rfl⟩
    · exact ⟨stats, List.mem_append_right _ List.mem_cons_self, rfl⟩

theorem isLeast_minMin {samples : List LatencyStats} {running : LatencyRunning}
    (hentry : entryOf LatencyRunning.add {} samples = some running) :
    running.initialized = true ∧
      IsLeast (minimaOf samples) running.minMin := by
  induction samples using List.reverseRecOn generalizing running with
  | nil => cases hentry
  | append_singleton samples stats ih =>
      rw [MetricAggregator.entryOf_append, Option.some.injEq] at hentry
      subst hentry
      rw [minimaOf_append]
      cases hbefore : entryOf LatencyRunning.add {} samples with
      | none =>
          have hnil : samples = [] := by
            by_contra hne
            rw [entryOf, if_neg hne] at hbefore
            cases hbefore
          subst hnil
          refine ⟨rfl, ?_⟩
          simp [LatencyRunning.add, minimaOf]
      | some before =>
          obtain ⟨hinitialized, hleast⟩ := ih hbefore
          simp only [Option.getD_some, LatencyRunning.add, hinitialized,
            if_true, true_and]
          exact hleast.union isLeast_singleton

theorem minimaOf_samplesOf (category : LatencyCategory)
    (snapshots : List FeedMetricsSnapshot) :
    minimaOf (samplesOf (·.latencyStats) snapshots category) =
      minima category snapshots := by
  ext low
  constructor
  · rintro ⟨stats, hsample, hlow⟩
    obtain ⟨snapshot, hsnapshot, hstats⟩ := List.mem_filterMap.mp hsample
    exact ⟨snapshot, hsnapshot, stats, hstats, hlow⟩
  · rintro ⟨snapshot, hsnapshot, stats, hstats, hlow⟩
    exact ⟨stats, List.mem_filterMap.mpr ⟨snapshot, hsnapshot, hstats⟩, hlow⟩

/-- The minimum of a summary is the least of all minima, those of empty windows
among them. -/
theorem isLeast_summary_min {snapshots : List FeedMetricsSnapshot}
    (hne : snapshots ≠ []) {category : LatencyCategory} {stats : LatencyStats}
    (hstats : (produceSummary (aggregate snapshots)).latencyStats category =
      some stats) :
    IsLeast (minima category snapshots) stats.min := by
  rw [produceSummary,
    if_neg (MetricAggregator.count_aggregate_ne_zero hne)] at hstats
  obtain ⟨running, hrunning, rfl⟩ := Option.map_eq_some_iff.mp hstats
  rw [MetricAggregator.latencyRunning_aggregate] at hrunning
  rw [← minimaOf_samplesOf]
  exact (isLeast_minMin hrunning).2

theorem exists_summary_stats {snapshots : List FeedMetricsSnapshot}
    (hne : snapshots ≠ []) (htaken : ∀ snapshot ∈ snapshots, Taken snapshot)
    (category : LatencyCategory) :
    ∃ stats,
      (produceSummary (aggregate snapshots)).latencyStats category =
        some stats ∧ stats.min ≤ stats.average := by
  have hstarted : Started {} := .inl rfl
  have haggregated := hstarted.aggregated.foldl htaken
  rw [Nat.zero_add] at haggregated
  have hpositive : 0 < snapshots.length := List.length_pos_iff.mpr hne
  rcases haggregated.latency category with
    ⟨hzero, -⟩ | ⟨running, hsome, hsums⟩
  · exact absurd hzero hpositive.ne'
  · refine ⟨running.summary snapshots.length, ?_,
      (hsums.summary_ordered hpositive).min_average⟩
    rw [produceSummary,
      if_neg (MetricAggregator.count_aggregate_ne_zero hne), aggregate]
    simp only [hsome, Option.map_some, haggregated.count]

/-! ## Exactly when empty seconds do not count -/

section Interval

variable {category : LatencyCategory} {snapshots : List FeedMetricsSnapshot}

theorem measuredMinima_subset :
    measuredMinima category snapshots ⊆ minima category snapshots := by
  rintro low ⟨snapshot, hsnapshot, stats, hstats, -, hlow⟩
  exact ⟨snapshot, hsnapshot, stats, hstats, hlow⟩

/-- A minimum comes from a measurement, or is the zero of an empty window. -/
theorem mem_minima_cases (htaken : ∀ snapshot ∈ snapshots, Taken snapshot)
    {low : ℚ} (hlow : low ∈ minima category snapshots) :
    low ∈ measuredMinima category snapshots ∨
      low = 0 ∧ ∃ snapshot ∈ snapshots, ¬ Measured category snapshot := by
  obtain ⟨snapshot, hsnapshot, stats, hstats, rfl⟩ := hlow
  by_cases hmeasured : Measured category snapshot
  · obtain ⟨other, hother, hcount⟩ := hmeasured
    obtain rfl := Option.some.inj (hstats.symm.trans hother)
    exact .inl ⟨snapshot, hsnapshot, stats, hstats, hcount, rfl⟩
  · have hzero := (htaken snapshot hsnapshot).zero_of_unmeasured hmeasured
    obtain rfl := Option.some.inj (hstats.symm.trans hzero)
    exact .inr ⟨rfl, snapshot, hsnapshot, hmeasured⟩

theorem zero_mem_minima (htaken : ∀ snapshot ∈ snapshots, Taken snapshot)
    {snapshot : FeedMetricsSnapshot} (hsnapshot : snapshot ∈ snapshots)
    (hnone : ¬ Measured category snapshot) :
    0 ∈ minima category snapshots :=
  ⟨snapshot, hsnapshot, {},
    (htaken snapshot hsnapshot).zero_of_unmeasured hnone, rfl⟩

theorem isLeast_measuredMinima_iff
    (htaken : ∀ snapshot ∈ snapshots, Taken snapshot) {low : ℚ}
    (hleast : IsLeast (minima category snapshots) low) :
    IsLeast (measuredMinima category snapshots) low ↔
      (∀ snapshot ∈ snapshots, Measured category snapshot) ∨
        ∃ measured ∈ measuredMinima category snapshots, measured ≤ 0 := by
  have hlower : low ∈ lowerBounds (measuredMinima category snapshots) :=
    fun other hother => hleast.2 (measuredMinima_subset hother)
  constructor
  · intro hmeasured
    by_contra hneither
    rw [not_or] at hneither
    obtain ⟨hnotAll, hpositive⟩ := hneither
    push Not at hnotAll
    obtain ⟨snapshot, hsnapshot, hnone⟩ := hnotAll
    have hzero : low ≤ 0 := hleast.2 (zero_mem_minima htaken hsnapshot hnone)
    exact hpositive ⟨low, hmeasured.1, hzero⟩
  · intro hcondition
    refine ⟨?_, hlower⟩
    rcases mem_minima_cases htaken hleast.1 with hmem | ⟨rfl, hempty⟩
    · exact hmem
    · rcases hcondition with hall | ⟨measured, hmeasured, hnonpos⟩
      · obtain ⟨snapshot, hsnapshot, hnone⟩ := hempty
        exact absurd (hall snapshot hsnapshot) hnone
      · have hzero : measured = 0 := le_antisymm hnonpos (hlower hmeasured)
        exact hzero ▸ hmeasured

end Interval

/-- The collector is started, and a snapshot is taken every second. -/
def started : StartReading := ⟨0, 0, 0⟩

def second : SnapshotReading :=
  ⟨1000000000, 0, 0, ⟨0, 0, none, 0, 0, 0⟩, fun _ => 0⟩

/-- One measurement of three milliseconds. -/
def measuredSecond : FeedMetricsSnapshot :=
  (getSnapshot second (runEvents (new started)
    [.latency (.endLatencyMeasurement 0 3000000 .parsing)])).1

def emptySecond : FeedMetricsSnapshot :=
  (getSnapshot second (new started)).1

theorem taken_measuredSecond : Taken measuredSecond := ⟨_, _, _, rfl⟩

theorem taken_emptySecond : Taken emptySecond := ⟨started, [], second, rfl⟩

theorem measured_measuredSecond : Measured .parsing measuredSecond :=
  ⟨_, rfl, by decide⟩

theorem pos_of_mem_measuredMinima {low : ℚ}
    (hlow : low ∈ measuredMinima .parsing [measuredSecond, emptySecond]) :
    0 < low := by
  obtain ⟨snapshot, hsnapshot, stats, hstats, hcount, rfl⟩ := hlow
  rcases List.mem_pair.mp hsnapshot with rfl | rfl
  · obtain rfl := Option.some.inj hstats
    decide +kernel
  · obtain rfl := Option.some.inj hstats
    exact absurd hcount (by decide)

end Datafeed.MetricsCollector
