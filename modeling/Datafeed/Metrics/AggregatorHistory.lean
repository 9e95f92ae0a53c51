import Datafeed.Metrics.MetricAggregator
import Mathlib.Algebra.BigOperators.Group.List.Basic
import Mathlib.Tactic.Ring

/-!
# Histories of the aggregator

Between two calls of `reset` the aggregator takes snapshots and produces
summaries.  A summary is a function of the snapshots since the last reset: its
rates and gauges are their means, the integral ones rounded down, and its flags
their majorities.
-/

namespace Datafeed.MetricAggregator

open ExchangeMonitor (ExchangeStats)

/-! ## Histories -/

inductive Operation
  | addSnapshot (snapshot : FeedMetricsSnapshot)
  | produceSummary
  | reset

/-- `produceSummary` changes nothing. -/
def Aggregator.apply (aggregator : Aggregator) : Operation → Aggregator
  | .addSnapshot snapshot => addSnapshot aggregator snapshot
  | .produceSummary => aggregator
  | .reset => reset aggregator

/-- The aggregator after a history of calls. -/
def run (history : List Operation) : Aggregator :=
  history.foldl Aggregator.apply {}

def snapshotsAfter (snapshots : List FeedMetricsSnapshot) :
    Operation → List FeedMetricsSnapshot
  | .addSnapshot snapshot => snapshots ++ [snapshot]
  | .produceSummary => snapshots
  | .reset => []

/-- The snapshots added since the last reset. -/
def sinceReset (history : List Operation) : List FeedMetricsSnapshot :=
  history.foldl snapshotsAfter []

theorem Aggregator.Agrees.apply {aggregator : Aggregator}
    {snapshots : List FeedMetricsSnapshot}
    (hagrees : aggregator.Agrees (aggregate snapshots))
    (operation : Operation) :
    (aggregator.apply operation).Agrees
      (aggregate (snapshotsAfter snapshots operation)) := by
  cases operation with
  | addSnapshot snapshot =>
      rw [snapshotsAfter, aggregate_append]
      exact hagrees.addSnapshot snapshot
  | produceSummary => exact hagrees
  | reset => exact agrees_reset aggregator

theorem run_agrees (history : List Operation) :
    (run history).Agrees (aggregate (sinceReset history)) := by
  have hstart : ({} : Aggregator).Agrees (aggregate []) := rfl
  rw [run, sinceReset]
  generalize ({} : Aggregator) = aggregator at hstart ⊢
  generalize ([] : List FeedMetricsSnapshot) = snapshots at hstart ⊢
  induction history generalizing aggregator snapshots with
  | nil => exact hstart
  | cons operation history ih => exact ih _ _ (hstart.apply operation)

/-- A summary is that of a fresh aggregator with the snapshots since the last
reset. -/
theorem produceSummary_run (history : List Operation) :
    produceSummary (run history) =
      produceSummary (aggregate (sinceReset history)) :=
  (run_agrees history).produceSummary_eq

/-! ## What the accumulators hold -/

theorem initialized_aggregate {snapshots : List FeedMetricsSnapshot}
    (hne : snapshots ≠ []) (group : Group) :
    (aggregate snapshots).initialized group = true := by
  rcases List.eq_nil_or_concat' snapshots with rfl | ⟨earlier, s, rfl⟩
  · exact absurd rfl hne
  · rw [aggregate_append]
    rfl

/-- The first sample of a group is assigned, the later ones are added. -/
theorem accumulate_aggregate {Value : Type} [AddZeroClass Value]
    {snapshots : List FeedMetricsSnapshot} {sum : Value}
    (hnil : snapshots = [] → sum = 0) (group : Group) (value : Value) :
    accumulate ((aggregate snapshots).initialized group) sum value =
      sum + value := by
  by_cases hne : snapshots = []
  · subst hne
    rw [hnil rfl, zero_add]
    rfl
  · rw [initialized_aggregate hne]
    rfl

theorem sumGauge_aggregate (snapshots : List FeedMetricsSnapshot)
    (gauge : Gauge) :
    (aggregate snapshots).sumGauge gauge =
      (snapshots.map (·.gauges gauge)).sum := by
  induction snapshots using List.reverseRecOn with
  | nil => rfl
  | append_singleton snapshots s ih =>
      have hnil : snapshots = [] → (aggregate snapshots).sumGauge gauge = 0 := by
        rintro rfl
        rfl
      rw [aggregate_append, List.map_append, List.sum_append, ← ih]
      simp only [addSnapshot, accumulate_aggregate hnil, List.map_cons,
        List.map_nil, List.sum_singleton]

/-- The sum of a 64-bit field wraps. -/
theorem sumLevel_aggregate (snapshots : List FeedMetricsSnapshot)
    (level : Level) :
    ((aggregate snapshots).sumLevel level).toNat =
      (snapshots.map fun s => (s.levels level).toNat).sum % UInt64.size := by
  induction snapshots using List.reverseRecOn with
  | nil => rfl
  | append_singleton snapshots s ih =>
      have hstep : (aggregate (snapshots ++ [s])).sumLevel level =
          (aggregate snapshots).sumLevel level + s.levels level := by
        rw [aggregate_append]
        by_cases hne : snapshots = []
        · subst hne
          exact (UInt64.zero_add _).symm
        · simp only [addSnapshot, initialized_aggregate hne, accumulate, if_true]
      rw [hstep, UInt64.toNat_add, ih, List.map_append, List.sum_append]
      exact Nat.mod_add_mod _ _ _

theorem foldl_accumRate_sum (values : Rate → ℚ) {order : List Rate}
    (hnodup : order.Nodup) (running : RateRunning) (rate : Rate) :
    (order.foldl (accumRate values) running).sum rate =
      running.sum rate + if rate ∈ order then values rate else 0 := by
  induction order generalizing running with
  | nil => simp
  | cons head order ih =>
      obtain ⟨hhead, hrest⟩ := List.nodup_cons.mp hnodup
      rw [List.foldl_cons, ih hrest]
      by_cases hsame : rate = head
      · subst hsame
        simp [accumRate, hhead]
      · simp [accumRate, hsame]

theorem sumRate_aggregate (snapshots : List FeedMetricsSnapshot) (rate : Rate) :
    (aggregate snapshots).rates.sum rate =
      (snapshots.map (·.rates rate)).sum := by
  have hall : rate ∈ Rate.all := by cases rate <;> decide
  induction snapshots using List.reverseRecOn with
  | nil => rfl
  | append_singleton snapshots s ih =>
      rw [aggregate_append, List.map_append, List.sum_append, ← ih]
      simp only [addSnapshot]
      rw [foldl_accumRate_sum _ (by decide), if_pos hall]
      simp

theorem countIf_eq (flag : Bool) (number : ℕ) :
    countIf flag number = number + if flag then 1 else 0 := by
  cases flag <;> rfl

theorem bpTrueCount_aggregate (snapshots : List FeedMetricsSnapshot) :
    (aggregate snapshots).bpTrueCount =
      snapshots.countP (·.queueBackpressure) := by
  induction snapshots using List.reverseRecOn with
  | nil => rfl
  | append_singleton snapshots s ih =>
      rw [aggregate_append, List.countP_append, List.countP_singleton]
      by_cases hne : snapshots = []
      · subst hne
        exact (Nat.zero_add _).symm
      · simp only [addSnapshot, initialized_aggregate hne, if_true, countIf_eq, ih]

theorem staleTrueCount_aggregate (snapshots : List FeedMetricsSnapshot) :
    (aggregate snapshots).staleTrueCount = snapshots.countP (·.staleFeed) := by
  induction snapshots using List.reverseRecOn with
  | nil => rfl
  | append_singleton snapshots s ih =>
      rw [aggregate_append, List.countP_append, List.countP_singleton]
      simp only [addSnapshot, countIf_eq, ih]

/-! ## The entries of the maps -/

/-- The samples of a key in the snapshots that have one. -/
def samplesOf {Key Sample : Type}
    (samples : FeedMetricsSnapshot → Key → Option Sample)
    (snapshots : List FeedMetricsSnapshot) (key : Key) : List Sample :=
  snapshots.filterMap (samples · key)

/-- An entry after a list of samples; a key without samples has none. -/
def entryOf {Sample Running : Type} (add : Sample → Running → Running)
    (initial : Running) (samples : List Sample) : Option Running :=
  if samples = [] then none
  else some (samples.foldl (fun running sample => add sample running) initial)

theorem entryOf_append {Sample Running : Type}
    (add : Sample → Running → Running) (initial : Running)
    (samples : List Sample) (sample : Sample) :
    entryOf add initial (samples ++ [sample]) =
      some (add sample ((entryOf add initial samples).getD initial)) := by
  rw [entryOf, if_neg (by simp), List.foldl_append]
  by_cases hnil : samples = []
  · subst hnil
    rfl
  · rw [entryOf, if_neg hnil]
    rfl

theorem addEntry_entryOf {Key Sample Running : Type}
    (add : Sample → Running → Running) (initial : Running)
    (samples : FeedMetricsSnapshot → Key → Option Sample)
    {snapshots : List FeedMetricsSnapshot} {entries : Key → Option Running}
    {key : Key} (hentry : entries key =
      entryOf add initial (samplesOf samples snapshots key))
    (s : FeedMetricsSnapshot) :
    addEntry add initial (samples s) entries key =
      entryOf add initial (samplesOf samples (snapshots ++ [s]) key) := by
  rw [addEntry, samplesOf, List.filterMap_append]
  cases hsample : samples s key with
  | none => simpa [hsample, samplesOf] using hentry
  | some sample =>
      have hsingle : [s].filterMap (samples · key) = [sample] := by
        simp [hsample]
      rw [hsingle, entryOf_append]
      simp only [hentry, samplesOf]

theorem latencyRunning_aggregate (snapshots : List FeedMetricsSnapshot)
    (category : LatencyCategory) :
    (aggregate snapshots).latencyRunning category =
      entryOf LatencyRunning.add {}
        (samplesOf (·.latencyStats) snapshots category) := by
  induction snapshots using List.reverseRecOn with
  | nil => rfl
  | append_singleton snapshots s ih =>
      rw [aggregate_append]
      exact addEntry_entryOf _ _ (·.latencyStats) ih s

theorem exchangeRunning_aggregate (snapshots : List FeedMetricsSnapshot)
    (name : String) :
    (aggregate snapshots).exchangeRunning name =
      entryOf ExchangeRunning.add {}
        (samplesOf (·.exchangeStats) snapshots name) := by
  induction snapshots using List.reverseRecOn with
  | nil => rfl
  | append_singleton snapshots s ih =>
      rw [aggregate_append]
      exact addEntry_entryOf _ _ (·.exchangeStats) ih s

/-- The running entry of an exchange after its samples. -/
def exchangeRunningOf (samples : List ExchangeStats) : ExchangeRunning :=
  samples.foldl (fun running stats => ExchangeRunning.add stats running) {}

theorem exchangeRunningOf_append (samples : List ExchangeStats)
    (stats : ExchangeStats) :
    exchangeRunningOf (samples ++ [stats]) =
      ExchangeRunning.add stats (exchangeRunningOf samples) := by
  rw [exchangeRunningOf, List.foldl_append]
  rfl

theorem sampleCount_exchangeRunningOf (samples : List ExchangeStats) :
    (exchangeRunningOf samples).sampleCount = samples.length := by
  induction samples using List.reverseRecOn with
  | nil => rfl
  | append_singleton samples stats ih =>
      rw [exchangeRunningOf_append, List.length_append]
      exact congrArg (· + 1) ih

theorem connectedCount_exchangeRunningOf (samples : List ExchangeStats) :
    (exchangeRunningOf samples).connectedCount =
      samples.countP (·.connected) := by
  induction samples using List.reverseRecOn with
  | nil => rfl
  | append_singleton samples stats ih =>
      rw [exchangeRunningOf_append, List.countP_append, List.countP_singleton]
      simp only [ExchangeRunning.add, countIf_eq, ih]

theorem staleCount_exchangeRunningOf (samples : List ExchangeStats) :
    (exchangeRunningOf samples).staleCount = samples.countP (·.stale) := by
  induction samples using List.reverseRecOn with
  | nil => rfl
  | append_singleton samples stats ih =>
      rw [exchangeRunningOf_append, List.countP_append, List.countP_singleton]
      simp only [ExchangeRunning.add, countIf_eq, ih]

theorem count_aggregate_ne_zero {snapshots : List FeedMetricsSnapshot}
    (hne : snapshots ≠ []) : (aggregate snapshots).count ≠ 0 := by
  rw [count_aggregate]
  exact (List.length_pos_iff.mpr hne).ne'

theorem exchangeStats_produceSummary {snapshots : List FeedMetricsSnapshot}
    (hne : snapshots ≠ []) (name : String) :
    (produceSummary (aggregate snapshots)).exchangeStats name =
      let samples := samplesOf (·.exchangeStats) snapshots name
      if samples = [] then none
      else some (exchangeRunningOf samples).summary := by
  simp only [produceSummary, if_neg (count_aggregate_ne_zero hne),
    exchangeRunning_aggregate, entryOf]
  split <;> rfl

/-! ## Means and majorities -/

/-- More than half, by integer division. -/
theorem majority_iff (count number : ℕ) :
    count > number / 2 ↔ number < 2 * count := by
  omega

/-- The arithmetic mean of a field. -/
def mean (field : FeedMetricsSnapshot → ℚ)
    (snapshots : List FeedMetricsSnapshot) : ℚ :=
  (snapshots.map field).sum / snapshots.length

/-- The true sum of an integral field. -/
def levelSum (level : Level) (snapshots : List FeedMetricsSnapshot) : ℕ :=
  (snapshots.map fun s => (s.levels level).toNat).sum

/-- The flag is set in more than half of the samples. -/
def Majority {Sample : Type} (flag : Sample → Bool) (samples : List Sample) :
    Prop :=
  samples.length < 2 * samples.countP flag

/-- What the summary of a list of snapshots says. -/
structure MeansOf (summary : FeedMetricsSnapshot)
    (snapshots : List FeedMetricsSnapshot) : Prop where
  rates : ∀ rate, summary.rates rate = mean (·.rates rate) snapshots
  gauges : ∀ gauge, summary.gauges gauge = mean (·.gauges gauge) snapshots
  levels : ∀ level, (summary.levels level).toNat =
    levelSum level snapshots / snapshots.length
  queueBackpressure : summary.queueBackpressure = true ↔
    Majority (·.queueBackpressure) snapshots
  staleFeed : summary.staleFeed = true ↔ Majority (·.staleFeed) snapshots
  absent : ∀ name, samplesOf (·.exchangeStats) snapshots name = [] →
    summary.exchangeStats name = none
  exchange : ∀ name, samplesOf (·.exchangeStats) snapshots name ≠ [] →
    ∃ stats, summary.exchangeStats name = some stats ∧
      (stats.connected = true ↔
        Majority (·.connected) (samplesOf (·.exchangeStats) snapshots name)) ∧
      (stats.stale = true ↔
        Majority (·.stale) (samplesOf (·.exchangeStats) snapshots name))

/-- The divisors of `produceSummary`, in the types it divides in. -/
structure NoZeroDivisor (aggregator : Aggregator) : Prop where
  count : (aggregator.count : ℚ) ≠ 0 ∧ UInt64.ofNat aggregator.count ≠ 0
  sampleCount : ∀ name running,
    aggregator.exchangeRunning name = some running →
      (running.sampleCount : ℚ) ≠ 0 ∧
        UInt64.ofNat running.sampleCount ≠ 0

/-- The number of snapshots and the true sums fit 64 bits, the number of stale
ones the `int` they are counted in, and `thread_count` its 32 bits. -/
structure InRange (snapshots : List FeedMetricsSnapshot) : Prop where
  length : snapshots.length < UInt64.size
  stale : snapshots.countP (·.staleFeed) < 2 ^ 31
  levels : ∀ level, levelSum level snapshots < UInt64.size
  threads : ∀ s ∈ snapshots, (s.levels .threadCount).toNat < UInt32.size

theorem toNat_ofNat_length {Sample : Type} {samples : List Sample}
    (hlength : samples.length < UInt64.size) :
    (UInt64.ofNat samples.length).toNat = samples.length :=
  UInt64.toNat_ofNat_of_lt' hlength

theorem ofNat_length_ne_zero {Sample : Type} {samples : List Sample}
    (hne : samples ≠ []) (hlength : samples.length < UInt64.size) :
    UInt64.ofNat samples.length ≠ 0 := by
  intro hzero
  have hnat := toNat_ofNat_length hlength
  rw [hzero, UInt64.toNat_zero] at hnat
  exact hne (List.length_eq_zero_iff.mp hnat.symm)

/-- A sum of terms below a bound has a mean below it. -/
theorem sum_div_length_lt {values : List ℕ} {bound : ℕ} (hne : values ≠ [])
    (hbound : ∀ value ∈ values, value < bound) :
    values.sum / values.length < bound := by
  rw [Nat.div_lt_iff_lt_mul (List.length_pos_iff.mpr hne)]
  induction values with
  | nil => exact absurd rfl hne
  | cons head values ih =>
      have hhead := hbound head List.mem_cons_self
      rw [List.sum_cons, List.length_cons]
      by_cases hnil : values = []
      · subst hnil
        simpa using hhead
      · have hrest := ih hnil fun value hvalue =>
          hbound value (List.mem_cons_of_mem _ hvalue)
        calc
          head + values.sum < bound + bound * values.length :=
            add_lt_add hhead hrest
          _ = bound * (values.length + 1) := by ring

section Summary

variable {snapshots : List FeedMetricsSnapshot}

theorem levels_produceSummary (hne : snapshots ≠ []) (level : Level) :
    (produceSummary (aggregate snapshots)).levels level =
      levelMean snapshots.length ((aggregate snapshots).sumLevel level)
        level := by
  rw [produceSummary, if_neg (count_aggregate_ne_zero hne), count_aggregate]

/-- The quotient of the wrapped sum, before it is cut to 32 bits. -/
theorem toNat_quotient (hlength : snapshots.length < UInt64.size)
    (level : Level) :
    ((aggregate snapshots).sumLevel level /
        UInt64.ofNat snapshots.length).toNat =
      levelSum level snapshots % UInt64.size / snapshots.length := by
  rw [UInt64.toNat_div, sumLevel_aggregate, toNat_ofNat_length hlength]
  rfl

theorem InRange.toNat_levels (hrange : InRange snapshots)
    (hne : snapshots ≠ []) (level : Level) :
    ((produceSummary (aggregate snapshots)).levels level).toNat =
      levelSum level snapshots / snapshots.length := by
  have hquotient := toNat_quotient hrange.length level
  rw [Nat.mod_eq_of_lt (hrange.levels level)] at hquotient
  rw [levels_produceSummary hne, levelMean]
  split
  · next hthreads =>
      have hsmall : levelSum level snapshots / snapshots.length <
          UInt32.size := by
        have hvalues : snapshots.map (fun s => (s.levels level).toNat) ≠ [] := by
          simpa using hne
        have hmean := sum_div_length_lt hvalues (by
          rw [List.forall_mem_map, hthreads]
          exact hrange.threads)
        rwa [List.length_map] at hmean
      rw [UInt32.toNat_toUInt64, UInt64.toNat_toUInt32, hquotient]
      exact Nat.mod_eq_of_lt hsmall
  · exact hquotient

theorem produceSummary_meansOf (hne : snapshots ≠ [])
    (hrange : InRange snapshots) :
    MeansOf (produceSummary (aggregate snapshots)) snapshots := by
  have hcount := count_aggregate_ne_zero hne
  constructor
  · intro rate
    rw [produceSummary, if_neg hcount]
    simp only [sumRate_aggregate, count_aggregate, mean]
  · intro gauge
    rw [produceSummary, if_neg hcount]
    simp only [sumGauge_aggregate, count_aggregate, mean]
  · exact fun level => hrange.toNat_levels hne level
  · rw [produceSummary, if_neg hcount]
    simp only [bpTrueCount_aggregate, count_aggregate, decide_eq_true_eq,
      majority_iff, Majority]
  · rw [produceSummary, if_neg hcount]
    simp only [staleTrueCount_aggregate, count_aggregate, decide_eq_true_eq,
      majority_iff, Majority]
  · intro name hnil
    simp only [exchangeStats_produceSummary hne, if_pos hnil]
  · intro name hsamples
    refine ⟨(exchangeRunningOf
      (samplesOf (·.exchangeStats) snapshots name)).summary, ?_, ?_⟩
    · simp only [exchangeStats_produceSummary hne, if_neg hsamples]
    simp only [ExchangeRunning.summary, connectedCount_exchangeRunningOf,
      staleCount_exchangeRunningOf, sampleCount_exchangeRunningOf,
      decide_eq_true_eq, majority_iff, Majority, and_self]

theorem aggregate_noZeroDivisor (hne : snapshots ≠ [])
    (hlength : snapshots.length < UInt64.size) :
    NoZeroDivisor (aggregate snapshots) where
  count := by
    rw [count_aggregate]
    exact ⟨Nat.cast_ne_zero.mpr (List.length_pos_iff.mpr hne).ne',
      ofNat_length_ne_zero hne hlength⟩
  sampleCount name running hrunning := by
    rw [exchangeRunning_aggregate, entryOf] at hrunning
    split at hrunning
    · cases hrunning
    · next hsamples =>
        have hshort : (samplesOf (·.exchangeStats) snapshots name).length <
            UInt64.size :=
          (List.length_filterMap_le _ _).trans_lt hlength
        obtain rfl := Option.some.inj hrunning
        rw [← exchangeRunningOf, sampleCount_exchangeRunningOf]
        exact ⟨Nat.cast_ne_zero.mpr (List.length_pos_iff.mpr hsamples).ne',
          ofNat_length_ne_zero hsamples hshort⟩

end Summary

/-- After any history of calls the summary is the one of a fresh aggregator with
the snapshots since the last reset, and says the means and majorities of these
snapshots, without a division by zero. -/
theorem produceSummary_run_spec (history : List Operation) :
    produceSummary (run history) =
        produceSummary (aggregate (sinceReset history)) ∧
      (sinceReset history ≠ [] → InRange (sinceReset history) →
        MeansOf (produceSummary (run history)) (sinceReset history) ∧
          NoZeroDivisor (run history)) := by
  refine ⟨produceSummary_run history, fun hne hrange => ⟨?_, ?_⟩⟩
  · rw [produceSummary_run]
    exact produceSummary_meansOf hne hrange
  · have hagrees : (run history).withoutExtrema =
        (aggregate (sinceReset history)).withoutExtrema := run_agrees history
    have hcount : (run history).withoutExtrema.count =
        (aggregate (sinceReset history)).withoutExtrema.count := by
      rw [hagrees]
    have hentries : (run history).withoutExtrema.exchangeRunning =
        (aggregate (sinceReset history)).withoutExtrema.exchangeRunning := by
      rw [hagrees]
    have hdivisors := aggregate_noZeroDivisor hne hrange.length
    exact
      { count := hcount ▸ hdivisors.count
        sampleCount := hentries ▸ hdivisors.sampleCount }

/-- A connected exchange under load. -/
def loadedSnapshot : FeedMetricsSnapshot where
  rates _ := 5
  gauges _ := 3 / 2
  levels _ := 12
  queueBackpressure := true
  staleFeed := true
  exchangeStats name :=
    if name = "BINANCE" then some { connected := true } else none

/-- The same exchange, disconnected. -/
def idleSnapshot : FeedMetricsSnapshot where
  rates _ := 1
  levels _ := 5
  staleFeed := true
  exchangeStats name :=
    if name = "BINANCE" then some { stale := true } else none

/-- One snapshot before a reset, three after it. -/
def loadAfterReset : List Operation :=
  [.addSnapshot { queueBackpressure := true, rates := fun _ => 100 },
    .produceSummary, .reset, .addSnapshot loadedSnapshot,
    .addSnapshot idleSnapshot, .produceSummary, .addSnapshot loadedSnapshot]

theorem produceSummary_run_spec_reset :
    MeansOf (produceSummary (run loadAfterReset))
        [loadedSnapshot, idleSnapshot, loadedSnapshot] ∧
      (produceSummary (run loadAfterReset)).levels .memoryRss = 9 ∧
      (produceSummary (run loadAfterReset)).staleFeed = true := by
  have hrange : InRange [loadedSnapshot, idleSnapshot, loadedSnapshot] := by
    refine ⟨by decide, by decide, fun level => ?_, ?_⟩
    · cases level <;> decide
    · simp [loadedSnapshot, idleSnapshot, UInt32.size]
  have hmeans := ((produceSummary_run_spec loadAfterReset).2
    (List.cons_ne_nil _ _) hrange).1
  have hmajority : Majority (·.staleFeed) (sinceReset loadAfterReset) := by
    rw [Majority]
    decide
  exact ⟨hmeans, rfl, hmeans.staleFeed.mpr hmajority⟩

end Datafeed.MetricAggregator
