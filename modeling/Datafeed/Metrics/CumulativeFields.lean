import Datafeed.Metrics.AggregatorHistory
import Mathlib.Algebra.Group.Action.Defs
import Mathlib.Algebra.Order.BigOperators.Group.List

/-!
# Counters and high-water marks in a summary

The monitors never decrease a counter or a high-water mark.  `addSnapshot` keeps
the last value of most of them, but adds up the overflow count, the three marks
of the queues and the counters of each exchange, and `produceSummary` divides
these sums like those of gauges.
-/

namespace Datafeed.MetricAggregator

open ExchangeMonitor (ExchangeStats)

/-! ## The cumulative fields -/

/-- The overflow count and the `max_…_queue_depth` marks. -/
inductive Mark
  | queueOverflowCount
  | maxIncomingQueueDepth
  | maxOutgoingQueueDepth
  | maxSerializationQueueDepth
  deriving DecidableEq

def Mark.level : Mark → Level
  | queueOverflowCount => .queueOverflowCount
  | maxIncomingQueueDepth => .maxIncomingQueueDepth
  | maxOutgoingQueueDepth => .maxOutgoingQueueDepth
  | maxSerializationQueueDepth => .maxSerializationQueueDepth

/-- The counters of one exchange. -/
inductive ExchangeCounter
  | reconnectCount
  | heartbeatFailures
  | websocketDisconnects
  | messagesReceived
  | messagesDropped
  | parseErrors
  deriving DecidableEq

def ExchangeCounter.read (stats : ExchangeStats) : ExchangeCounter → UInt64
  | reconnectCount => stats.reconnectCount
  | heartbeatFailures => stats.heartbeatFailures
  | websocketDisconnects => stats.websocketDisconnects
  | messagesReceived => stats.messagesReceived
  | messagesDropped => stats.messagesDropped
  | parseErrors => stats.parseErrors

inductive Field
  | counter (counter : Counter)
  | mark (mark : Mark)
  | exchange (name : String) (counter : ExchangeCounter)
  deriving DecidableEq

/-- The value of a field; a snapshot need not have every exchange. -/
def Field.read (s : FeedMetricsSnapshot) : Field → Option UInt64
  | counter total => some (s.counters total)
  | mark peak => some (s.levels peak.level)
  | exchange name total =>
      (s.exchangeStats name).map fun stats => total.read stats

/-- The values of a field in the snapshots that have it. -/
def Field.values (field : Field) (snapshots : List FeedMetricsSnapshot) :
    List UInt64 :=
  snapshots.filterMap (field.read ·)

def NonDecreasing (snapshots : List FeedMetricsSnapshot) : Prop :=
  ∀ field : Field, (field.values snapshots).Pairwise (· ≤ ·)

/-- The summary has the last value of the field, if there is one. -/
def ReportsLast (field : Field) (summary : FeedMetricsSnapshot)
    (snapshots : List FeedMetricsSnapshot) : Prop :=
  field.read summary = (field.values snapshots).getLast?

/-- `addSnapshot` keeps the last value of the field. -/
def Field.Kept : Field → Prop
  | counter _ => True
  | mark _ | exchange _ _ => False

/-- All values are equal, and their sum fits 64 bits. -/
def Steady (values : List UInt64) : Prop :=
  ∀ value ∈ values, values.getLast? = some value ∧
    values.length * value.toNat < UInt64.size

/-! ## When a mean is the last value -/

theorem sum_le_length_mul {values : List ℕ} {last : ℕ}
    (hlast : ∀ value ∈ values, value ≤ last) :
    values.sum ≤ values.length * last :=
  (List.sum_le_card_nsmul values last hlast).trans_eq (smul_eq_mul _ _)

theorem eq_of_sum_eq {values : List ℕ} {last : ℕ}
    (hlast : ∀ value ∈ values, value ≤ last)
    (hsum : values.sum = values.length * last) :
    ∀ value ∈ values, value = last := by
  induction values with
  | nil => simp
  | cons head values ih =>
      have hhead := hlast head List.mem_cons_self
      have hbelow : ∀ value ∈ values, value ≤ last := fun value hvalue =>
        hlast value (List.mem_cons_of_mem _ hvalue)
      have hrest := sum_le_length_mul hbelow
      rw [List.sum_cons, List.length_cons, Nat.succ_mul] at hsum
      refine List.forall_mem_cons.mpr ⟨by omega, ih hbelow (by omega)⟩

/-- A mean of a wrapped sum reaches the greatest value only if nothing has
wrapped and every value is the greatest. -/
theorem mean_eq_last_iff {values : List ℕ} {last size : ℕ} (hne : values ≠ [])
    (hsize : 0 < size) (hlast : ∀ value ∈ values, value ≤ last) :
    values.sum % size / values.length = last ↔
      (∀ value ∈ values, value = last) ∧ values.length * last < size := by
  have hlength : 0 < values.length := List.length_pos_iff.mpr hne
  have hsum := sum_le_length_mul hlast
  constructor
  · intro hmean
    have hreach : last * values.length ≤ values.sum % size :=
      (Nat.le_div_iff_mul_le hlength).mp hmean.ge
    have hwrap : values.sum % size ≤ values.sum := Nat.mod_le _ _
    have hbound : values.sum % size < size := Nat.mod_lt _ hsize
    have hcomm : last * values.length = values.length * last :=
      Nat.mul_comm _ _
    exact ⟨eq_of_sum_eq hlast (by omega), by omega⟩
  · rintro ⟨hall, hfits⟩
    have htotal : values.sum = values.length * last := by
      rw [List.eq_replicate_of_mem hall, List.sum_replicate, smul_eq_mul,
        List.length_replicate]
    rw [htotal, Nat.mod_eq_of_lt hfits, Nat.mul_div_cancel_left _ hlength]

/-- The same for 64-bit values that do not decrease. -/
theorem mean_eq_getLast_iff {values : List UInt64} {sum : UInt64}
    (hne : values ≠ []) (hlength : values.length < UInt64.size)
    (hsorted : values.Pairwise (· ≤ ·))
    (hsum : sum.toNat = (values.map UInt64.toNat).sum % UInt64.size) :
    some (sum / UInt64.ofNat values.length) = values.getLast? ↔
      Steady values := by
  have hlast : ∀ value ∈ values, value.toNat ≤ (values.getLast hne).toNat := by
    intro value hvalue
    exact UInt64.le_iff_toNat_le.mp (hsorted.rel_getLast hvalue)
  have hnats : values.map UInt64.toNat ≠ [] := by simpa using hne
  have hmean := mean_eq_last_iff hnats (by decide : 0 < UInt64.size)
    (List.forall_mem_map.mpr hlast)
  rw [List.length_map, ← hsum, List.forall_mem_map] at hmean
  rw [List.getLast?_eq_getLast_of_ne_nil hne, Option.some.injEq,
    ← UInt64.toNat_inj, UInt64.toNat_div, toNat_ofNat_length hlength, hmean,
    Steady, List.getLast?_eq_getLast_of_ne_nil hne]
  constructor
  · rintro ⟨hall, hfits⟩ value hvalue
    have heq := hall value hvalue
    exact ⟨congrArg some (UInt64.toNat_inj.mp heq).symm, heq ▸ hfits⟩
  · intro hsteady
    refine ⟨fun value hvalue => ?_, (hsteady _ (List.getLast_mem hne)).2⟩
    rw [Option.some.inj (hsteady value hvalue).1]

/-! ## The fields of a summary -/

section Summary

variable {snapshots : List FeedMetricsSnapshot}

theorem values_counter (total : Counter) :
    (Field.counter total).values snapshots =
      snapshots.map (·.counters total) :=
  congrFun List.filterMap_eq_map' snapshots

theorem values_mark (peak : Mark) :
    (Field.mark peak).values snapshots =
      snapshots.map (·.levels peak.level) :=
  congrFun List.filterMap_eq_map' snapshots

theorem values_exchange (name : String) (total : ExchangeCounter) :
    (Field.exchange name total).values snapshots =
      (samplesOf (·.exchangeStats) snapshots name).map fun stats =>
        total.read stats := by
  rw [Field.values, samplesOf, List.map_filterMap]
  rfl

theorem reportsLast_counter (hne : snapshots ≠ []) (total : Counter) :
    ReportsLast (.counter total) (produceSummary (aggregate snapshots))
      snapshots := by
  have hcount := count_aggregate_ne_zero hne
  rcases List.eq_nil_or_concat' snapshots with rfl | ⟨earlier, s, rfl⟩
  · exact absurd rfl hne
  · rw [ReportsLast, values_counter, List.map_append, List.map_singleton,
      List.getLast?_concat, Field.read, produceSummary, if_neg hcount,
      aggregate_append]
    rfl

theorem read_mark (hne : snapshots ≠ []) (peak : Mark) :
    (Field.mark peak).read (produceSummary (aggregate snapshots)) =
      some ((aggregate snapshots).sumLevel peak.level /
        UInt64.ofNat snapshots.length) := by
  have hlevel : peak.level ≠ .threadCount := by cases peak <;> decide
  rw [Field.read, levels_produceSummary hne, levelMean, if_neg hlevel]

theorem reportsLast_mark_iff (hne : snapshots ≠ [])
    (hlength : snapshots.length < UInt64.size)
    (hcumulative : NonDecreasing snapshots) (peak : Mark) :
    ReportsLast (.mark peak) (produceSummary (aggregate snapshots)) snapshots ↔
      Steady ((Field.mark peak).values snapshots) := by
  have hsorted := hcumulative (.mark peak)
  rw [ReportsLast, read_mark hne]
  rw [values_mark] at hsorted ⊢
  have hsum : ((aggregate snapshots).sumLevel peak.level).toNat =
      ((snapshots.map (·.levels peak.level)).map UInt64.toNat).sum %
        UInt64.size := by
    rw [sumLevel_aggregate, List.map_map]
    rfl
  have hmean := mean_eq_getLast_iff (by simpa using hne)
    (by simpa using hlength) hsorted hsum
  rwa [List.length_map] at hmean

/-- The sum that `addSnapshot` keeps for a counter of an exchange. -/
def ExchangeCounter.sum (running : ExchangeRunning) : ExchangeCounter → UInt64
  | reconnectCount => running.sumReconn
  | heartbeatFailures => running.sumHbFail
  | websocketDisconnects => running.sumWsDisc
  | messagesReceived => running.sumMsgsRecv
  | messagesDropped => running.sumMsgsDrop
  | parseErrors => running.sumParseErr

theorem sum_add (total : ExchangeCounter) (stats : ExchangeStats)
    (running : ExchangeRunning) :
    total.sum (ExchangeRunning.add stats running) =
      total.sum running + total.read stats := by
  cases total <;> rfl

theorem read_summary (total : ExchangeCounter) (running : ExchangeRunning) :
    total.read running.summary =
      total.sum running / UInt64.ofNat running.sampleCount := by
  cases total <;> rfl

theorem toNat_sum_exchangeRunningOf (total : ExchangeCounter)
    (samples : List ExchangeStats) :
    (total.sum (exchangeRunningOf samples)).toNat =
      (samples.map fun stats => (total.read stats).toNat).sum %
        UInt64.size := by
  induction samples using List.reverseRecOn with
  | nil => cases total <;> rfl
  | append_singleton samples stats ih =>
      rw [exchangeRunningOf_append, sum_add, UInt64.toNat_add, ih,
        List.map_append, List.sum_append]
      exact Nat.mod_add_mod _ _ _

theorem reportsLast_exchange_iff (hne : snapshots ≠ [])
    (hlength : snapshots.length < UInt64.size)
    (hcumulative : NonDecreasing snapshots) (name : String)
    (total : ExchangeCounter) :
    ReportsLast (.exchange name total) (produceSummary (aggregate snapshots))
        snapshots ↔
      Steady ((Field.exchange name total).values snapshots) := by
  have hsorted := hcumulative (.exchange name total)
  rw [ReportsLast, Field.read, exchangeStats_produceSummary hne]
  rw [values_exchange] at hsorted ⊢
  have hshort : (samplesOf (·.exchangeStats) snapshots name).length <
      UInt64.size := (List.length_filterMap_le _ _).trans_lt hlength
  generalize samplesOf (·.exchangeStats) snapshots name = samples at *
  by_cases hsamples : samples = []
  · subst hsamples
    exact iff_of_true rfl (by simp [Steady])
  · simp only [if_neg hsamples, Option.map_some, read_summary,
      sampleCount_exchangeRunningOf]
    have hsum : (total.sum (exchangeRunningOf samples)).toNat =
        ((samples.map fun stats => total.read stats).map UInt64.toNat).sum %
          UInt64.size := by
      rw [toNat_sum_exchangeRunningOf, List.map_map]
      rfl
    have hmean := mean_eq_getLast_iff (by simpa using hsamples)
      (by simpa using hshort) hsorted hsum
    rwa [List.length_map] at hmean

end Summary

/-- A summary has the last value of a cumulative field exactly when the field is
one of those whose last value is kept, or has not changed at all in the
snapshots and its sum has not wrapped. -/
theorem reportsLast_iff {history : List Operation}
    (hne : sinceReset history ≠ [])
    (hlength : (sinceReset history).length < UInt64.size)
    (hcumulative : NonDecreasing (sinceReset history)) (field : Field) :
    ReportsLast field (produceSummary (run history)) (sinceReset history) ↔
      field.Kept ∨ Steady (field.values (sinceReset history)) := by
  rw [produceSummary_run]
  cases field with
  | counter total =>
      exact iff_of_true (reportsLast_counter hne total) (.inl trivial)
  | mark peak =>
      rw [reportsLast_mark_iff hne hlength hcumulative]
      exact (false_or _).symm.to_iff
  | exchange name total =>
      rw [reportsLast_exchange_iff hne hlength hcumulative]
      exact (false_or _).symm.to_iff

/-- A second with the given number of queue overflows so far. -/
def overflowed (count : UInt64) : FeedMetricsSnapshot where
  levels level := if level = .queueOverflowCount then count else 0

theorem nonDecreasing_overflowed :
    NonDecreasing [overflowed 0, overflowed 1] := by
  intro field
  cases field with
  | counter total => simp [Field.values, Field.read, overflowed]
  | mark peak => cases peak <;> decide
  | exchange name total => simp [Field.values, Field.read, overflowed]

theorem reportsLast_iff_overflowed :
    ReportsLast (.mark .maxIncomingQueueDepth)
      (produceSummary
        (run [.addSnapshot (overflowed 0), .addSnapshot (overflowed 1)]))
      [overflowed 0, overflowed 1] := by
  have hhistory : sinceReset [.addSnapshot (overflowed 0),
      .addSnapshot (overflowed 1)] = [overflowed 0, overflowed 1] := rfl
  refine (reportsLast_iff (hhistory ▸ List.cons_ne_nil _ _)
    (hhistory ▸ (by decide)) (hhistory ▸ nonDecreasing_overflowed) _).mpr
      (.inr ?_)
  have hvalues : (Field.mark .maxIncomingQueueDepth).values
      [overflowed 0, overflowed 1] = [0, 0] := rfl
  rw [hhistory, hvalues]
  intro value hvalue
  obtain rfl : value = 0 := by simpa using hvalue
  exact ⟨rfl, by decide⟩

/-- One overflow in the second of two seconds is not in the summary. -/
theorem overflow_disappears :
    ¬ ∀ history, sinceReset history ≠ [] → NonDecreasing (sinceReset history) →
      ∀ field, ReportsLast field (produceSummary (run history))
        (sinceReset history) := by
  intro hclaim
  have hreported := hclaim
    [.addSnapshot (overflowed 0), .addSnapshot (overflowed 1)]
    (List.cons_ne_nil _ _) nonDecreasing_overflowed (.mark .queueOverflowCount)
  have hzero : (Field.mark .queueOverflowCount).read (produceSummary
      (run [.addSnapshot (overflowed 0), .addSnapshot (overflowed 1)])) =
        some 0 := by
    decide
  have hlast : (Field.mark .queueOverflowCount).values
      [overflowed 0, overflowed 1] = [0, 1] := by
    decide
  rw [ReportsLast, hzero] at hreported
  exact absurd (hreported.trans (congrArg List.getLast? hlast)) (by decide)

end Datafeed.MetricAggregator
