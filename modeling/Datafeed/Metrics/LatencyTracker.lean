import Datafeed.Core.Quantile
import Datafeed.Metrics.MetricAggregator
import Datafeed.Metrics.RingBuffer

/-!
# Latency windows

`LatencyTracker` keeps for each category the last measurements in a circular
window, a total count and the sum of the window, which it corrects by the value
it overwrites.  Its statistics are read off the window: minimum, maximum,
average and three percentiles, interpolated between neighbours of the sorted
samples.  Doubles are rationals; `total_count` is a 64-bit number of
measurements and stays far below its range.
-/

namespace Datafeed.LatencyTracker

open ExchangeMonitor (TimePoint)
open MetricAggregator (LatencyCategory LatencyStats)
open RingBuffer (slot)

variable {size : ℕ} [NeZero size]

/-! ## One window -/

/-- `head` is where the next measurement goes; the window is as long as
`window_size_`. -/
structure LatencyWindow (size : ℕ) where
  latencies : Fin size → ℚ
  head : Fin size
  totalCount : ℕ
  sumLatency : ℚ
  head_eq : (head : ℕ) = totalCount % size

namespace LatencyWindow

/-- A window as it is constructed, and as `clear` leaves it. -/
def empty : LatencyWindow size where
  latencies _ := 0
  head := slot 0
  totalCount := 0
  sumLatency := 0
  head_eq := rfl

/-- The part of `endLatencyMeasurement` under the lock. -/
def record (latencyMs : ℚ) (window : LatencyWindow size) :
    LatencyWindow size where
  latencies := Function.update window.latencies window.head latencyMs
  head := slot (window.head + 1)
  totalCount := window.totalCount + 1
  sumLatency :=
    if window.totalCount + 1 > size then
      window.sumLatency + (latencyMs - window.latencies window.head)
    else window.sumLatency + latencyMs
  head_eq := by
    simp only [slot, window.head_eq]
    exact Nat.mod_add_mod window.totalCount size 1

def validCount (window : LatencyWindow size) : ℕ :=
  min window.totalCount size

/-- The samples that `getLatencyStatsUnlocked` copies out, oldest first. -/
def samples (window : LatencyWindow size) : List ℚ :=
  let startIndex := (window.head + size - window.validCount) % size
  (List.range window.validCount).map fun offset =>
    window.latencies (slot (startIndex + offset))

end LatencyWindow

/-! ## Statistics of a list of samples -/

/-- The loops for `min_val` and `max_val`. -/
def minVal (samples : List ℚ) : ℚ :=
  samples.foldl (fun low value => if value < low then value else low)
    (samples.headD 0)

def maxVal (samples : List ℚ) : ℚ :=
  samples.foldl (fun high value => if value > high then value else high)
    (samples.headD 0)

/-- The lambda `percentile`, on the sorted samples. -/
def percentile (samples : List ℚ) (p : ℚ) : ℚ :=
  if samples = [] then 0
  else
    let index := p * (samples.length - 1)
    let lower := ⌊index⌋₊
    let upper := ⌈index⌉₊
    if lower = upper then samples.getD lower 0
    else
      samples.getD lower 0 +
        (index - lower) * (samples.getD upper 0 - samples.getD lower 0)

namespace LatencyWindow

def stats (window : LatencyWindow size) : LatencyStats :=
  if window.validCount = 0 then {}
  else
    let sorted := window.samples.insertionSort (· ≤ ·)
    { average := window.sumLatency / window.validCount
      min := minVal window.samples
      max := maxVal window.samples
      p50 := percentile sorted (1 / 2)
      p95 := percentile sorted (95 / 100)
      p99 := percentile sorted (99 / 100)
      count := UInt64.ofNat window.validCount }

end LatencyWindow

/-- Statistics without a count are those of an empty window. -/
theorem LatencyWindow.stats_of_count_eq_zero {window : LatencyWindow size}
    (hsize : size < UInt64.size) (hcount : window.stats.count = 0) :
    window.stats = {} := by
  rw [stats] at hcount ⊢
  split at hcount
  · next hvalid => rw [if_pos hvalid]
  · next hvalid =>
      have hle : window.validCount ≤ size := min_le_right _ _
      have hnat := congrArg UInt64.toNat hcount
      rw [UInt64.toNat_ofNat_of_lt' (hle.trans_lt hsize)] at hnat
      exact absurd hnat hvalid

/-! ## The tracker -/

/-- `latency_windows_` has a window for every category from the start. -/
structure Tracker (size : ℕ) where
  windows : LatencyCategory → LatencyWindow size

inductive Operation
  | endLatencyMeasurement (start now : TimePoint) (category : LatencyCategory)
  | clear (category : LatencyCategory)
  | clearAll

def Tracker.new : Tracker size where
  windows _ := LatencyWindow.empty

/-- The duration between two readings, in milliseconds. -/
def latencyMs (start now : TimePoint) : ℚ :=
  ((now - start : ℤ) : ℚ) / 1000000

def Tracker.endLatencyMeasurement (start now : TimePoint)
    (category : LatencyCategory) (tracker : Tracker size) : Tracker size where
  windows := Function.update tracker.windows category
    ((tracker.windows category).record (latencyMs start now))

def Tracker.clear (category : LatencyCategory) (tracker : Tracker size) :
    Tracker size where
  windows := Function.update tracker.windows category LatencyWindow.empty

def Tracker.clearAll (_tracker : Tracker size) : Tracker size where
  windows _ := LatencyWindow.empty

def Tracker.apply (tracker : Tracker size) : Operation → Tracker size
  | .endLatencyMeasurement start now category =>
      tracker.endLatencyMeasurement start now category
  | .clear category => tracker.clear category
  | .clearAll => tracker.clearAll

def Tracker.getLatencyStats (category : LatencyCategory)
    (tracker : Tracker size) : LatencyStats :=
  (tracker.windows category).stats

def Tracker.getAllLatencyStats (tracker : Tracker size) :
    LatencyCategory → Option LatencyStats :=
  fun category => some (tracker.getLatencyStats category)

/-! ## A window holds the last measurements -/

/-- The last `size` items of a list. -/
def recent (size : ℕ) (history : List ℚ) : List ℚ :=
  history.drop (history.length - size)

/-- The window after the measurements of `history`. -/
structure LatencyWindow.Holds (window : LatencyWindow size)
    (history : List ℚ) : Prop where
  count : window.totalCount = history.length
  latency : ∀ index (hindex : index < history.length),
    history.length ≤ index + size →
      window.latencies (slot index) = history[index]
  sum : window.sumLatency = (recent size history).sum

theorem LatencyWindow.holds_empty :
    (LatencyWindow.empty : LatencyWindow size).Holds [] where
  count := rfl
  latency index hindex := absurd hindex (Nat.not_lt_zero index)
  sum := by simp [recent, LatencyWindow.empty]

theorem LatencyWindow.head_eq_slot (window : LatencyWindow size) :
    window.head = slot window.totalCount :=
  Fin.ext window.head_eq

omit [NeZero size] in
theorem recent_append_of_lt {history : List ℚ} (value : ℚ)
    (hroom : history.length < size) :
    recent size (history ++ [value]) = recent size history ++ [value] := by
  have hshort : history.length - size = 0 := by omega
  have hlong : (history ++ [value]).length - size = 0 := by
    rw [List.length_append, List.length_singleton]
    omega
  rw [recent, recent, hshort, hlong, List.drop_zero, List.drop_zero]

omit [NeZero size] in
/-- Once the window is full, a new measurement replaces the oldest one. -/
theorem sum_recent_append {history : List ℚ} (value : ℚ)
    (hfull : size ≤ history.length) (hold : history.length - size <
      history.length) :
    (recent size (history ++ [value])).sum =
      (recent size history).sum +
        (value - history[history.length - size]) := by
  have hlength : (history ++ [value]).length - size =
      history.length - size + 1 := by
    rw [List.length_append, List.length_singleton]
    omega
  have hcons : recent size history = history[history.length - size] ::
      history.drop (history.length - size + 1) :=
    List.drop_eq_getElem_cons hold
  calc
    (recent size (history ++ [value])).sum
        = (history.drop (history.length - size + 1)).sum + value := by
          rw [recent, hlength, List.drop_append_of_le_length (by omega),
            List.sum_append, List.sum_singleton]
    _ = (recent size history).sum +
          (value - history[history.length - size]) := by
          rw [hcons, List.sum_cons]
          ring

theorem LatencyWindow.Holds.record {window : LatencyWindow size}
    {history : List ℚ} (hholds : window.Holds history) (value : ℚ) :
    (window.record value).Holds (history ++ [value]) where
  count := by
    rw [List.length_append, List.length_singleton, ← hholds.count]
    rfl
  latency := by
    have hstores : RingBuffer.Stores window.latencies history := hholds.latency
    have hwritten := hstores.write value
    rwa [← hholds.count, ← window.head_eq_slot] at hwritten
  sum := by
    simp only [LatencyWindow.record, hholds.count, hholds.sum]
    have hpositive := Nat.pos_of_neZero size
    by_cases hfull : size ≤ history.length
    · have hold : history.length - size < history.length := by omega
      have hslot : window.head = slot (history.length - size) := by
        rw [window.head_eq_slot, hholds.count,
          ← RingBuffer.slot_add_capacity (history.length - size),
          Nat.sub_add_cancel hfull]
      rw [if_pos (by omega), hslot,
        hholds.latency _ hold (by omega), sum_recent_append value hfull hold]
    · rw [if_neg (by omega), recent_append_of_lt value (by omega),
        List.sum_append, List.sum_singleton]

theorem LatencyWindow.Holds.validCount_eq {window : LatencyWindow size}
    {history : List ℚ} (hholds : window.Holds history) :
    window.validCount = (recent size history).length := by
  rw [validCount, hholds.count, recent, List.length_drop]
  omega

/-- The samples copied out are the last measurements, oldest first. -/
theorem LatencyWindow.Holds.samples_eq {window : LatencyWindow size}
    {history : List ℚ} (hholds : window.Holds history) :
    window.samples = recent size history := by
  have hstores : RingBuffer.Stores window.latencies history := hholds.latency
  simp only [samples, validCount, window.head_eq_slot, hholds.count,
    RingBuffer.slot_start]
  exact hstores.readBack

/-! ## What the statistics are -/

theorem foldl_low_le (values : List ℚ) (low : ℚ) :
    values.foldl (fun low value => if value < low then value else low) low ≤
        low ∧
      ∀ value ∈ values,
        values.foldl (fun low value => if value < low then value else low)
          low ≤ value := by
  induction values generalizing low with
  | nil => exact ⟨le_rfl, fun _ hvalue => absurd hvalue List.not_mem_nil⟩
  | cons head values ih =>
      rw [List.foldl_cons]
      obtain ⟨hstart, hrest⟩ := ih (if head < low then head else low)
      have hstep : (if head < low then head else low) ≤ low ∧
          (if head < low then head else low) ≤ head := by
        split
        · next hlt => exact ⟨hlt.le, le_rfl⟩
        · next hle => exact ⟨le_rfl, not_lt.mp hle⟩
      refine ⟨hstart.trans hstep.1, fun value hvalue => ?_⟩
      rcases List.mem_cons.mp hvalue with rfl | hvalue
      · exact hstart.trans hstep.2
      · exact hrest value hvalue

theorem le_foldl_high (values : List ℚ) (high : ℚ) :
    high ≤ values.foldl
          (fun high value => if value > high then value else high) high ∧
      ∀ value ∈ values,
        value ≤ values.foldl
          (fun high value => if value > high then value else high) high := by
  induction values generalizing high with
  | nil => exact ⟨le_rfl, fun _ hvalue => absurd hvalue List.not_mem_nil⟩
  | cons head values ih =>
      rw [List.foldl_cons]
      obtain ⟨hstart, hrest⟩ := ih (if head > high then head else high)
      have hstep : high ≤ (if head > high then head else high) ∧
          head ≤ (if head > high then head else high) := by
        split
        · next hlt => exact ⟨hlt.le, le_rfl⟩
        · next hle => exact ⟨le_rfl, not_lt.mp hle⟩
      refine ⟨hstep.1.trans hstart, fun value hvalue => ?_⟩
      rcases List.mem_cons.mp hvalue with rfl | hvalue
      · exact hstep.2.trans hstart
      · exact hrest value hvalue

theorem minVal_le {samples : List ℚ} {value : ℚ} (hvalue : value ∈ samples) :
    minVal samples ≤ value :=
  (foldl_low_le samples _).2 value hvalue

theorem le_maxVal {samples : List ℚ} {value : ℚ} (hvalue : value ∈ samples) :
    value ≤ maxVal samples :=
  (le_foldl_high samples _).2 value hvalue

theorem percentile_eq_interpolate {samples : List ℚ} (hne : samples ≠ [])
    (p : ℚ) :
    percentile samples p =
      Quantile.interpolate (samples.getD · 0) (p * (samples.length - 1)) := by
  rw [percentile, if_neg hne]
  simp only [Quantile.interpolate]
  split
  · next hsame => rw [hsame, sub_self, mul_zero, add_zero]
  · rfl

/-- The positions that the percentiles are read at are positions of the
list. -/
theorem position_bounds {samples : List ℚ} (hne : samples ≠ []) {p : ℚ}
    (hp : 0 ≤ p) (hone : p ≤ 1) :
    0 ≤ p * (samples.length - 1) ∧
      p * (samples.length - 1) ≤ ((samples.length - 1 : ℕ) : ℚ) := by
  have hlength : 1 ≤ samples.length := List.length_pos_iff.mpr hne
  have hcast : ((samples.length - 1 : ℕ) : ℚ) = samples.length - 1 := by
    rw [Nat.cast_sub hlength, Nat.cast_one]
  have hnonneg : (0 : ℚ) ≤ samples.length - 1 := by
    rw [← hcast]
    exact Nat.cast_nonneg _
  rw [hcast]
  exact ⟨mul_nonneg hp hnonneg, mul_le_of_le_one_left hnonneg hone⟩

theorem percentile_mono {samples : List ℚ}
    (hsorted : samples.Pairwise (· ≤ ·)) (hne : samples ≠ []) {p q : ℚ}
    (hp : 0 ≤ p) (horder : p ≤ q) (hq : q ≤ 1) :
    percentile samples p ≤ percentile samples q := by
  obtain ⟨hposition, -⟩ := position_bounds hne hp (horder.trans hq)
  obtain ⟨-, hlast⟩ := position_bounds hne (hp.trans horder) hq
  rw [percentile_eq_interpolate hne, percentile_eq_interpolate hne]
  refine Quantile.interpolate_mono (Quantile.nondecreasingTo_getD hsorted 0)
    hposition ?_ hlast
  have hlength : (1 : ℚ) ≤ samples.length :=
    Nat.one_le_cast.mpr (List.length_pos_iff.mpr hne)
  exact mul_le_mul_of_nonneg_right horder (sub_nonneg.mpr hlength)

theorem le_percentile {samples : List ℚ} (hsorted : samples.Pairwise (· ≤ ·))
    (hne : samples ≠ []) {p bound : ℚ} (hp : 0 ≤ p) (hone : p ≤ 1)
    (hbound : ∀ value ∈ samples, bound ≤ value) :
    bound ≤ percentile samples p := by
  obtain ⟨hposition, hlast⟩ := position_bounds hne hp hone
  have hlength := List.length_pos_iff.mpr hne
  have hindex : ⌊p * (samples.length - 1)⌋₊ < samples.length := by
    have hfloor := (Nat.floor_le_ceil _).trans (Nat.ceil_le.mpr hlast)
    omega
  rw [percentile_eq_interpolate hne]
  calc
    bound ≤ samples.getD ⌊p * (samples.length - 1)⌋₊ 0 := by
      rw [List.getD_eq_getElem _ _ hindex]
      exact hbound _ (List.getElem_mem hindex)
    _ ≤ _ := Quantile.value_floor_le_interpolate
      (Quantile.nondecreasingTo_getD hsorted 0) hposition hlast

theorem percentile_le {samples : List ℚ} (hsorted : samples.Pairwise (· ≤ ·))
    (hne : samples ≠ []) {p bound : ℚ} (hp : 0 ≤ p) (hone : p ≤ 1)
    (hbound : ∀ value ∈ samples, value ≤ bound) :
    percentile samples p ≤ bound := by
  obtain ⟨-, hlast⟩ := position_bounds hne hp hone
  have hlength := List.length_pos_iff.mpr hne
  have hindex : ⌈p * (samples.length - 1)⌉₊ < samples.length := by
    have hceil := Nat.ceil_le.mpr hlast
    omega
  rw [percentile_eq_interpolate hne]
  calc
    _ ≤ samples.getD ⌈p * (samples.length - 1)⌉₊ 0 :=
      Quantile.interpolate_le_value_ceil
        (Quantile.nondecreasingTo_getD hsorted 0) hlast
    _ ≤ bound := by
      rw [List.getD_eq_getElem _ _ hindex]
      exact hbound _ (List.getElem_mem hindex)

/-- Minimum, percentiles and maximum are in order, and the average is between
minimum and maximum. -/
structure Ordered (stats : LatencyStats) : Prop where
  min_p50 : stats.min ≤ stats.p50
  p50_p95 : stats.p50 ≤ stats.p95
  p95_p99 : stats.p95 ≤ stats.p99
  p99_max : stats.p99 ≤ stats.max
  min_average : stats.min ≤ stats.average
  average_max : stats.average ≤ stats.max

theorem ordered_default : Ordered {} :=
  ⟨le_rfl, le_rfl, le_rfl, le_rfl, le_rfl, le_rfl⟩

theorem LatencyWindow.Holds.stats_ordered {window : LatencyWindow size}
    {history : List ℚ} (hholds : window.Holds history) :
    Ordered window.stats := by
  rw [stats]
  split
  · exact ordered_default
  · next hvalid =>
      have hsamples := hholds.samples_eq
      have hcount := hholds.validCount_eq
      rw [hcount] at hvalid
      have hne : window.samples ≠ [] := by
        rw [hsamples]
        exact fun hnil => hvalid (by rw [hnil, List.length_nil])
      have hsorted : (window.samples.insertionSort (· ≤ ·)).Pairwise (· ≤ ·) :=
        List.pairwise_insertionSort _ _
      have hsortedNe : window.samples.insertionSort (· ≤ ·) ≠ [] := by
        rw [← List.length_pos_iff, List.length_insertionSort]
        exact List.length_pos_iff.mpr hne
      have haverage : window.sumLatency / window.validCount =
          window.samples.sum / window.samples.length := by
        rw [hcount, hsamples, hholds.sum]
      constructor
      · refine le_percentile hsorted hsortedNe (by norm_num) (by norm_num) ?_
        exact fun value hvalue => minVal_le (List.mem_insertionSort _ |>.mp hvalue)
      · exact percentile_mono hsorted hsortedNe (by norm_num) (by norm_num)
          (by norm_num)
      · exact percentile_mono hsorted hsortedNe (by norm_num) (by norm_num)
          (by norm_num)
      · refine percentile_le hsorted hsortedNe (by norm_num) (by norm_num) ?_
        exact fun value hvalue => le_maxVal (List.mem_insertionSort _ |>.mp hvalue)
      · rw [haverage]
        exact Quantile.le_mean hne fun _ hvalue => minVal_le hvalue
      · rw [haverage]
        exact Quantile.mean_le hne fun _ hvalue => le_maxVal hvalue

/-! ## Runs of the tracker -/

/-- The measurements of a category since it was last cleared. -/
def recordedAfter (category : LatencyCategory) (history : List ℚ) :
    Operation → List ℚ
  | .endLatencyMeasurement start now other =>
      if other = category then history ++ [latencyMs start now] else history
  | .clear other => if other = category then [] else history
  | .clearAll => []

/-- Every window holds the measurements of its category. -/
def Tracker.Holds (tracker : Tracker size)
    (histories : LatencyCategory → List ℚ) : Prop :=
  ∀ category, (tracker.windows category).Holds (histories category)

theorem Tracker.holds_new : (Tracker.new : Tracker size).Holds fun _ => [] :=
  fun _ => LatencyWindow.holds_empty

theorem Tracker.Holds.apply {tracker : Tracker size}
    {histories : LatencyCategory → List ℚ} (hholds : tracker.Holds histories)
    (operation : Operation) :
    (tracker.apply operation).Holds fun category =>
      recordedAfter category (histories category) operation := by
  intro category
  cases operation with
  | endLatencyMeasurement start now other =>
      by_cases hsame : other = category
      · subst hsame
        simp only [Tracker.apply, endLatencyMeasurement, Function.update_self,
          recordedAfter, if_true]
        exact (hholds other).record _
      · simp only [Tracker.apply, endLatencyMeasurement, recordedAfter,
          Function.update_of_ne (Ne.symm hsame), if_neg hsame]
        exact hholds category
  | clear other =>
      by_cases hsame : other = category
      · subst hsame
        simp only [Tracker.apply, Tracker.clear, Function.update_self,
          recordedAfter, if_true]
        exact LatencyWindow.holds_empty
      · simp only [Tracker.apply, Tracker.clear, recordedAfter,
          Function.update_of_ne (Ne.symm hsame), if_neg hsame]
        exact hholds category
  | clearAll => exact LatencyWindow.holds_empty

/-- The windows of the tracker hold some measurements: all of them are in order,
whatever was measured and cleared. -/
theorem Tracker.Holds.getLatencyStats_ordered {tracker : Tracker size}
    {histories : LatencyCategory → List ℚ} (hholds : tracker.Holds histories)
    (category : LatencyCategory) : Ordered (tracker.getLatencyStats category) :=
  (hholds category).stats_ordered

/-! ## The statistics of the last measurements -/

/-- A fold that keeps one of its two arguments at each step ends in one of the
values it has seen. -/
theorem foldl_mem_of_choice {choose : ℚ → ℚ → ℚ}
    (hchoose : ∀ kept value, choose kept value = kept ∨
      choose kept value = value) (values : List ℚ) (start : ℚ) :
    values.foldl choose start ∈ start :: values := by
  induction values generalizing start with
  | nil => exact List.mem_cons_self
  | cons head values ih =>
      rw [List.foldl_cons]
      rcases hchoose start head with hkept | hvalue
      · rw [hkept]
        rcases List.mem_cons.mp (ih start) with hstart | hrest
        · exact List.mem_cons.mpr (.inl hstart)
        · exact List.mem_cons_of_mem _ (List.mem_cons_of_mem _ hrest)
      · rw [hvalue]
        exact List.mem_cons_of_mem _ (ih head)

theorem isLeast_minVal {samples : List ℚ} (hne : samples ≠ []) :
    IsLeast {value | value ∈ samples} (minVal samples) := by
  refine ⟨?_, fun value hvalue => minVal_le hvalue⟩
  obtain ⟨first, rest, rfl⟩ := List.exists_cons_of_ne_nil hne
  have hmem := foldl_mem_of_choice
    (fun low value => (ite_eq_or_eq (value < low) value low).symm)
    (first :: rest) first
  rcases List.mem_cons.mp hmem with hfirst | hmem
  · exact List.mem_cons.mpr (.inl hfirst)
  · exact hmem

theorem isGreatest_maxVal {samples : List ℚ} (hne : samples ≠ []) :
    IsGreatest {value | value ∈ samples} (maxVal samples) := by
  refine ⟨?_, fun value hvalue => le_maxVal hvalue⟩
  obtain ⟨first, rest, rfl⟩ := List.exists_cons_of_ne_nil hne
  have hmem := foldl_mem_of_choice
    (fun high value => (ite_eq_or_eq (value > high) value high).symm)
    (first :: rest) first
  rcases List.mem_cons.mp hmem with hfirst | hmem
  · exact List.mem_cons.mpr (.inl hfirst)
  · exact hmem

/-- The value of a list at a fractional position, between two positions of the
list. -/
def InterpolatesAt (sorted : List ℚ) (position value : ℚ) : Prop :=
  ∃ (hlower : ⌊position⌋₊ < sorted.length)
    (hupper : ⌈position⌉₊ < sorted.length),
    value = sorted[⌊position⌋₊] +
      (position - ⌊position⌋₊) * (sorted[⌈position⌉₊] - sorted[⌊position⌋₊])

theorem interpolatesAt_percentile {samples : List ℚ} (hne : samples ≠ []) {p : ℚ}
    (hp : 0 ≤ p) (hone : p ≤ 1) :
    InterpolatesAt samples (p * (samples.length - 1)) (percentile samples p) := by
  obtain ⟨-, hlast⟩ := position_bounds hne hp hone
  have hlength := List.length_pos_iff.mpr hne
  have hceil := Nat.ceil_le.mpr hlast
  have hfloor := (Nat.floor_le_ceil _).trans hceil
  have hlower : ⌊p * (samples.length - 1)⌋₊ < samples.length := by omega
  have hupper : ⌈p * (samples.length - 1)⌉₊ < samples.length := by omega
  refine ⟨hlower, hupper, ?_⟩
  rw [percentile_eq_interpolate hne]
  simp only [Quantile.interpolate, List.getD_eq_getElem _ _ hlower,
    List.getD_eq_getElem _ _ hupper]

/-- What the statistics of a list of samples are, in terms of the list. -/
structure StatisticsOf (stats : LatencyStats) (samples : List ℚ) : Prop where
  count : stats.count.toNat = samples.length
  min : IsLeast {value | value ∈ samples} stats.min
  max : IsGreatest {value | value ∈ samples} stats.max
  average : stats.average = samples.sum / samples.length
  p50 : InterpolatesAt (samples.insertionSort (· ≤ ·))
    (1 / 2 * (samples.length - 1)) stats.p50
  p95 : InterpolatesAt (samples.insertionSort (· ≤ ·))
    (95 / 100 * (samples.length - 1)) stats.p95
  p99 : InterpolatesAt (samples.insertionSort (· ≤ ·))
    (99 / 100 * (samples.length - 1)) stats.p99

theorem LatencyWindow.Holds.stats_of_nil {window : LatencyWindow size}
    {history : List ℚ} (hholds : window.Holds history)
    (hnil : recent size history = []) : window.stats = {} := by
  rw [stats, hholds.validCount_eq, hnil, if_pos List.length_nil]

theorem LatencyWindow.Holds.statisticsOf {window : LatencyWindow size}
    {history : List ℚ} (hholds : window.Holds history)
    (hsize : size < UInt64.size) (hne : recent size history ≠ []) :
    StatisticsOf window.stats (recent size history) := by
  have hvalid : window.validCount ≠ 0 := by
    rw [hholds.validCount_eq]
    exact (List.length_pos_iff.mpr hne).ne'
  have hsorted : (recent size history).insertionSort (· ≤ ·) ≠ [] := by
    rw [← List.length_pos_iff, List.length_insertionSort]
    exact List.length_pos_iff.mpr hne
  have hposition : ∀ p : ℚ, 0 ≤ p → p ≤ 1 →
      InterpolatesAt ((recent size history).insertionSort (· ≤ ·))
        (p * ((recent size history).length - 1))
        (percentile ((recent size history).insertionSort (· ≤ ·)) p) := by
    intro p hp hone
    have hat := interpolatesAt_percentile hsorted hp hone
    rwa [List.length_insertionSort] at hat
  rw [stats, if_neg hvalid, hholds.samples_eq, hholds.validCount_eq,
    hholds.sum]
  constructor
  · refine UInt64.toNat_ofNat_of_lt' ?_
    rw [recent, List.length_drop]
    omega
  · exact isLeast_minVal hne
  · exact isGreatest_maxVal hne
  · rfl
  · exact hposition _ (by norm_num) (by norm_num)
  · exact hposition _ (by norm_num) (by norm_num)
  · exact hposition _ (by norm_num) (by norm_num)

/-- The latencies recorded for a category since it was last cleared. -/
def recorded (category : LatencyCategory) (operations : List Operation) :
    List ℚ :=
  operations.foldl (recordedAfter category) []

theorem Tracker.Holds.run {tracker : Tracker size}
    {histories : LatencyCategory → List ℚ} (hholds : tracker.Holds histories)
    (operations : List Operation) :
    (operations.foldl Tracker.apply tracker).Holds fun category =>
      operations.foldl (recordedAfter category) (histories category) := by
  induction operations generalizing tracker histories with
  | nil => exact hholds
  | cons operation operations ih => exact ih (hholds.apply operation)

/-- After any measurements and clears, the statistics of a category are those
of its last `size` latencies since it was last cleared, and zeros when there
are none. -/
theorem getLatencyStats_spec (hsize : size < UInt64.size)
    (operations : List Operation) (category : LatencyCategory) :
    let tracker : Tracker size := operations.foldl Tracker.apply Tracker.new
    let samples := recent size (recorded category operations)
    (samples = [] → tracker.getLatencyStats category = {}) ∧
      (samples ≠ [] →
        StatisticsOf (tracker.getLatencyStats category) samples) := by
  intro tracker samples
  have hholds : (tracker.windows category).Holds
      (recorded category operations) :=
    Tracker.holds_new.run operations category
  exact ⟨fun hnil => hholds.stats_of_nil hnil,
    fun hne => hholds.statisticsOf hsize hne⟩

/-- Three measurements of one category in a window of two, between those of
another one. -/
theorem getLatencyStats_spec_wrapped :
    StatisticsOf
      (([.endLatencyMeasurement 0 9000000 .general, .clear .general,
          .endLatencyMeasurement 0 1000000 .general,
          .endLatencyMeasurement 0 2000000 .general,
          .endLatencyMeasurement 0 8000000 .parsing,
          .endLatencyMeasurement 0 3000000 .general].foldl Tracker.apply
        (Tracker.new : Tracker 2)).getLatencyStats .general)
      [latencyMs 0 2000000, latencyMs 0 3000000] := by
  obtain ⟨-, hspec⟩ := @getLatencyStats_spec 2 _ (by decide)
    [.endLatencyMeasurement 0 9000000 .general, .clear .general,
      .endLatencyMeasurement 0 1000000 .general,
      .endLatencyMeasurement 0 2000000 .general,
      .endLatencyMeasurement 0 8000000 .parsing,
      .endLatencyMeasurement 0 3000000 .general] .general
  exact hspec (by simp [recent, recorded, recordedAfter])

end Datafeed.LatencyTracker
