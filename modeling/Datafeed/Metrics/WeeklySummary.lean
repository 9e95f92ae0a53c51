import Datafeed.Core.Calendar
import Datafeed.Storage.SnapshotTable
import Mathlib.Algebra.BigOperators.Group.List.Basic
import Mathlib.Algebra.Field.Rat
import Mathlib.Data.List.ReduceOption

/-!
# The summary of a week

`processWeek` up to the call that persists the summary: the query for the
15-minute snapshots of a week, and the fold of every field.  Sums and quotients
of doubles are exact.
-/

namespace Datafeed.WeeklyRollup

open Storage Sql Calendar

/-- A reading of `system_clock` in milliseconds, from April 1970 on, so that
neither the last week nor the retention period begins before the epoch, and in
the range of the clock. -/
structure ClockTime where
  ms : ℕ
  lower : 7776000000 ≤ ms
  upper : ms < 9223372036855

/-- An instance name that can be spliced into SQL text between quotes. -/
@[ext]
structure InstanceId where
  text : String
  unquoted : text.toList.contains (Char.ofNat 39) = false

def toUint64 (value : ℤ) : ℕ := (value % 2 ^ 64).toNat

/-! ## Folding a field -/

section Folds

variable {Value : Type} [Add Value]

/-- `if (v) { sum += *v; ++count; }` -/
def accumulate (total : Value × ℕ) : Option Value → Value × ℕ
  | some value => (total.1 + value, total.2 + 1)
  | none => total

end Folds

def avgDouble (values : List (Option ℚ)) : Option ℚ :=
  let total := values.foldl accumulate (0, 0)
  if total.2 = 0 then none else some (total.1 / total.2)

/-- The quotient of integers is cut off.  The sum is not wrapped to 64 bits: the
snapshots that the query returns have no metrics, so nothing is ever added to it
(`metrics_of_summarize_asRead`). -/
def avgInt64 (values : List (Option ℤ)) : Option ℤ :=
  let total := values.foldl accumulate (0, 0)
  if total.2 = 0 then none else some (total.1.tdiv total.2)

def latestInt64 (values : List (Option ℤ)) : Option ℤ :=
  values.foldl (fun latest value => if value.isSome then value else latest) none

/-- `avg_double` or `avg_int64`, by the type of the member. -/
def average : (kind : MetricKind) → List (Option kind.Value) →
    Option kind.Value
  | .double, values => avgDouble values
  | .int64, values => avgInt64 values
  | _, _ => none

/-- `latest_int64`. -/
def latest : (kind : MetricKind) → List (Option kind.Value) →
    Option kind.Value
  | .int64, values => latestInt64 values
  | _, _ => none

/-- The fields that get an average, in the order of `processWeek`. -/
def averagedMetrics : List MetricColumn :=
  [.p50LatencyMs, .p95LatencyMs, .p99LatencyMs, .avgLatencyMs, .cpuUsage,
    .memoryUsage, .threadCount, .uptimeSeconds, .exchangeP50Ms,
    .exchangeP95Ms, .exchangeP99Ms, .parsingP50Ms, .parsingP95Ms,
    .parsingP99Ms, .messagesPerSec, .packetsPerSec, .ticksPerSec,
    .tradesPerSec, .incomingQueueDepth, .outgoingQueueDepth, .activeClients,
    .activeSessions, .activeSubscriptions, .socketRttMs, .networkBandwidthBps,
    .dbInsertLatencyMs, .dbQueryLatencyMs, .peakRss, .virtualMemory,
    .heapUsage, .memoryGrowthRate]

/-- The cumulative fields, which get the latest value. -/
def latestMetrics : List MetricColumn :=
  [.totalMessages, .totalPackets, .totalBytes, .totalTicks, .packetDrops,
    .duplicatePackets, .outOfOrderPackets, .parseFailures, .tcpReconnects,
    .socketErrors, .dbSuccessfulWrites, .dbFailedWrites]

/-- The summary of the queried snapshots, if there are any. -/
def summarize (instanceId : InstanceId) (startMs : ℕ)
    (snapshots : List FeedMetricsSnapshot) : Option WeeklyMetricsSummary :=
  if snapshots.isEmpty then none
  else some
    { id := 0
      instanceId := instanceId.text
      weekStart := startMs
      sampleCount := snapshots.length
      metrics := fun column =>
        let values := snapshots.map fun s => s.metrics column
        if column ∈ averagedMetrics then average column.kind values
        else if column ∈ latestMetrics then latest column.kind values
        else none }

/-! ## The snapshots of a week -/

variable {Json : Type} {codec : Codec Json}
  {referenced : SnapshotColumn → Datum Json → Bool}

/-- The condition of the query, with bounds in whole seconds. -/
def weekCondition [DecidableEq Json] (instanceId : InstanceId)
    (startMs endMs : ℕ) (row : Row SnapshotColumn Json) : Bool :=
  row .instanceId = .text instanceId.text &&
    match row .measuredAt with
    | .timestamp measuredAt =>
        startMs / 1000 * 1000 ≤ measuredAt && measuredAt < endMs / 1000 * 1000
    | _ => false

/-- The summary `processWeek` builds for the week that ends at a time. -/
def weekSummary [DecidableEq Json] (instanceId : InstanceId)
    (table : SnapshotTable codec referenced) (weekEnd : ℤ) :
    Option WeeklyMetricsSummary :=
  let startMs := toUint64 ((weekEnd - secondsPerWeek) * 1000)
  let endMs := toUint64 (weekEnd * 1000)
  summarize instanceId startMs
    (getFeedMetricsSnapshotsByCondition codec table.store
      (weekCondition instanceId startMs endMs))

/-- The start of the current week, as `isNewWeek` computes it. -/
def weekStartOf (now : ClockTime) : ℤ :=
  let tm := gmtime (now.ms / 1000)
  let daysSinceMonday := (tm.wday + 6) % 7
  timegm
    { tm with
      mday := tm.mday - daysSinceMonday
      hour := 0
      min := 0
      sec := 0 }

/-- A snapshot of an instance measured in the week that ends at a time. -/
def inWeek (instanceId : InstanceId) (weekEnd : ℤ) (s : FeedMetricsSnapshot) :
    Bool :=
  s.instanceId = instanceId.text &&
    ((weekEnd - secondsPerWeek) * 1000 ≤ s.measuredAt &&
      s.measuredAt < weekEnd * 1000)

theorem inWeek_iff {instanceId : InstanceId} {weekEnd : ℤ}
    {s : FeedMetricsSnapshot} :
    inWeek instanceId weekEnd s = true ↔
      s.instanceId = instanceId.text ∧
        (weekEnd - secondsPerWeek) * 1000 ≤ s.measuredAt ∧
        s.measuredAt < weekEnd * 1000 := by
  simp [inWeek]

/-- The persisted snapshots of a week. -/
def weekRows (instanceId : InstanceId)
    (table : SnapshotTable codec referenced) (weekEnd : ℤ) :
    List FeedMetricsSnapshot :=
  table.snapshots.filter (inWeek instanceId weekEnd)

theorem weekStartOf_eq (now : ClockTime) :
    weekStartOf now = mondayOf (now.ms / 1000) := by
  have hdays := timegm_gmtime (now.ms / 1000)
  simp only [timegm, gmtime, daysFromCivil, weekdayOfDays, secondsPerDay]
    at hdays
  simp only [weekStartOf, timegm, gmtime, daysFromCivil, weekdayOfDays,
    mondayOf, secondsPerWeek, firstMonday, secondsPerDay]
  omega

theorem weekStartOf_bounds (now : ClockTime) :
    secondsPerWeek ≤ weekStartOf now ∧ weekStartOf now * 1000 ≤ now.ms := by
  have hlower := now.lower
  rw [weekStartOf_eq]
  simp only [mondayOf, secondsPerWeek, firstMonday]
  omega

/-! ## What the query selects -/

theorem toUint64_of_bounds {value : ℤ} (hnonneg : 0 ≤ value)
    (hlt : value < 2 ^ 64) : (toUint64 value : ℤ) = value := by
  rw [toUint64, Int.emod_eq_of_lt hnonneg hlt, Int.toNat_of_nonneg hnonneg]

/-- The two bounds of the query are the week's, in milliseconds. -/
theorem weekBounds (now : ClockTime) :
    (toUint64 ((weekStartOf now - secondsPerWeek) * 1000) : ℤ) =
        (weekStartOf now - secondsPerWeek) * 1000 ∧
      (toUint64 (weekStartOf now * 1000) : ℤ) = weekStartOf now * 1000 := by
  have hbounds := weekStartOf_bounds now
  have hupper := now.upper
  rw [secondsPerWeek] at *
  constructor
  · apply toUint64_of_bounds
    · omega
    · omega
  · apply toUint64_of_bounds
    · omega
    · omega

theorem weekCondition_eq_inWeek [DecidableEq Json]
    (instanceId : InstanceId) (now : ClockTime)
    {row : Row SnapshotColumn Json} {s : FeedMetricsSnapshot}
    (hholds : HoldsSnapshot codec row s) :
    weekCondition instanceId
        (toUint64 ((weekStartOf now - secondsPerWeek) * 1000))
        (toUint64 (weekStartOf now * 1000)) row =
      inWeek instanceId (weekStartOf now) s := by
  obtain ⟨hstart, hend⟩ := weekBounds now
  rw [weekCondition, inWeek, SnapshotTable.instanceId_of_holds hholds,
    SnapshotTable.measuredAt_of_holds hholds]
  generalize toUint64 ((weekStartOf now - secondsPerWeek) * 1000) = startMs at *
  generalize toUint64 (weekStartOf now * 1000) = endMs at *
  have hlower : startMs / 1000 * 1000 ≤ s.measuredAt ↔
      (weekStartOf now - secondsPerWeek) * 1000 ≤ s.measuredAt := by omega
  have hupper : s.measuredAt < endMs / 1000 * 1000 ↔
      s.measuredAt < weekStartOf now * 1000 := by omega
  simp [hlower, hupper]

theorem weekSummary_eq [DecidableEq Json] (instanceId : InstanceId)
    (table : SnapshotTable codec referenced) (now : ClockTime) :
    weekSummary instanceId table (weekStartOf now) =
      summarize instanceId
        (toUint64 ((weekStartOf now - secondsPerWeek) * 1000))
        ((weekRows instanceId table (weekStartOf now)).map
          FeedMetricsSnapshot.asRead) := by
  rw [weekSummary, weekRows, getFeedMetricsSnapshotsByCondition_eq]
  intro row s hholds
  exact weekCondition_eq_inWeek instanceId now hholds

/-! ## What the folds compute -/

/-- The mean of the values that are present, for integers without the
fraction. -/
def meanOf : (kind : MetricKind) → List kind.Value → Option kind.Value
  | .double, present =>
      if present = [] then none else some (present.sum / present.length)
  | .int64, present =>
      if present = [] then none else some (present.sum.tdiv present.length)
  | _, _ => none

theorem foldl_accumulate {Value : Type} [AddMonoid Value]
    (values : List (Option Value)) (total : Value × ℕ) :
    values.foldl accumulate total =
      (total.1 + values.reduceOption.sum,
        total.2 + values.reduceOption.length) := by
  induction values generalizing total with
  | nil => simp
  | cons value values ih =>
      rw [List.foldl_cons, ih]
      cases value with
      | none => simp [accumulate]
      | some value =>
          simp [accumulate, List.reduceOption_cons_of_some, add_assoc,
            Nat.add_comm 1]

/-- `avg_double` and `avg_int64` compute the mean of what they are given. -/
theorem average_eq_meanOf (kind : MetricKind)
    (values : List (Option kind.Value)) :
    average kind values = meanOf kind values.reduceOption := by
  cases kind with
  | double => simp [average, avgDouble, meanOf, foldl_accumulate]
  | int64 => simp [average, avgInt64, meanOf, foldl_accumulate]
  | bool => rfl
  | text => rfl

theorem latest_of_absent (kind : MetricKind) {values : List (Option kind.Value)}
    (habsent : ∀ value ∈ values, value = none) : latest kind values = none := by
  cases kind with
  | int64 =>
      have hreplicate := List.eq_replicate_of_mem habsent
      rw [latest, latestInt64, hreplicate]
      generalize values.length = count
      induction count with
      | zero => rfl
      | succ count ih => simpa [List.replicate_succ] using ih
  | _ => rfl

theorem meanOf_eq_none_iff {column : MetricColumn}
    (haveraged : column ∈ averagedMetrics) (present : List column.kind.Value) :
    meanOf column.kind present = none ↔ present = [] := by
  have hnumeric : ∀ column ∈ averagedMetrics,
      column.kind = .double ∨ column.kind = .int64 := by decide
  have hkind := hnumeric column haveraged
  generalize column.kind = kind at *
  rcases hkind with hdouble | hint64
  · subst hdouble
    simp [meanOf]
  · subst hint64
    simp [meanOf]

/-- What the summary of a week's snapshots should be: the mean of every averaged
field where it is present, the value of every cumulative field in the last
snapshot that has it, and their number. -/
structure Summarizes (rows : List FeedMetricsSnapshot)
    (summary : WeeklyMetricsSummary) : Prop where
  averaged : ∀ column ∈ averagedMetrics,
    summary.metrics column =
      meanOf column.kind (rows.map fun s => s.metrics column).reduceOption
  cumulative : ∀ column ∈ latestMetrics,
    (summary.metrics column = none ∧ ∀ s ∈ rows, s.metrics column = none) ∨
      ∃ s ∈ rows, s.metrics column = summary.metrics column ∧
        (s.metrics column).isSome ∧
        ∀ other ∈ rows, (other.metrics column).isSome →
          other.measuredAt ≤ s.measuredAt
  sampleCount : summary.sampleCount = rows.length

/-- No summary has a metric. -/
theorem metrics_of_summarize_asRead {instanceId : InstanceId} {startMs : ℕ}
    {rows : List FeedMetricsSnapshot} {summary : WeeklyMetricsSummary}
    (hsummary : summarize instanceId startMs
      (rows.map FeedMetricsSnapshot.asRead) = some summary)
    (column : MetricColumn) : summary.metrics column = none := by
  have hvalues : (rows.map FeedMetricsSnapshot.asRead).map
      (fun s => s.metrics column) = List.replicate rows.length none := by
    have hread : (fun s : FeedMetricsSnapshot => s.metrics column) ∘
        FeedMetricsSnapshot.asRead = fun _ => none := rfl
    rw [List.map_map, hread]
    exact List.map_const'
  have hmean : average column.kind (List.replicate rows.length none) =
      none := by
    rw [average_eq_meanOf, List.reduceOption_replicate_none]
    cases column.kind <;> rfl
  have hlatest : latest column.kind (List.replicate rows.length none) =
      none := by
    apply latest_of_absent
    intro value hvalue
    exact List.eq_of_mem_replicate hvalue
  rw [summarize] at hsummary
  split at hsummary
  · cases hsummary
  · rw [Option.some.injEq] at hsummary
    rw [← hsummary]
    simp only [hvalues, hmean, hlatest, ite_self]

theorem sampleCount_of_summarize {instanceId : InstanceId} {startMs : ℕ}
    {snapshots : List FeedMetricsSnapshot} {summary : WeeklyMetricsSummary}
    (hsummary : summarize instanceId startMs snapshots = some summary) :
    summary.sampleCount = snapshots.length := by
  rw [summarize] at hsummary
  split at hsummary
  · cases hsummary
  · rw [Option.some.injEq] at hsummary
    rw [← hsummary]

theorem summarize_isSome_iff {instanceId : InstanceId} {startMs : ℕ}
    {snapshots : List FeedMetricsSnapshot} :
    (summarize instanceId startMs snapshots).isSome ↔ snapshots ≠ [] := by
  rw [summarize]
  split <;> simp_all

/-- All the fields a summary should have are absent. -/
def Unmeasured (rows : List FeedMetricsSnapshot) : Prop :=
  ∀ s ∈ rows, ∀ column ∈ averagedMetrics ++ latestMetrics,
    s.metrics column = none

theorem unmeasured_of_summarizes {rows : List FeedMetricsSnapshot}
    {summary : WeeklyMetricsSummary}
    (habsent : ∀ column, summary.metrics column = none)
    (hsummarizes : Summarizes rows summary) : Unmeasured rows := by
  intro s hs column hcolumn
  rcases List.mem_append.mp hcolumn with haveraged | hcumulative
  · have hmean := hsummarizes.averaged column haveraged
    rw [habsent, eq_comm, meanOf_eq_none_iff haveraged] at hmean
    by_contra hpresent
    obtain ⟨value, hvalue⟩ := Option.ne_none_iff_exists'.mp hpresent
    have hmem : value ∈ (rows.map fun s => s.metrics column).reduceOption := by
      rw [List.reduceOption_mem_iff, ← hvalue]
      exact List.mem_map_of_mem hs
    rw [hmean] at hmem
    cases hmem
  · rcases hsummarizes.cumulative column hcumulative with hnone | hsome
    · exact hnone.2 s hs
    · rcases hsome with ⟨other, _, hsame, hpresent, _⟩
      rw [hsame, habsent] at hpresent
      cases hpresent

theorem summarizes_of_unmeasured {rows : List FeedMetricsSnapshot}
    {summary : WeeklyMetricsSummary}
    (habsent : ∀ column, summary.metrics column = none)
    (hcount : summary.sampleCount = rows.length)
    (hunmeasured : Unmeasured rows) : Summarizes rows summary where
  averaged column haveraged := by
    have hnone : (rows.map fun s => s.metrics column).reduceOption = [] := by
      rw [List.reduceOption_eq_nil_iff]
      refine ⟨_, List.eq_replicate_of_mem ?_⟩
      intro value hvalue
      obtain ⟨s, hs, hsame⟩ := List.mem_map.mp hvalue
      rw [← hsame]
      exact hunmeasured s hs column (List.mem_append_left _ haveraged)
    rw [habsent, hnone, eq_comm, meanOf_eq_none_iff haveraged]
  cumulative column hcumulative :=
    Or.inl ⟨habsent column, fun s hs =>
      hunmeasured s hs column (List.mem_append_right _ hcumulative)⟩
  sampleCount := hcount

/-- The reader decodes no metric, so the summary of a week is right exactly when
its snapshots have none of the fields a summary is made of. -/
theorem weekSummary_summarizes_iff [DecidableEq Json] (instanceId : InstanceId)
    (table : SnapshotTable codec referenced) (now : ClockTime) :
    (∀ summary,
      weekSummary instanceId table (weekStartOf now) = some summary →
        Summarizes (weekRows instanceId table (weekStartOf now)) summary) ↔
      Unmeasured (weekRows instanceId table (weekStartOf now)) := by
  rw [weekSummary_eq]
  constructor
  · intro hsummarizes s hs
    have hrows : (weekRows instanceId table (weekStartOf now)).map
        FeedMetricsSnapshot.asRead ≠ [] := by
      intro hnil
      rw [List.map_eq_nil_iff] at hnil
      rw [hnil] at hs
      cases hs
    rcases Option.isSome_iff_exists.mp (summarize_isSome_iff.mpr hrows) with
      ⟨summary, hsummary⟩
    exact unmeasured_of_summarizes (metrics_of_summarize_asRead hsummary)
      (hsummarizes summary hsummary) s hs
  · intro hunmeasured summary hsummary
    have hcount := sampleCount_of_summarize hsummary
    rw [List.length_map] at hcount
    exact summarizes_of_unmeasured (metrics_of_summarize_asRead hsummary)
      hcount hunmeasured

/-! A snapshot of `live-1` from the first day of 2026, with a median latency. -/

def liveInstance : InstanceId where
  text := "live-1"
  unquoted := by decide

/-- Monday 2026-01-05, midnight. -/
def newYearMonday : ClockTime where
  ms := 1767571200000
  lower := by decide
  upper := by decide

def newYearTable : SnapshotTable plainCodec fun _ _ => true :=
  (SnapshotTable.empty _ _).add ⟨quietSnapshot, quietSnapshot_admissible _⟩

theorem mem_newYearRows : quietSnapshot ∈
    weekRows liveInstance newYearTable (weekStartOf newYearMonday) := by
  apply List.mem_filter.mpr
  exact ⟨List.mem_singleton_self _, by decide⟩

/-- The summary of that week does not have the median. -/
theorem newYearWeek_notSummarized :
    ∃ summary,
      weekSummary liveInstance newYearTable (weekStartOf newYearMonday) =
        some summary ∧
      ¬ Summarizes
        (weekRows liveInstance newYearTable (weekStartOf newYearMonday))
        summary := by
  rw [weekSummary_eq]
  have hrows : (weekRows liveInstance newYearTable
      (weekStartOf newYearMonday)).map FeedMetricsSnapshot.asRead ≠ [] := by
    rw [Ne, List.map_eq_nil_iff]
    exact List.ne_nil_of_mem mem_newYearRows
  rcases Option.isSome_iff_exists.mp (summarize_isSome_iff.mpr hrows) with
    ⟨summary, hsummary⟩
  refine ⟨summary, hsummary, ?_⟩
  intro hsummarizes
  have hunmeasured := unmeasured_of_summarizes
    (metrics_of_summarize_asRead hsummary) hsummarizes
  have hmedian := hunmeasured quietSnapshot mem_newYearRows .p50LatencyMs
    (by decide)
  cases hmedian

end Datafeed.WeeklyRollup
