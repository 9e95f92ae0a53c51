import Datafeed.Metrics.WeeklyRollup
import Mathlib.Data.List.Induction
import Mathlib.Order.Bounds.Defs

/-!
# The boundaries of the weeks

`isNewWeek` over any reading of the clock and any sequence of checks of one
rollup, and the windows that the checks make `processWeek` query.  The clock
counts nanoseconds from the epoch; `to_time_t` drops the fraction of a second,
which rounds a reading before the epoch up.
-/

namespace Datafeed.WeeklyRollup

open Storage Sql Calendar

def nanosPerSecond : ℤ := 1000000000

def toTimeT (now : ℤ) : ℤ := now.tdiv nanosPerSecond

/-- The start of the current week, for any reading of the clock. -/
def weekStartAt (now : ℤ) : ℤ :=
  let tm := gmtime (toTimeT now)
  let daysSinceMonday := (tm.wday + 6) % 7
  timegm
    { tm with
      mday := tm.mday - daysSinceMonday
      hour := 0
      min := 0
      sec := 0 }

def isNewWeekAt (rollup : Rollup) (now : ℤ) : Bool × Rollup :=
  rollup.advance (weekStartAt now)

/-- A rollup after checks at the given readings. -/
def afterChecks (readings : List ℤ) : Rollup :=
  readings.foldl (fun rollup now => (isNewWeekAt rollup now).2) {}

/-- What the check that follows some readings returns. -/
def resultAt (before : List ℤ) (now : ℤ) : Bool :=
  (isNewWeekAt (afterChecks before) now).1

/-- `week_end` of the window that this check makes `processWeek` query. -/
def windowEnd (before : List ℤ) (now : ℤ) : ℤ :=
  (isNewWeekAt (afterChecks before) now).2.lastWeekStart

/-- The times of a window, in seconds. -/
def window (weekEnd : ℤ) : Set ℤ :=
  {seconds | weekEnd - secondsPerWeek ≤ seconds ∧ seconds < weekEnd}

/-- The condition of the query for the window that ends at a time. -/
def windowCondition {Json : Type} [DecidableEq Json] (instanceId : InstanceId)
    (weekEnd : ℤ) (row : Row SnapshotColumn Json) : Bool :=
  weekCondition instanceId (toUint64 ((weekEnd - secondsPerWeek) * 1000))
    (toUint64 (weekEnd * 1000)) row

/-- A reading without a fraction that `to_time_t` would round up, with a window
before it in the range of the clock. -/
structure Exact (now : ℤ) : Prop where
  whole : 0 ≤ now ∨ now % nanosPerSecond = 0
  lower : -2 ^ 63 + 2 * secondsPerWeek * nanosPerSecond ≤ now
  upper : now < 2 ^ 63

/-! ## The start of the week -/

/-- The start of the week is the Monday of the clock's second. -/
theorem weekStartAt_eq (now : ℤ) : weekStartAt now = mondayOf (toTimeT now) := by
  have hdays := timegm_gmtime (toTimeT now)
  simp only [timegm, gmtime, daysFromCivil, weekdayOfDays, secondsPerDay]
    at hdays
  simp only [weekStartAt, timegm, gmtime, daysFromCivil, weekdayOfDays,
    mondayOf, secondsPerWeek, firstMonday, secondsPerDay]
  omega

/-- The readings in milliseconds are a case of these. -/
theorem weekStartAt_ms (now : ClockTime) :
    weekStartAt (now.ms * 1000000) = weekStartOf now := by
  have hseconds : toTimeT (now.ms * 1000000) = now.ms / 1000 := by
    rw [toTimeT, nanosPerSecond, Int.tdiv_eq_ediv_of_nonneg (by omega)]
    omega
  rw [weekStartAt_eq, weekStartOf_eq, hseconds]

theorem toTimeT_mono {earlier later : ℤ} (hle : earlier ≤ later) :
    toTimeT earlier ≤ toTimeT later :=
  Int.tdiv_le_tdiv (by decide) hle

theorem weekStartAt_mono {earlier later : ℤ} (hle : earlier ≤ later) :
    weekStartAt earlier ≤ weekStartAt later := by
  rw [weekStartAt_eq, weekStartAt_eq]
  exact mondayOf_mono (toTimeT_mono hle)

namespace Exact

variable {now : ℤ}

theorem toTimeT_eq (hexact : Exact now) : toTimeT now = now / nanosPerSecond := by
  rcases hexact.whole with hnonneg | hwhole
  · exact Int.tdiv_eq_ediv_of_nonneg hnonneg
  · exact Int.tdiv_eq_ediv_of_dvd (Int.dvd_of_emod_eq_zero hwhole)

/-- A whole second is at or before the reading just when it is at or before the
reading's second. -/
theorem le_toTimeT_iff (hexact : Exact now) (seconds : ℤ) :
    seconds ≤ toTimeT now ↔ seconds * nanosPerSecond ≤ now := by
  rw [hexact.toTimeT_eq]
  exact Int.le_ediv_iff_mul_le (by decide)

theorem le_weekStartAt_iff (hexact : Exact now) {monday : ℤ}
    (hmonday : IsMonday monday) :
    monday ≤ weekStartAt now ↔ monday * nanosPerSecond ≤ now := by
  rw [weekStartAt_eq, ← hexact.le_toTimeT_iff]
  exact ⟨fun hle => hle.trans (mondayOf_le _), hmonday.le_mondayOf⟩

theorem isGreatest_weekStartAt (hexact : Exact now) :
    IsGreatest {monday | IsMonday monday ∧ monday * nanosPerSecond ≤ now}
      (weekStartAt now) := by
  have hmonday : IsMonday (weekStartAt now) := by
    rw [weekStartAt_eq]
    exact isMonday_mondayOf _
  refine ⟨⟨hmonday, (hexact.le_weekStartAt_iff hmonday).mp le_rfl⟩, ?_⟩
  rintro monday ⟨hother, hle⟩
  exact (hexact.le_weekStartAt_iff hother).mpr hle

theorem isMonday_weekStartAt (hexact : Exact now) : IsMonday (weekStartAt now) :=
  hexact.isGreatest_weekStartAt.1.1

/-- In milliseconds the window is in the range of a signed word. -/
theorem weekStartAt_bounds (hexact : Exact now) :
    -2 ^ 63 ≤ (weekStartAt now - secondsPerWeek) * 1000 ∧
      weekStartAt now * 1000 < 2 ^ 63 := by
  have hlower := hexact.lower
  have hupper := hexact.upper
  have hle := hexact.isGreatest_weekStartAt.1.2
  have hnear := lt_mondayOf_add (toTimeT now)
  rw [← weekStartAt_eq, hexact.toTimeT_eq] at hnear
  simp only [nanosPerSecond, secondsPerWeek] at *
  omega

end Exact

/-! ## A sequence of checks -/

theorem afterChecks_append (before : List ℤ) (now : ℤ) :
    afterChecks (before ++ [now]) = (isNewWeekAt (afterChecks before) now).2 := by
  rw [afterChecks, List.foldl_append]
  rfl

/-- After checks in order, `last_week_start_` is the week of the last one. -/
theorem afterChecks_eq {before : List ℤ} {previous : ℤ}
    (hsorted : (before ++ [previous]).Pairwise (· ≤ ·)) :
    afterChecks (before ++ [previous]) =
      { lastWeekStart := weekStartAt previous, hasLastWeek := true } := by
  have hend : (afterChecks (before ++ [previous])).lastWeekStart =
      weekStartAt previous := by
    induction before using List.reverseRecOn generalizing previous with
    | nil => rfl
    | append_singleton earlier last ih =>
        rw [List.pairwise_append] at hsorted
        have hle : last ≤ previous :=
          hsorted.2.2 last (by simp) previous (by simp)
        rw [afterChecks_append]
        refine Rollup.advance_lastWeekStart fun _ => ?_
        rw [ih hsorted.1]
        exact weekStartAt_mono hle
  have hchecked : (afterChecks (before ++ [previous])).hasLastWeek = true := by
    rw [afterChecks_append]
    exact Rollup.advance_hasLastWeek _ _
  generalize afterChecks (before ++ [previous]) = rollup at *
  cases rollup
  simp_all

theorem resultAt_nil (now : ℤ) : resultAt [] now = false := rfl

theorem resultAt_iff {before : List ℤ} {previous now : ℤ}
    (hsorted : (before ++ [previous]).Pairwise (· ≤ ·)) :
    resultAt (before ++ [previous]) now = true ↔
      weekStartAt previous < weekStartAt now := by
  rw [resultAt, isNewWeekAt, Rollup.advance_iff, afterChecks_eq hsorted]
  simp

/-- A boundary passes between two readings. -/
theorem weekStartAt_lt_iff {previous now : ℤ} (hprevious : Exact previous)
    (hnow : Exact now) :
    weekStartAt previous < weekStartAt now ↔
      ∃ monday, IsMonday monday ∧ previous < monday * nanosPerSecond ∧
        monday * nanosPerSecond ≤ now := by
  constructor
  · intro hlt
    refine ⟨weekStartAt now, hnow.isMonday_weekStartAt, ?_,
      hnow.isGreatest_weekStartAt.1.2⟩
    by_contra hle
    have hnot := (hprevious.le_weekStartAt_iff hnow.isMonday_weekStartAt).mpr
      (not_lt.mp hle)
    exact absurd hlt (not_lt.mpr hnot)
  · rintro ⟨monday, hmonday, hafter, hle⟩
    have hlow : weekStartAt previous < monday := by
      by_contra hnot
      exact absurd ((hprevious.le_weekStartAt_iff hmonday).mp (not_lt.mp hnot))
        (not_le.mpr hafter)
    exact hlow.trans_le ((hnow.le_weekStartAt_iff hmonday).mpr hle)

theorem windowEnd_eq {before : List ℤ} {now : ℤ}
    (hsorted : (before ++ [now]).Pairwise (· ≤ ·)) :
    windowEnd before now = weekStartAt now := by
  rw [windowEnd, ← afterChecks_append, afterChecks_eq hsorted]

/-! ## The windows -/

theorem IsMonday.add_le_of_lt {earlier later : ℤ} (hearlier : IsMonday earlier)
    (hlater : IsMonday later) (hlt : earlier < later) :
    earlier + secondsPerWeek ≤ later := by
  simp only [IsMonday, firstMonday, secondsPerWeek] at *
  omega

theorem not_mem_window_both {earlier later : ℤ}
    (hle : earlier + secondsPerWeek ≤ later) (seconds : ℤ) :
    ¬ (seconds ∈ window earlier ∧ seconds ∈ window later) := by
  rintro ⟨⟨-, hbefore⟩, ⟨hafter, -⟩⟩
  omega

theorem toUint64_cases {value : ℤ} (hlower : -2 ^ 63 ≤ value)
    (hupper : value < 2 ^ 63) :
    (0 ≤ value ∧ (toUint64 value : ℤ) = value) ∨
      (value < 0 ∧ (toUint64 value : ℤ) = value + 2 ^ 64) := by
  rw [toUint64]
  omega

theorem measuredAt_of_windowCondition {Json : Type} [DecidableEq Json]
    {instanceId : InstanceId} {weekEnd : ℤ} {row : Row SnapshotColumn Json}
    (hcondition : windowCondition instanceId weekEnd row = true) :
    ∃ measuredAt, row .measuredAt = .timestamp measuredAt ∧
      toUint64 ((weekEnd - secondsPerWeek) * 1000) / 1000 * 1000 ≤ measuredAt ∧
      measuredAt < toUint64 (weekEnd * 1000) / 1000 * 1000 := by
  rw [windowCondition, weekCondition, Bool.and_eq_true] at hcondition
  have hmeasured := hcondition.2
  split at hmeasured
  · next measuredAt hrow =>
      rw [Bool.and_eq_true, decide_eq_true_eq, decide_eq_true_eq] at hmeasured
      exact ⟨measuredAt, hrow, hmeasured⟩
  · cases hmeasured

/-- No row is in two windows; a window that begins before the epoch wraps and is
empty, or ends before it and wraps as a whole. -/
theorem not_windowCondition_both {Json : Type} [DecidableEq Json]
    {earlier later : ℤ} (hle : earlier + secondsPerWeek ≤ later)
    (hlower : -2 ^ 63 ≤ (earlier - secondsPerWeek) * 1000)
    (hupper : later * 1000 < 2 ^ 63) (first second : InstanceId)
    (row : Row SnapshotColumn Json) :
    ¬ (windowCondition first earlier row = true ∧
      windowCondition second later row = true) := by
  rintro ⟨hfirst, hsecond⟩
  obtain ⟨measuredAt, hrow, hstart, hend⟩ :=
    measuredAt_of_windowCondition hfirst
  obtain ⟨measuredAt', hrow', hstart', hend'⟩ :=
    measuredAt_of_windowCondition hsecond
  obtain rfl : measuredAt = measuredAt' := by
    rw [hrow] at hrow'
    cases hrow'
    rfl
  have hstarts : (earlier - secondsPerWeek) * 1000 ≤ earlier * 1000 ∧
      earlier * 1000 ≤ (later - secondsPerWeek) * 1000 ∧
      (later - secondsPerWeek) * 1000 ≤ later * 1000 := by
    simp only [secondsPerWeek] at *
    omega
  have hbounds : ∀ value, (earlier - secondsPerWeek) * 1000 ≤ value →
      value ≤ later * 1000 →
      (0 ≤ value ∧ (toUint64 value : ℤ) = value) ∨
        (value < 0 ∧ (toUint64 value : ℤ) = value + 2 ^ 64) :=
    fun value hfrom hto =>
      toUint64_cases (hlower.trans hfrom) (hto.trans_lt hupper)
  have hearlierStart := hbounds ((earlier - secondsPerWeek) * 1000)
    le_rfl (by omega)
  have hearlierEnd := hbounds (earlier * 1000) (by omega) (by omega)
  have hlaterStart := hbounds ((later - secondsPerWeek) * 1000)
    (by omega) (by omega)
  have hlaterEnd := hbounds (later * 1000) (by omega) le_rfl
  generalize toUint64 ((earlier - secondsPerWeek) * 1000) = startMs at *
  generalize toUint64 (earlier * 1000) = endMs at *
  generalize toUint64 ((later - secondsPerWeek) * 1000) = startMs' at *
  generalize toUint64 (later * 1000) = endMs' at *
  omega

/-! ## All checks of a rollup -/

/-- What `isNewWeek` and `processWeek` do for the checks of one rollup. -/
structure ChecksWeeks (readings : List ℤ) : Prop where
  start : ∀ now ∈ readings,
    IsGreatest {monday | IsMonday monday ∧ monday * nanosPerSecond ≤ now}
      (weekStartAt now)
  first : ∀ now rest, readings = now :: rest → resultAt [] now = false
  later : ∀ before previous now rest,
    readings = before ++ previous :: now :: rest →
    (resultAt (before ++ [previous]) now = true ↔
      ∃ monday, IsMonday monday ∧ previous < monday * nanosPerSecond ∧
        monday * nanosPerSecond ≤ now)
  ends : ∀ before now rest, readings = before ++ now :: rest →
    windowEnd before now = weekStartAt now
  disjoint : ∀ before now between next rest,
    readings = before ++ now :: between ++ next :: rest →
    resultAt before now = true →
    resultAt (before ++ now :: between) next = true →
    ∀ seconds, ¬ (seconds ∈ window (windowEnd before now) ∧
      seconds ∈ window (windowEnd (before ++ now :: between) next))
  once : ∀ before now between next rest,
    readings = before ++ now :: between ++ next :: rest →
    resultAt before now = true →
    resultAt (before ++ now :: between) next = true →
    ∀ {Json : Type} [DecidableEq Json] (first second : InstanceId)
      (row : Row SnapshotColumn Json),
      ¬ (windowCondition first (windowEnd before now) row = true ∧
        windowCondition second (windowEnd (before ++ now :: between) next)
          row = true)

theorem pairwise_of_append {before rest : List ℤ}
    (hsorted : (before ++ rest).Pairwise (· ≤ ·)) :
    before.Pairwise (· ≤ ·) :=
  (List.pairwise_append.mp hsorted).1

theorem split_at_first {readings before between rest : List ℤ} {now next : ℤ}
    (hsplit : readings = before ++ now :: between ++ next :: rest) :
    readings = before ++ now :: (between ++ next :: rest) := by
  rw [hsplit, List.append_assoc, List.cons_append]

section Sorted

variable {readings : List ℤ} (hsorted : readings.Pairwise (· ≤ ·))

include hsorted

theorem windowEnd_of_split {before rest : List ℤ} {now : ℤ}
    (hsplit : readings = before ++ now :: rest) :
    windowEnd before now = weekStartAt now := by
  rw [hsplit, List.append_cons] at hsorted
  exact windowEnd_eq (pairwise_of_append hsorted)

/-- A true result comes a week or more after every reading before it. -/
theorem windowEnd_add_le {before between rest : List ℤ} {now next : ℤ}
    (hexact : ∀ reading ∈ readings, Exact reading)
    (hsplit : readings = before ++ now :: between ++ next :: rest)
    (hnext : resultAt (before ++ now :: between) next = true) :
    windowEnd before now + secondsPerWeek ≤
      windowEnd (before ++ now :: between) next := by
  have hnow : windowEnd before now = weekStartAt now :=
    windowEnd_of_split hsorted (split_at_first hsplit)
  have hlast : windowEnd (before ++ now :: between) next = weekStartAt next :=
    windowEnd_of_split hsorted hsplit
  obtain ⟨earlier, previous, hprevious⟩ :
      ∃ earlier previous, before ++ now :: between = earlier ++ [previous] :=
    ⟨_, _, (List.dropLast_append_getLast (by simp)).symm⟩
  have hchecked : (earlier ++ [previous]).Pairwise (· ≤ ·) := by
    rw [hsplit, hprevious] at hsorted
    exact pairwise_of_append hsorted
  rw [hprevious, resultAt_iff hchecked] at hnext
  have hmem : now ∈ earlier ++ [previous] := by
    rw [← hprevious]
    simp
  have hle : now ≤ previous := by
    rcases List.mem_append.mp hmem with hearlier | hsame
    · exact (List.pairwise_append.mp hchecked).2.2 now hearlier previous
        (List.mem_singleton_self previous)
    · exact (List.mem_singleton.mp hsame).le
  rw [hnow, hlast]
  refine IsMonday.add_le_of_lt (hexact now ?_).isMonday_weekStartAt
    (hexact next ?_).isMonday_weekStartAt ((weekStartAt_mono hle).trans_lt hnext)
  · rw [hsplit]
    simp
  · rw [hsplit]
    simp

end Sorted

/-- The checks of a rollup at exact readings find each week boundary once. -/
theorem checksWeeks {readings : List ℤ} (hsorted : readings.Pairwise (· ≤ ·))
    (hexact : ∀ reading ∈ readings, Exact reading) : ChecksWeeks readings where
  start now hnow := (hexact now hnow).isGreatest_weekStartAt
  first now _ _ := resultAt_nil now
  later before previous now rest hsplit := by
    have hchecked : (before ++ [previous]).Pairwise (· ≤ ·) := by
      rw [hsplit, List.append_cons] at hsorted
      exact pairwise_of_append hsorted
    rw [resultAt_iff hchecked]
    exact weekStartAt_lt_iff (hexact previous (by simp [hsplit]))
      (hexact now (by simp [hsplit]))
  ends before now rest hsplit := windowEnd_of_split hsorted hsplit
  disjoint before now between next rest hsplit _ hnext :=
    not_mem_window_both (windowEnd_add_le hsorted hexact hsplit hnext)
  once before now between next rest hsplit _ hnext Json _ first second row := by
    have hle := windowEnd_add_le hsorted hexact hsplit hnext
    have hnow : windowEnd before now = weekStartAt now :=
      windowEnd_of_split hsorted (split_at_first hsplit)
    have hlast : windowEnd (before ++ now :: between) next =
        weekStartAt next := windowEnd_of_split hsorted hsplit
    refine not_windowCondition_both hle ?_ ?_ first second row
    · rw [hnow]
      exact (hexact now (by simp [hsplit])).weekStartAt_bounds.1
    · rw [hlast]
      exact (hexact next (by simp [hsplit])).weekStartAt_bounds.2

/-- The last second of a Sunday, the midnight after it and the next Monday. -/
theorem checksWeeks_midnight :
    ChecksWeeks [1767571199000000000, 1767571200000000000,
      1768176000000000000] := by
  refine checksWeeks (by decide) fun reading hreading => ?_
  simp only [List.mem_cons, List.not_mem_nil, or_false] at hreading
  rcases hreading with rfl | rfl | rfl <;>
    exact ⟨Or.inl (by decide), by decide, by decide⟩

/-- Half a second before Monday 1969-12-29 the week that is still to come
counts as the current one. -/
theorem not_checksWeeks_half_second : ¬ ChecksWeeks [-259200500000000] := by
  intro hchecks
  have hle := (hchecks.start _ List.mem_cons_self).1.2
  revert hle
  decide

end Datafeed.WeeklyRollup
