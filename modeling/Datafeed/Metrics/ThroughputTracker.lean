import Datafeed.Core.Machine
import Datafeed.Metrics.MetricAggregator
import Mathlib.Algebra.BigOperators.Group.List.Basic

/-!
# Counters and their rates

`ThroughputTracker` has thirteen atomic counters and, guarded by `mutex_`, the
value of each that was last seen and the time of that look.  An event adds to
its counters without the mutex.  `getAndUpdateStats` loads the counters one
after the other and divides what they gained by the elapsed time; `reset`
stores zero to them one after the other.  Both hold the mutex, so the events
interleave with their loads and stores.  Times are nanoseconds, doubles are
rationals, and counters are 64-bit.
-/

namespace Datafeed.ThroughputTracker

open ExchangeMonitor (TimePoint)
open MetricAggregator (Rate)

/-! ## The operations -/

/-- The counters and last values, named after the rates they yield. -/
structure Tracker where
  counters : Rate → UInt64
  lastUpdateTime : TimePoint
  last : Rate → UInt64

structure ThroughputStats where
  counters : Rate → UInt64
  rates : Rate → ℚ

def Tracker.new (now : TimePoint) : Tracker where
  counters _ := 0
  lastUpdateTime := now
  last _ := 0

inductive Event
  | onMessageReceived (bytes packets : UInt64)
  | onMessageSent (bytes packets : UInt64)
  | onTick
  | onTrade
  | onOrderbookUpdate
  | onSubscription
  | onBroadcast
  | onDatabaseWrite
  | onDatabaseRead
  deriving DecidableEq

/-- `if (amount > 0) counter.fetch_add(amount)`. -/
def addPositive (rate : Rate) (amount : UInt64) : List (Rate × UInt64) :=
  if amount > 0 then [(rate, amount)] else []

/-- The calls of `fetch_add` that an event makes, in order. -/
def Event.increments : Event → List (Rate × UInt64)
  | onMessageReceived bytes packets =>
      (.messagesReceived, 1) ::
        (addPositive .bytesReceived bytes ++
          addPositive .packetsReceived packets)
  | onMessageSent bytes packets =>
      (.messagesSent, 1) ::
        (addPositive .bytesSent bytes ++ addPositive .packetsSent packets)
  | onTick => [(.ticks, 1)]
  | onTrade => [(.trades, 1)]
  | onOrderbookUpdate => [(.orderbookUpdates, 1)]
  | onSubscription => [(.subscriptions, 1)]
  | onBroadcast => [(.broadcasts, 1)]
  | onDatabaseWrite => [(.databaseWrites, 1)]
  | onDatabaseRead => [(.databaseReads, 1)]

def Tracker.fetchAdd (tracker : Tracker) (increment : Rate × UInt64) :
    Tracker :=
  { tracker with
    counters := Function.update tracker.counters increment.1
      (tracker.counters increment.1 + increment.2) }

def Tracker.onEvent (event : Event) (tracker : Tracker) : Tracker :=
  event.increments.foldl Tracker.fetchAdd tracker

/-- The seconds between two readings, at least one nanosecond. -/
def elapsedSec (last now : TimePoint) : ℚ :=
  let elapsed := ((now - last : ℤ) : ℚ) / 1000000000
  if elapsed < 1 / 1000000000 then 1 / 1000000000 else elapsed

/-- The statistics for loaded counters; the difference of two counters is taken
in 64 bits. -/
def throughputStats (elapsed : ℚ) (last current : Rate → UInt64) :
    ThroughputStats where
  counters := current
  rates rate :=
    if elapsed > 0 then ((current rate - last rate).toNat : ℚ) / elapsed else 0

/-- What `getAndUpdateStats` does with the counters it has loaded. -/
def Tracker.updateStats (now : TimePoint) (current : Rate → UInt64)
    (tracker : Tracker) : ThroughputStats × Tracker :=
  (throughputStats (elapsedSec tracker.lastUpdateTime now) tracker.last current,
    { tracker with last := current, lastUpdateTime := now })

/-- `getAndUpdateStats` with no event between its loads. -/
def Tracker.getAndUpdateStats (now : TimePoint) (tracker : Tracker) :
    ThroughputStats × Tracker :=
  tracker.updateStats now tracker.counters

/-- `reset` with no event between its stores. -/
def Tracker.reset (now : TimePoint) (_tracker : Tracker) : Tracker where
  counters _ := 0
  lastUpdateTime := now
  last _ := 0

/-! ## The interleavings -/

/-- Who holds `mutex_`, and the counters it has still to load or to clear;
`found` records what had been added to each counter when it was loaded. -/
inductive Holder
  | free
  | reading (now : TimePoint) (loaded : Rate → UInt64) (found : Rate → ℕ)
      (rest : List Rate)
  | clearing (rest : List Rate)

/-- A call of `getAndUpdateStats`: the elapsed time it used, the values that
were in `last_…`, the values it loaded from the counters, what had been added to
each counter when it did so, and what it returned. -/
structure Interval where
  elapsed : ℚ
  previous : Rate → UInt64
  loaded : Rate → UInt64
  found : Rate → ℕ
  stats : ThroughputStats

/-- `calls` has the additions left to each event that was entered; `history`
records the calls of `getAndUpdateStats` since the last `reset`, and `added` what
was added to each counter since `reset` last stored to it. -/
structure State where
  tracker : Tracker
  calls : List (List (Rate × UInt64))
  holder : Holder
  history : List Interval
  added : Rate → ℕ

inductive Action
  | enter (event : Event)
  /-- The next addition of an event that was entered. -/
  | fetchAdd (caller : ℕ)
  | lockStats (now : TimePoint)
  | load
  | unlockStats
  | lockReset
  | store
  | unlockReset (now : TimePoint)

def step (state : State) : Action → Option State
  | .enter event =>
      some { state with calls := state.calls ++ [event.increments] }
  | .fetchAdd caller =>
      match state.calls[caller]? with
      | some (increment :: rest) =>
          some { state with
            tracker := state.tracker.fetchAdd increment
            calls := state.calls.set caller rest
            added := Function.update state.added increment.1
              (state.added increment.1 + increment.2.toNat) }
      | _ => none
  | .lockStats now =>
      match state.holder with
      | .free =>
          some { state with
            holder := .reading now (fun _ => 0) (fun _ => 0) Rate.all }
      | _ => none
  | .load =>
      match state.holder with
      | .reading now loaded found (rate :: rest) =>
          some { state with
            holder := .reading now
              (Function.update loaded rate (state.tracker.counters rate))
              (Function.update found rate (state.added rate)) rest }
      | _ => none
  | .unlockStats =>
      match state.holder with
      | .reading now loaded found [] =>
          let updated := state.tracker.updateStats now loaded
          let interval : Interval :=
            { elapsed := elapsedSec state.tracker.lastUpdateTime now
              previous := state.tracker.last
              loaded := loaded
              found := found
              stats := updated.1 }
          some { state with
            tracker := updated.2
            holder := .free
            history := state.history ++ [interval] }
      | _ => none
  | .lockReset =>
      match state.holder with
      | .free => some { state with holder := .clearing Rate.all }
      | _ => none
  | .store =>
      match state.holder with
      | .clearing (rate :: rest) =>
          some { state with
            tracker :=
              { state.tracker with
                counters := Function.update state.tracker.counters rate 0 }
            holder := .clearing rest
            added := Function.update state.added rate 0 }
      | _ => none
  | .unlockReset now =>
      match state.holder with
      | .clearing [] =>
          some { state with
            tracker :=
              { state.tracker with lastUpdateTime := now, last := fun _ => 0 }
            holder := .free
            history := [] }
      | _ => none

def machine (start : TimePoint) : Machine State Action where
  initial := ⟨Tracker.new start, [], .free, [], fun _ => 0⟩
  step := step

/-- The counter an addition goes to stays below its range. -/
def Fits (state : State) : Action → Prop
  | .fetchAdd caller =>
      ∀ increment rest, state.calls[caller]? = some (increment :: rest) →
        (state.tracker.counters increment.1).toNat + increment.2.toNat < 2 ^ 64
  | _ => True

/-! ## The invariant -/

/-- What the intervals have counted in all. -/
def counted (history : List Interval) (rate : Rate) : ℚ :=
  (history.map fun interval =>
    interval.stats.rates rate * interval.elapsed).sum

/-- The value that the last of the calls loaded from the counter. -/
def lastCounter (history : List Interval) (rate : Rate) : UInt64 :=
  (history.getLast?.map (·.loaded rate)).getD 0

/-- How the last values, the loaded values and the counters are ordered while
the mutex is free, while it is held to read, and while it is held to clear; a
loaded value is what had been added. -/
def Behind (tracker : Tracker) : Holder → Prop
  | .free => ∀ rate, tracker.last rate ≤ tracker.counters rate
  | .reading _ loaded found rest =>
      ∀ rate, tracker.last rate ≤ tracker.counters rate ∧
        (rate ∉ rest →
          tracker.last rate ≤ loaded rate ∧
            loaded rate ≤ tracker.counters rate ∧
              (loaded rate).toNat = found rate)
  | .clearing _ => True

structure Invariant (state : State) : Prop where
  behind : Behind state.tracker state.holder
  added : ∀ rate, (state.tracker.counters rate).toNat = state.added rate
  unwrapped : ∀ interval ∈ state.history, ∀ rate,
    interval.previous rate ≤ interval.loaded rate
  measured : ∀ interval ∈ state.history, ∀ rate,
    (interval.loaded rate).toNat = interval.found rate
  returned : ∀ interval ∈ state.history,
    interval.stats.counters = interval.loaded
  counted : ∀ rate,
    counted state.history rate = (state.tracker.last rate).toNat
  lastCounter : ∀ rate, lastCounter state.history rate = state.tracker.last rate

theorem Rate.mem_all (rate : Rate) : rate ∈ Rate.all := by
  cases rate <;> decide

theorem invariant_initial (start : TimePoint) :
    Invariant (machine start).initial where
  behind _ := UInt64.le_refl _
  added _ := rfl
  unwrapped _ hinterval := absurd hinterval List.not_mem_nil
  measured _ hinterval := absurd hinterval List.not_mem_nil
  returned _ hinterval := absurd hinterval List.not_mem_nil
  counted _ := rfl
  lastCounter _ := rfl

theorem elapsedSec_pos (last now : TimePoint) : 0 < elapsedSec last now := by
  rw [elapsedSec]
  split
  · norm_num
  · next hle =>
      have hbound : (1 : ℚ) / 1000000000 ≤
          ((now - last : ℤ) : ℚ) / 1000000000 := not_lt.mp hle
      exact lt_of_lt_of_le (by norm_num) hbound

/-- A rate times its elapsed time is the gain, which did not wrap. -/
theorem rates_mul_elapsed {elapsed : ℚ} (hpositive : 0 < elapsed)
    {last current : Rate → UInt64} {rate : Rate}
    (hle : last rate ≤ current rate) :
    (throughputStats elapsed last current).rates rate * elapsed =
      (current rate).toNat - (last rate).toNat := by
  have hcast : (last rate).toNat ≤ (current rate).toNat := hle
  calc
    (throughputStats elapsed last current).rates rate * elapsed
        = ((current rate - last rate).toNat : ℚ) / elapsed * elapsed := by
          exact congrArg (· * elapsed) (if_pos hpositive)
    _ = ((current rate - last rate).toNat : ℚ) :=
          div_mul_cancel₀ _ hpositive.ne'
    _ = (current rate).toNat - (last rate).toNat := by
          rw [UInt64.toNat_sub_of_le _ _ hle, Nat.cast_sub hcast]

theorem counted_append (history : List Interval) (interval : Interval)
    (rate : Rate) :
    counted (history ++ [interval]) rate =
      counted history rate + interval.stats.rates rate * interval.elapsed := by
  simp [counted]

/-- What was counted up to the last values, and the gain over them. -/
theorem counted_append_gain {history : List Interval} {interval : Interval}
    {rate : Rate}
    (hcounted : counted history rate = (interval.previous rate).toNat)
    (hgain : interval.stats.rates rate * interval.elapsed =
      (interval.loaded rate).toNat - (interval.previous rate).toNat) :
    counted (history ++ [interval]) rate = (interval.loaded rate).toNat :=
  calc
    counted (history ++ [interval]) rate
        = counted history rate +
            interval.stats.rates rate * interval.elapsed :=
          counted_append history interval rate
    _ = (interval.previous rate).toNat +
          ((interval.loaded rate).toNat - (interval.previous rate).toNat) := by
          rw [hcounted, hgain]
    _ = (interval.loaded rate).toNat := add_sub_cancel _ _

theorem lastCounter_append (history : List Interval) (interval : Interval)
    (rate : Rate) :
    lastCounter (history ++ [interval]) rate = interval.loaded rate := by
  simp [lastCounter]

/-- An addition that fits adds what it says to its counter. -/
theorem toNat_counters_fetchAdd {tracker : Tracker} {increment : Rate × UInt64}
    (hfits : (tracker.counters increment.1).toNat + increment.2.toNat < 2 ^ 64)
    {added : Rate → ℕ}
    (hadded : ∀ rate, (tracker.counters rate).toNat = added rate)
    (rate : Rate) :
    ((tracker.fetchAdd increment).counters rate).toNat =
      Function.update added increment.1
        (added increment.1 + increment.2.toNat) rate := by
  by_cases hsame : rate = increment.1
  · subst hsame
    simp only [Tracker.fetchAdd, Function.update_self]
    rw [UInt64.toNat_add, Nat.mod_eq_of_lt hfits, hadded]
  · simp only [Tracker.fetchAdd, Function.update_of_ne hsame, hadded]

/-- An addition that fits leaves no counter lower. -/
theorem counters_le_fetchAdd {tracker : Tracker} {increment : Rate × UInt64}
    (hfits : (tracker.counters increment.1).toNat + increment.2.toNat < 2 ^ 64)
    (rate : Rate) :
    tracker.counters rate ≤ (tracker.fetchAdd increment).counters rate := by
  by_cases hsame : rate = increment.1
  · subst hsame
    simp only [Tracker.fetchAdd, Function.update_self]
    rw [UInt64.le_iff_toNat_le, UInt64.toNat_add, Nat.mod_eq_of_lt hfits]
    exact Nat.le_add_right _ _
  · simp only [Tracker.fetchAdd, Function.update_of_ne hsame]
    exact UInt64.le_refl _

theorem Behind.fetchAdd {tracker : Tracker} {holder : Holder}
    (hbehind : Behind tracker holder) {increment : Rate × UInt64}
    (hfits : (tracker.counters increment.1).toNat + increment.2.toNat <
      2 ^ 64) : Behind (tracker.fetchAdd increment) holder := by
  have hgrow := counters_le_fetchAdd hfits
  cases holder with
  | free => exact fun rate => UInt64.le_trans (hbehind rate) (hgrow rate)
  | reading now loaded found rest =>
      intro rate
      obtain ⟨hlast, hloaded⟩ := hbehind rate
      refine ⟨UInt64.le_trans hlast (hgrow rate), fun hrest => ?_⟩
      obtain ⟨hlower, hupper, hfound⟩ := hloaded hrest
      exact ⟨hlower, UInt64.le_trans hupper (hgrow rate), hfound⟩
  | clearing rest => trivial

theorem Behind.load {tracker : Tracker} {now : TimePoint}
    {loaded : Rate → UInt64} {found added : Rate → ℕ} {rate : Rate}
    {rest : List Rate}
    (hbehind : Behind tracker (.reading now loaded found (rate :: rest)))
    (hadded : (tracker.counters rate).toNat = added rate) :
    Behind tracker (.reading now
      (Function.update loaded rate (tracker.counters rate))
      (Function.update found rate (added rate)) rest) := by
  intro other
  obtain ⟨hlast, hloaded⟩ := hbehind other
  refine ⟨hlast, fun hrest => ?_⟩
  by_cases hsame : other = rate
  · subst hsame
    rw [Function.update_self, Function.update_self]
    exact ⟨hlast, UInt64.le_refl _, hadded⟩
  · rw [Function.update_of_ne hsame, Function.update_of_ne hsame]
    exact hloaded fun hmem => (List.mem_cons.mp hmem).elim hsame hrest

/-- The release of `getAndUpdateStats`: the interval it appends counts what the
counters have gained over the last values. -/
theorem Invariant.unlockStats {state : State} (hinv : Invariant state)
    {now : TimePoint} {loaded : Rate → UInt64} {found : Rate → ℕ}
    (hholder : state.holder = .reading now loaded found []) :
    Invariant { state with
      tracker := (state.tracker.updateStats now loaded).2
      holder := .free
      history := state.history ++
        [{ elapsed := elapsedSec state.tracker.lastUpdateTime now
           previous := state.tracker.last
           loaded := loaded
           found := found
           stats := (state.tracker.updateStats now loaded).1 }] } := by
  have hbehind := hinv.behind
  rw [hholder] at hbehind
  have hloaded : ∀ rate, state.tracker.last rate ≤ loaded rate ∧
      loaded rate ≤ state.tracker.counters rate ∧
        (loaded rate).toNat = found rate :=
    fun rate => (hbehind rate).2 List.not_mem_nil
  constructor
  · exact fun rate => (hloaded rate).2.1
  · exact hinv.added
  · intro interval hinterval rate
    rcases List.mem_append.mp hinterval with hinterval | hinterval
    · exact hinv.unwrapped interval hinterval rate
    · obtain rfl := List.mem_singleton.mp hinterval
      exact (hloaded rate).1
  · intro interval hinterval rate
    rcases List.mem_append.mp hinterval with hinterval | hinterval
    · exact hinv.measured interval hinterval rate
    · obtain rfl := List.mem_singleton.mp hinterval
      exact (hloaded rate).2.2
  · intro interval hinterval
    rcases List.mem_append.mp hinterval with hinterval | hinterval
    · exact hinv.returned interval hinterval
    · obtain rfl := List.mem_singleton.mp hinterval
      rfl
  · intro rate
    exact counted_append_gain (hinv.counted rate)
      (rates_mul_elapsed (elapsedSec_pos _ _) (hloaded rate).1)
  · intro rate
    exact lastCounter_append _ _ rate

theorem invariant_step {state next : State} {action : Action}
    (hinv : Invariant state) (hfits : Fits state action)
    (hstep : step state action = some next) : Invariant next := by
  cases action with
  | enter event =>
      cases hstep
      exact { hinv with behind := hinv.behind }
  | fetchAdd caller =>
      simp only [step] at hstep
      split at hstep
      · next increment rest hcall =>
          cases hstep
          have hroom := hfits increment rest hcall
          exact { hinv with
            behind := hinv.behind.fetchAdd hroom
            added := toNat_counters_fetchAdd hroom hinv.added }
      · cases hstep
  | lockStats now =>
      simp only [step] at hstep
      split at hstep
      · next hholder =>
          cases hstep
          have hbehind := hinv.behind
          rw [hholder] at hbehind
          exact { hinv with
            behind := fun rate => ⟨hbehind rate, fun hrest =>
              absurd (Rate.mem_all rate) hrest⟩ }
      · cases hstep
  | load =>
      simp only [step] at hstep
      split at hstep
      · next now loaded found rate rest hholder =>
          cases hstep
          have hbehind := hinv.behind
          rw [hholder] at hbehind
          exact { hinv with behind := hbehind.load (hinv.added rate) }
      · cases hstep
  | unlockStats =>
      simp only [step] at hstep
      split at hstep
      · next now loaded found hholder =>
          cases hstep
          exact hinv.unlockStats hholder
      · cases hstep
  | lockReset =>
      simp only [step] at hstep
      split at hstep
      · cases hstep
        exact { hinv with behind := trivial }
      · cases hstep
  | store =>
      simp only [step] at hstep
      split at hstep
      · next rate rest hholder =>
          cases hstep
          refine { hinv with behind := trivial, added := fun other => ?_ }
          by_cases hsame : other = rate
          · subst hsame
            simp
          · simp [hsame, hinv.added]
      · cases hstep
  | unlockReset now =>
      simp only [step] at hstep
      split at hstep
      · cases hstep
        -- the last values are zero, so nothing is ahead of a counter
        exact
          { behind := fun _ => UInt64.zero_le
            added := hinv.added
            unwrapped := fun _ hnil => absurd hnil List.not_mem_nil
            measured := fun _ hnil => absurd hnil List.not_mem_nil
            returned := fun _ hnil => absurd hnil List.not_mem_nil
            counted := fun _ => rfl
            lastCounter := fun _ => rfl }
      · cases hstep

theorem invariant_of_run {start : TimePoint} {actions : List Action}
    {state : State}
    (hfits : (machine start).Along Fits (machine start).initial actions)
    (hrun : (machine start).run (machine start).initial actions = some state) :
    Invariant state := by
  have hpreserve : ∀ state action next, Invariant state → Fits state action →
      (machine start).step state action = some next → Invariant next :=
    fun _ _ _ hinv hcondition hstep => invariant_step hinv hcondition hstep
  exact Machine.invariant_along hpreserve (invariant_initial start) hfits hrun

/-! ## Calls without an event in between -/

theorem ite_mem_update {Value : Type*} (values others : Rate → Value)
    (rate : Rate) (rest : List Rate) :
    (fun other => if other ∈ rest then values other
      else Function.update others rate (values rate) other) =
        fun other => if other ∈ rate :: rest then values other
          else others other := by
  funext other
  by_cases hsame : other = rate
  · subst hsame
    simp
  · simp [hsame]

/-- The loads of one holder of the mutex, in sequence. -/
theorem run_load (start now : TimePoint) (state : State) (rest : List Rate)
    (loaded : Rate → UInt64) (found : Rate → ℕ) :
    (machine start).run { state with holder := .reading now loaded found rest }
        (List.replicate rest.length .load) =
      some { state with
        holder := .reading now
          (fun rate => if rate ∈ rest then state.tracker.counters rate
            else loaded rate)
          (fun rate => if rate ∈ rest then state.added rate
            else found rate) [] } := by
  induction rest generalizing loaded found with
  | nil => simp
  | cons rate rest ih =>
      rw [List.length_cons, List.replicate_succ, Machine.run_cons]
      change (machine start).run { state with
        holder := .reading now
          (Function.update loaded rate (state.tracker.counters rate))
          (Function.update found rate (state.added rate)) rest } _ = _
      rw [ih, ite_mem_update, ite_mem_update]

/-- With no event between its loads, a call of `getAndUpdateStats` is the
function of that name. -/
theorem run_getAndUpdateStats (start now : TimePoint) {state : State}
    (hfree : state.holder = .free) :
    (machine start).run state
        (.lockStats now :: (List.replicate Rate.all.length .load ++
          [.unlockStats])) =
      some { state with
        tracker := (state.tracker.getAndUpdateStats now).2
        history := state.history ++
          [{ elapsed := elapsedSec state.tracker.lastUpdateTime now
             previous := state.tracker.last
             loaded := state.tracker.counters
             found := state.added
             stats := (state.tracker.getAndUpdateStats now).1 }] } := by
  have hlock : (machine start).step state (.lockStats now) =
      some { state with
        holder := .reading now (fun _ => 0) (fun _ => 0) Rate.all } := by
    simp [machine, step, hfree]
  rw [Machine.run_cons, hlock, Option.bind_some, Machine.run_append, run_load,
    Option.bind_some]
  have hall {Value : Type} (values : Rate → Value) (value : Value) :
      (fun rate => if rate ∈ Rate.all then values rate else value) = values :=
    funext fun rate => if_pos (Rate.mem_all rate)
  simp only [hall]
  simp [machine, step, Tracker.getAndUpdateStats, hfree]

/-- The stores of one holder of the mutex, in sequence. -/
theorem run_store (start : TimePoint) (state : State) (rest : List Rate) :
    (machine start).run { state with holder := .clearing rest }
        (List.replicate rest.length .store) =
      some { state with
        tracker :=
          { state.tracker with
            counters := fun rate =>
              if rate ∈ rest then 0 else state.tracker.counters rate }
        holder := .clearing []
        added := fun rate => if rate ∈ rest then 0 else state.added rate } := by
  induction rest generalizing state with
  | nil => simp
  | cons rate rest ih =>
      rw [List.length_cons, List.replicate_succ, Machine.run_cons]
      have hrest := ih { state with
        tracker :=
          { state.tracker with
            counters := Function.update state.tracker.counters rate 0 }
        added := Function.update state.added rate 0 }
      refine hrest.trans ?_
      simp only [ite_mem_update]

/-- With no event between its stores, a call of `reset` is the function of that
name. -/
theorem run_reset (start now : TimePoint) {state : State}
    (hfree : state.holder = .free) :
    (machine start).run state
        (.lockReset :: (List.replicate Rate.all.length .store ++
          [.unlockReset now])) =
      some { state with
        tracker := state.tracker.reset now
        history := []
        added := fun _ => 0 } := by
  have hlock : (machine start).step state .lockReset =
      some { state with holder := .clearing Rate.all } := by
    simp [machine, step, hfree]
  rw [Machine.run_cons, hlock, Option.bind_some, Machine.run_append, run_store,
    Option.bind_some]
  have hcleared {Value : Type} (values : Rate → Value) (value : Value) :
      (fun rate => if rate ∈ Rate.all then value else values rate) =
        fun _ => value := funext fun rate => if_pos (Rate.mem_all rate)
  simp only [hcleared]
  simp [machine, step, Tracker.reset, hfree]

/-! ## Every event is counted once -/

/-- Each counter holds what was added to it, no last value is ahead of its
counter, no rate was computed from a wrapped difference of the loaded counters,
which are what had been added then and what was returned, and the intervals
since the last reset add up to the counter that the last call loaded. -/
structure Conserves (state : State) : Prop where
  behind : ∀ rate, state.tracker.last rate ≤ state.tracker.counters rate
  added : ∀ rate, (state.tracker.counters rate).toNat = state.added rate
  unwrapped : ∀ interval ∈ state.history, ∀ rate,
    interval.previous rate ≤ interval.loaded rate
  measured : ∀ interval ∈ state.history, ∀ rate,
    (interval.loaded rate).toNat = interval.found rate
  returned : ∀ interval ∈ state.history,
    interval.stats.counters = interval.loaded
  counted : ∀ rate,
    counted state.history rate = (lastCounter state.history rate).toNat

theorem run_conserves {start : TimePoint} {actions : List Action}
    {state : State}
    (hfits : (machine start).Along Fits (machine start).initial actions)
    (hrun : (machine start).run (machine start).initial actions = some state)
    (hfree : state.holder = .free) : Conserves state := by
  have hinv := invariant_of_run hfits hrun
  have hbehind := hinv.behind
  rw [hfree] at hbehind
  refine ⟨hbehind, hinv.added, hinv.unwrapped, hinv.measured, hinv.returned,
    fun rate => ?_⟩
  rw [hinv.counted rate, hinv.lastCounter rate]

/-- A message of ten bytes is counted. -/
def oneMessage : List Action :=
  [.enter (.onMessageReceived 10 1), .fetchAdd 0, .fetchAdd 0, .fetchAdd 0]

/-- One look at the counters. -/
def oneLook : List Action :=
  .lockStats 1000000000 :: (List.replicate Rate.all.length .load ++
    [.unlockStats])

theorem run_conserves_oneMessage :
    ∃ state, (machine 0).run (machine 0).initial (oneMessage ++ oneLook) =
        some state ∧ Conserves state := by
  have hfits : (machine 0).Along Fits (machine 0).initial
      (oneMessage ++ oneLook) := by
    refine (Machine.along_append rfl).mpr ⟨?_, ?_⟩
    · refine ⟨trivial, fun next hstep => ?_⟩
      cases hstep
      refine ⟨?_, fun next hstep => ?_⟩
      · intro increment rest hcall
        cases hcall
        decide
      cases hstep
      refine ⟨?_, fun next hstep => ?_⟩
      · intro increment rest hcall
        cases hcall
        decide
      cases hstep
      refine ⟨?_, fun next hstep => trivial⟩
      intro increment rest hcall
      cases hcall
      decide
    · apply Machine.along_of_forall
      intro action haction state
      simp only [oneLook, List.mem_cons, List.mem_append, List.mem_replicate,
        List.not_mem_nil, or_false] at haction
      rcases haction with rfl | ⟨-, rfl⟩ | rfl <;> trivial
  exact ⟨_, rfl, run_conserves hfits rfl rfl⟩

end Datafeed.ThroughputTracker
