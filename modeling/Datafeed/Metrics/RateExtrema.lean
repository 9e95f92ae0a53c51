import Datafeed.Metrics.AggregatorHistory
import Mathlib.Order.Bounds.Basic

/-!
# The extrema of the rates

`MetricAggregator` keeps the least and the greatest value of each of its thirteen
rates.  `accum_rate` starts a pair anew where its flag is not set, but three of
the ten flags are shared by two rates.  The rate that comes second finds the flag
set by the first one, so that its pair is never started anew: it spans zero and
every value since the construction, whatever `reset` is called in between.
-/

namespace Datafeed.MetricAggregator

/-! ## Least and greatest values -/

/-- The least and the greatest of a set of values. -/
structure Spans {Value : Type*} [LE Value] (values : Set Value)
    (low high : Value) : Prop where
  low : IsLeast values low
  high : IsGreatest values high

section Spans

variable {Value : Type*} [LinearOrder Value]

theorem spans_singleton (value : Value) : Spans {value} value value where
  low := isLeast_singleton
  high := isGreatest_singleton

theorem Spans.insert {values : Set Value} {low high : Value}
    (hspans : Spans values low high) (value : Value) :
    Spans (Insert.insert value values) (min low value) (max high value) where
  low := min_comm value low ▸ hspans.low.insert value
  high := max_comm value high ▸ hspans.high.insert value

/-- The extrema of a set are those of a part of it if they are taken there. -/
theorem Spans.subset_iff {values part : Set Value} {low high : Value}
    (hspans : Spans values low high) (hpart : part ⊆ values) :
    Spans part low high ↔
      (∃ value ∈ part, ∀ other ∈ values, value ≤ other) ∧
        ∃ value ∈ part, ∀ other ∈ values, other ≤ value := by
  constructor
  · intro hspansPart
    exact ⟨⟨low, hspansPart.low.1, fun _ hother => hspans.low.2 hother⟩,
      ⟨high, hspansPart.high.1, fun _ hother => hspans.high.2 hother⟩⟩
  · rintro ⟨⟨least, hleast, hbelow⟩, ⟨greatest, hgreatest, habove⟩⟩
    have hlow : least = low :=
      le_antisymm (hbelow low hspans.low.1) (hspans.low.2 (hpart hleast))
    have hhigh : greatest = high :=
      le_antisymm (hspans.high.2 (hpart hgreatest)) (habove high hspans.high.1)
    subst hlow hhigh
    exact
      { low := ⟨hleast, fun _ hother => hbelow _ (hpart hother)⟩
        high := ⟨hgreatest, fun _ hother => habove _ (hpart hother)⟩ }

end Spans

/-! ## One snapshot -/

/-- The rates that are accumulated second with their flag. -/
def Rate.SharesFlag (rate : Rate) : Prop :=
  rate = .messagesSent ∨ rate = .bytesSent ∨ rate = .packetsSent

instance (rate : Rate) : Decidable rate.SharesFlag :=
  inferInstanceAs (Decidable (_ ∨ _ ∨ _))

/-- The rates accumulated before a rate. -/
def Rate.earlier (rate : Rate) : List Rate :=
  Rate.all.takeWhile (· ≠ rate)

/-- The rates accumulated after it. -/
def Rate.later (rate : Rate) : List Rate :=
  (Rate.all.dropWhile (· ≠ rate)).tail

theorem all_eq_earlier_later (rate : Rate) :
    Rate.all = rate.earlier ++ rate :: rate.later := by
  cases rate <;> rfl

theorem not_mem_earlier (rate : Rate) : rate ∉ rate.earlier := by
  cases rate <;> decide

theorem not_mem_later (rate : Rate) : rate ∉ rate.later := by
  cases rate <;> decide

theorem any_flag_earlier (rate : Rate) :
    (rate.earlier.any fun other => other.flag = rate.flag) =
      decide rate.SharesFlag := by
  cases rate <;> decide

/-- The accumulators of a rate are left alone by the other rates. -/
theorem foldl_accumRate_frame (values : Rate → ℚ) {order : List Rate}
    (running : RateRunning) {rate : Rate} (hother : rate ∉ order) :
    (order.foldl (accumRate values) running).min rate = running.min rate ∧
      (order.foldl (accumRate values) running).max rate =
        running.max rate := by
  induction order generalizing running with
  | nil => exact ⟨rfl, rfl⟩
  | cons head order ih =>
      have hhead := List.ne_of_not_mem_cons hother
      have hrest := List.not_mem_of_not_mem_cons hother
      rw [List.foldl_cons, (ih _ hrest).1, (ih _ hrest).2]
      exact ⟨Function.update_of_ne hhead _ _, Function.update_of_ne hhead _ _⟩

/-- A flag is set after some rates if it was, or if it is that of one of them. -/
theorem foldl_accumRate_initialized (values : Rate → ℚ) (order : List Rate)
    (running : RateRunning) (flag : RateFlag) :
    (order.foldl (accumRate values) running).initialized flag =
      (running.initialized flag || order.any fun rate => rate.flag = flag) := by
  induction order generalizing running with
  | nil => rw [List.foldl_nil, List.any_nil, Bool.or_false]
  | cons head order ih =>
      rw [List.foldl_cons, ih, List.any_cons]
      by_cases hflag : head.flag = flag
      · subst hflag
        simp [accumRate]
      · simp [accumRate, hflag, Ne.symm hflag]

/-- What a snapshot does to the extrema of a rate. -/
theorem extrema_addSnapshot (aggregator : Aggregator) (s : FeedMetricsSnapshot)
    (rate : Rate) :
    ((addSnapshot aggregator s).rates.min rate =
      if aggregator.rates.initialized rate.flag || decide rate.SharesFlag then
        min (aggregator.rates.min rate) (s.rates rate)
      else s.rates rate) ∧
    (addSnapshot aggregator s).rates.max rate =
      if aggregator.rates.initialized rate.flag || decide rate.SharesFlag then
        max (aggregator.rates.max rate) (s.rates rate)
      else s.rates rate := by
  have hrates : (addSnapshot aggregator s).rates =
      rate.later.foldl (accumRate s.rates) (accumRate s.rates
        (rate.earlier.foldl (accumRate s.rates) aggregator.rates) rate) := by
    simp only [addSnapshot]
    rw [all_eq_earlier_later rate, List.foldl_append, List.foldl_cons]
  have hlater := foldl_accumRate_frame s.rates (accumRate s.rates
    (rate.earlier.foldl (accumRate s.rates) aggregator.rates) rate)
    (not_mem_later rate)
  have hearlier := foldl_accumRate_frame s.rates aggregator.rates
    (not_mem_earlier rate)
  rw [hrates, hlater.1, hlater.2]
  simp only [accumRate, Function.update_self, foldl_accumRate_initialized,
    any_flag_earlier, hearlier.1, hearlier.2, and_self]

/-! ## Histories -/

def addedAfter (snapshots : List FeedMetricsSnapshot) :
    Operation → List FeedMetricsSnapshot
  | .addSnapshot snapshot => snapshots ++ [snapshot]
  | .produceSummary => snapshots
  | .reset => snapshots

/-- All snapshots that a history has added, those before its resets too. -/
def added (history : List Operation) : List FeedMetricsSnapshot :=
  history.foldl addedAfter []

/-- The values of a rate. -/
def ratesOf (rate : Rate) (snapshots : List FeedMetricsSnapshot) : Set ℚ :=
  {value | ∃ s ∈ snapshots, s.rates rate = value}

theorem ratesOf_nil (rate : Rate) : ratesOf rate [] = ∅ := by
  ext value
  simp [ratesOf]

theorem ratesOf_append (rate : Rate) (snapshots : List FeedMetricsSnapshot)
    (s : FeedMetricsSnapshot) :
    ratesOf rate (snapshots ++ [s]) =
      insert (s.rates rate) (ratesOf rate snapshots) := by
  ext value
  simp only [ratesOf, List.mem_append, List.mem_singleton, or_and_right,
    exists_or, exists_eq_left, Set.mem_ofPred_eq, Set.mem_insert_iff]
  rw [or_comm, eq_comm]

theorem run_append (history : List Operation) (operation : Operation) :
    run (history ++ [operation]) = (run history).apply operation := by
  rw [run, List.foldl_append]
  rfl

theorem sinceReset_append (history : List Operation) (operation : Operation) :
    sinceReset (history ++ [operation]) =
      snapshotsAfter (sinceReset history) operation := by
  rw [sinceReset, List.foldl_append]
  rfl

theorem added_append (history : List Operation) (operation : Operation) :
    added (history ++ [operation]) = addedAfter (added history) operation := by
  rw [added, List.foldl_append]
  rfl

theorem mem_added {history : List Operation} {s : FeedMetricsSnapshot}
    (hs : s ∈ sinceReset history) : s ∈ added history := by
  induction history using List.reverseRecOn with
  | nil => exact hs
  | append_singleton history operation ih =>
      rw [sinceReset_append] at hs
      rw [added_append]
      cases operation with
      | addSnapshot snapshot =>
          rcases List.mem_append.mp hs with hearlier | hlast
          · exact List.mem_append_left _ (ih hearlier)
          · exact List.mem_append_right _ hlast
      | produceSummary => exact ih hs
      | reset => cases hs

/-- A flag is set from the first snapshot after a reset on. -/
theorem initialized_run (history : List Operation) (flag : RateFlag) :
    (run history).rates.initialized flag = true ↔ sinceReset history ≠ [] := by
  induction history using List.reverseRecOn with
  | nil => exact iff_of_false Bool.false_ne_true (not_not_intro rfl)
  | append_singleton history operation ih =>
      rw [run_append, sinceReset_append]
      cases operation with
      | addSnapshot snapshot =>
          refine iff_of_true ?_ (List.append_ne_nil_of_right_ne_nil _ (by simp))
          have hall : (Rate.all.any fun rate => rate.flag = flag) = true := by
            cases flag <;> decide
          simp only [Aggregator.apply, addSnapshot, foldl_accumRate_initialized,
            hall, Bool.or_true]
      | produceSummary => exact ih
      | reset => exact iff_of_false Bool.false_ne_true (not_not_intro rfl)

/-- The pair of a rate with a flag of its own, or the first one of two. -/
theorem spans_since {history : List Operation} (hne : sinceReset history ≠ [])
    {rate : Rate} (hfirst : ¬ rate.SharesFlag) :
    Spans (ratesOf rate (sinceReset history)) ((run history).rates.min rate)
      ((run history).rates.max rate) := by
  induction history using List.reverseRecOn with
  | nil => exact absurd rfl hne
  | append_singleton history operation ih =>
      rw [sinceReset_append] at hne ⊢
      rw [run_append]
      cases operation with
      | addSnapshot snapshot =>
          obtain ⟨hmin, hmax⟩ := extrema_addSnapshot (run history) snapshot rate
          rw [Aggregator.apply, hmin, hmax, snapshotsAfter, ratesOf_append]
          simp only [hfirst, decide_false, Bool.or_false, initialized_run]
          by_cases hearlier : sinceReset history = []
          · rw [if_neg (not_not_intro hearlier), if_neg (not_not_intro hearlier),
              hearlier, ratesOf_nil, insert_empty_eq]
            exact spans_singleton _
          · rw [if_pos hearlier, if_pos hearlier]
            exact (ih hearlier).insert _
      | produceSummary => exact ih hne
      | reset => exact absurd rfl hne

/-- The pair of a rate that comes second with its flag. -/
theorem spans_added (history : List Operation) {rate : Rate}
    (hsecond : rate.SharesFlag) :
    Spans (insert 0 (ratesOf rate (added history)))
      ((run history).rates.min rate) ((run history).rates.max rate) := by
  induction history using List.reverseRecOn with
  | nil =>
      rw [added, List.foldl_nil, ratesOf_nil, insert_empty_eq]
      exact spans_singleton 0
  | append_singleton history operation ih =>
      rw [run_append, added_append]
      cases operation with
      | addSnapshot snapshot =>
          obtain ⟨hmin, hmax⟩ := extrema_addSnapshot (run history) snapshot rate
          rw [Aggregator.apply, hmin, hmax, addedAfter, ratesOf_append,
            Set.insert_comm]
          simp only [hsecond, decide_true, Bool.or_true, if_true]
          exact ih.insert _
      | produceSummary => exact ih
      | reset => exact ih

/-- The pair kept for a rate is the least and the greatest of its values in the
snapshots since the last reset. -/
def ExtremaRight (history : List Operation) (rate : Rate) : Prop :=
  Spans (ratesOf rate (sinceReset history)) ((run history).rates.min rate)
    ((run history).rates.max rate)

/-- The pairs of ten rates are right.  That of a rate which comes second with its
flag is where the snapshots since the last reset have a value that is neither
above zero nor above any earlier one, and one that is not below them. -/
theorem extremaRight_iff {history : List Operation}
    (hne : sinceReset history ≠ []) (rate : Rate) :
    ExtremaRight history rate ↔
      (rate.SharesFlag →
        (∃ s ∈ sinceReset history, s.rates rate ≤ 0 ∧
          ∀ other ∈ added history, s.rates rate ≤ other.rates rate) ∧
        ∃ s ∈ sinceReset history, 0 ≤ s.rates rate ∧
          ∀ other ∈ added history, other.rates rate ≤ s.rates rate) := by
  by_cases hsecond : rate.SharesFlag
  · have hpart : ratesOf rate (sinceReset history) ⊆
        insert 0 (ratesOf rate (added history)) := by
      rintro value ⟨s, hs, hvalue⟩
      exact Set.mem_insert_of_mem _ ⟨s, mem_added hs, hvalue⟩
    rw [ExtremaRight, (spans_added history hsecond).subset_iff hpart,
      forall_prop_of_true hsecond]
    simp [ratesOf]
  · exact iff_of_true (spans_since hne hsecond) fun hshares =>
      absurd hshares hsecond

/-- A snapshot of a second in which so many of everything were counted. -/
def busy (rate : ℚ) : FeedMetricsSnapshot where
  rates _ := rate

/-- A second without messages before one with five. -/
theorem extremaRight_iff_quiet :
    ExtremaRight [.addSnapshot (busy 0), .addSnapshot (busy 5)]
      .messagesSent := by
  have hsince : sinceReset [.addSnapshot (busy 0), .addSnapshot (busy 5)] ≠
      [] := List.cons_ne_nil (busy 0) [busy 5]
  refine (extremaRight_iff hsince _).mpr fun _ =>
    ⟨⟨busy 0, List.mem_cons_self, le_rfl, ?_⟩,
      ⟨busy 5, List.mem_cons_of_mem _ List.mem_cons_self, by decide, ?_⟩⟩
  · intro other hother
    rcases List.mem_pair.mp hother with rfl | rfl <;> decide
  · intro other hother
    rcases List.mem_pair.mp hother with rfl | rfl <;> decide

/-- One second with five messages, and the same after a reset that follows one
with nine. -/
theorem extrema_outlive_reset :
    ¬ ExtremaRight [.addSnapshot (busy 5)] .messagesSent ∧
      ¬ ExtremaRight [.addSnapshot (busy 9), .reset, .addSnapshot (busy 5)]
        .messagesSent ∧
      (run [.addSnapshot (busy 9), .reset, .addSnapshot (busy 5)]).rates.max
        .messagesSent = 9 := by
  have hfive : ∀ history, sinceReset history = [busy 5] →
      ¬ ExtremaRight history .messagesSent := by
    intro history hsince hright
    -- the least of the pair is no greater than zero, where it began
    have hnonpos := (spans_added history (Or.inl rfl)).low.2
      (Set.mem_insert 0 _)
    obtain ⟨s, hs, hvalue⟩ := hright.low.1
    rw [hsince] at hs
    obtain rfl := List.mem_singleton.mp hs
    rw [← hvalue] at hnonpos
    exact absurd hnonpos (by decide)
  exact ⟨hfive _ rfl, hfive _ rfl, rfl⟩

end Datafeed.MetricAggregator
