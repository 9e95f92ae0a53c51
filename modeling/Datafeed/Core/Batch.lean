import Mathlib.Data.List.TakeWhile
import Mathlib.Data.Nat.Notation

/-!
# Batches without a transaction of their own

A loop over the items of a batch commits the change of each item before it looks
at the next one.  Where what happens to an item does not depend on the items
before it, the loop is atomic exactly where no item is faulty, or where nothing
is changed before the first item that ends the loop.
-/

namespace Datafeed.Batch

variable {State Item : Type*}

/-- What a loop does with one item: nothing, a change, a change that is refused,
or an exception that leaves the loop. -/
inductive Step (State : Type*)
  | skipped
  | applied (next : State)
  | refused (next : State)
  | thrown

inductive Kind
  | skipped
  | applied
  | refused
  | thrown
  deriving DecidableEq

def Step.kind : Step State → Kind
  | .skipped => .skipped
  | .applied _ => .applied
  | .refused _ => .refused
  | .thrown => .thrown

/-- Where a loop has come to, with the number of its changes and of those that
were refused. -/
structure Outcome (State : Type*) where
  applied : ℕ
  refused : ℕ
  thrown : Bool
  state : State

def run (step : State → Item → Step State) (state : State) :
    List Item → Outcome State
  | [] => ⟨0, 0, false, state⟩
  | item :: items =>
      match step state item with
      | .skipped => run step state items
      | .applied next =>
          let rest := run step next items
          { rest with applied := rest.applied + 1 }
      | .refused next =>
          let rest := run step next items
          { rest with refused := rest.refused + 1 }
      | .thrown => ⟨0, 0, true, state⟩

/-- Nothing is changed. -/
def Outcome.Unchanged (outcome : Outcome State) (state : State) : Prop :=
  outcome.applied = 0 ∧ outcome.state = state

/-- No exception, and no change that is refused. -/
def Outcome.Faultless (outcome : Outcome State) : Prop :=
  outcome.thrown = false ∧ outcome.refused = 0

def Outcome.Atomic (outcome : Outcome State) (state : State) : Prop :=
  outcome.Faultless ∨ outcome.Unchanged state

/-- An item's kind is the same in every state that keeps an invariant, and a
change that is refused leaves the state as it is. -/
structure Classifies (step : State → Item → Step State) (kind : Item → Kind)
    (Inv : State → Prop) : Prop where
  kind_step : ∀ {state} item, Inv state → (step state item).kind = kind item
  inv_applied : ∀ {state item next}, Inv state →
    step state item = .applied next → Inv next
  eq_refused : ∀ {state item next}, Inv state →
    step state item = .refused next → next = state

/-- The kinds of the items that a loop comes to before an exception. -/
def reached (kinds : List Kind) : List Kind :=
  kinds.takeWhile fun kind => kind ≠ .thrown

/-- No item is faulty, or none before an exception is applied. -/
def Harmless (kinds : List Kind) : Prop :=
  (∀ kind ∈ kinds, kind ≠ .thrown ∧ kind ≠ .refused) ∨
    ∀ kind ∈ reached kinds, kind ≠ .applied

instance (kinds : List Kind) : Decidable (Harmless kinds) :=
  inferInstanceAs (Decidable (_ ∨ _))

theorem reached_cons_of_ne {kind : Kind} (hkind : kind ≠ .thrown)
    (kinds : List Kind) : reached (kind :: kinds) = kind :: reached kinds := by
  rw [reached, List.takeWhile_cons_of_pos (by simpa using hkind)]
  rfl

theorem reached_thrown (kinds : List Kind) : reached (.thrown :: kinds) = [] :=
  rfl

section

variable {step : State → Item → Step State} {kind : Item → Kind}
  {Inv : State → Prop}

/-- The outcome is told by the kinds alone, but for the state, which is the
first one where nothing is applied. -/
theorem run_of_classifies (hstep : Classifies step kind Inv) {state : State}
    (hinv : Inv state) (items : List Item) :
    (run step state items).applied =
        (reached (items.map kind)).count .applied ∧
      (run step state items).refused =
        (reached (items.map kind)).count .refused ∧
      (run step state items).thrown = (items.map kind).contains .thrown ∧
      ((run step state items).applied = 0 →
        (run step state items).state = state) := by
  induction items generalizing state with
  | nil => exact ⟨rfl, rfl, rfl, fun _ => rfl⟩
  | cons item items ih =>
      have hkind := hstep.kind_step item hinv
      rw [List.map_cons, run]
      cases hcase : step state item with
      | skipped =>
          rw [hcase, Step.kind] at hkind
          rw [← hkind, reached_cons_of_ne (by decide)]
          simpa using ih hinv
      | applied next =>
          rw [hcase, Step.kind] at hkind
          rw [← hkind, reached_cons_of_ne (by decide)]
          obtain ⟨happlied, hrefused, hthrown, -⟩ :=
            ih (hstep.inv_applied hinv hcase)
          refine ⟨?_, ?_, ?_, fun hzero => by simp at hzero⟩
          · simpa using happlied
          · simpa using hrefused
          · simpa using hthrown
      | refused next =>
          rw [hcase, Step.kind] at hkind
          rw [← hkind, reached_cons_of_ne (by decide),
            hstep.eq_refused hinv hcase]
          obtain ⟨happlied, hrefused, hthrown, hstate⟩ := ih hinv
          refine ⟨?_, ?_, ?_, hstate⟩
          · simpa using happlied
          · simpa using hrefused
          · simpa using hthrown
      | thrown =>
          rw [hcase, Step.kind] at hkind
          rw [← hkind, reached_thrown]
          exact ⟨rfl, rfl, by simp, fun _ => rfl⟩

theorem unchanged_run_iff (hstep : Classifies step kind Inv) {state : State}
    (hinv : Inv state) (items : List Item) :
    (run step state items).Unchanged state ↔
      ∀ other ∈ reached (items.map kind), other ≠ .applied := by
  obtain ⟨happlied, -, -, hstate⟩ := run_of_classifies hstep hinv items
  have hzero : (run step state items).applied = 0 ↔
      ∀ other ∈ reached (items.map kind), other ≠ .applied := by
    rw [happlied, List.count_eq_zero]
    exact ⟨fun hnone other hmem heq => hnone (heq ▸ hmem),
      fun hall hmem => hall _ hmem rfl⟩
  exact ⟨fun hunchanged => hzero.mp hunchanged.1,
    fun hall => ⟨hzero.mpr hall, hstate (hzero.mpr hall)⟩⟩

theorem reached_eq_self {kinds : List Kind} (hnone : .thrown ∉ kinds) :
    reached kinds = kinds := by
  rw [reached, List.takeWhile_eq_self_iff]
  intro kind hkind
  exact decide_eq_true fun heq => hnone (heq ▸ hkind)

theorem faultless_run_iff (hstep : Classifies step kind Inv) {state : State}
    (hinv : Inv state) (items : List Item) :
    (run step state items).Faultless ↔
      ∀ other ∈ items.map kind, other ≠ .thrown ∧ other ≠ .refused := by
  obtain ⟨-, hrefused, hthrown, -⟩ := run_of_classifies hstep hinv items
  rw [Outcome.Faultless, hthrown, hrefused]
  constructor
  · rintro ⟨hnone, hzero⟩ other hother
    have hmem : Kind.thrown ∉ items.map kind := by simpa using hnone
    rw [reached_eq_self hmem, List.count_eq_zero] at hzero
    exact ⟨fun heq => hmem (heq ▸ hother), fun heq => hzero (heq ▸ hother)⟩
  · intro hall
    have hmem : Kind.thrown ∉ items.map kind :=
      fun hthrown => (hall _ hthrown).1 rfl
    rw [reached_eq_self hmem, List.count_eq_zero]
    exact ⟨by simpa using hmem, fun hrefused => (hall _ hrefused).2 rfl⟩

/-- A loop over the items is atomic exactly where their kinds are harmless. -/
theorem atomic_run_iff (hstep : Classifies step kind Inv) {state : State}
    (hinv : Inv state) (items : List Item) :
    (run step state items).Atomic state ↔ Harmless (items.map kind) := by
  rw [Outcome.Atomic, Harmless, faultless_run_iff hstep hinv,
    unchanged_run_iff hstep hinv]

end

end Datafeed.Batch
