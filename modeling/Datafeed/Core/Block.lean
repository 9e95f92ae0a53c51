import Mathlib.Data.List.Basic

/-!
# Statements that return, throw or wait

A block of statements changes a state and is left at its end, by a return or by
an exception, or never, when it waits for something that does not come; an
exception keeps what has been changed so far.  The rules carry two relations
through a block: one for the changes up to a return, one for those of a run that
returns.
-/

namespace Datafeed

inductive Exit
  | next
  | returned
  | thrown
  /-- The block is never left. -/
  | stuck
  deriving DecidableEq

abbrev Block (State : Type*) : Type _ := State → Exit × State

namespace Block

variable {State Value : Type*}

def skip : Block State := fun state => (.next, state)

def perform (update : State → State) : Block State :=
  fun state => (.next, update state)

def raise : Block State := fun state => (.thrown, state)

def hang : Block State := fun state => (.stuck, state)

/-- An update and the return after it. -/
def leave (update : State → State) : Block State :=
  fun state => (.returned, update state)

def seq (first second : Block State) : Block State := fun state =>
  match first state with
  | (.next, middle) => second middle
  | left => left

/-- `catch (...)` with an empty handler. -/
def catchAll (body : Block State) : Block State := fun state =>
  match body state with
  | (.thrown, caught) => (.next, caught)
  | left => left

/-- An expression that throws when it has no value. -/
def withValue (value : Option Value) (body : Value → Block State) :
    Block State :=
  match value with
  | some found => body found
  | none => raise

def all : List (Block State) → Block State
  | [] => skip
  | block :: blocks => seq block (all blocks)

/-! ## What holds at the exits -/

/-- A run of the block that does not return keeps one relation, one that returns
establishes the other. -/
structure Ends (kept established : State → State → Prop) (block : Block State) :
    Prop where
  kept : ∀ state, (block state).1 ≠ .returned → kept state (block state).2
  returned : ∀ state, (block state).1 = .returned →
    established state (block state).2

/-- Relations that carry through statements in sequence. -/
structure Composable (kept established : State → State → Prop) : Prop where
  refl : ∀ state, kept state state
  trans : ∀ {first second third}, kept first second → kept second third →
    kept first third
  comp : ∀ {first second third}, kept first second → established second third →
    established first third

section Ends

variable {kept established : State → State → Prop} {update : State → State}
  {block first second : Block State}

theorem ends_perform (hupdate : ∀ state, kept state (update state)) :
    Ends kept established (perform update) where
  kept state _ := hupdate state
  returned _ hreturned := by cases hreturned

theorem Composable.skip (hcomposable : Composable kept established) :
    Ends kept established skip := ends_perform hcomposable.refl

theorem Composable.raise (hcomposable : Composable kept established) :
    Ends kept established raise where
  kept state _ := hcomposable.refl state
  returned _ hreturned := by cases hreturned

theorem Composable.hang (hcomposable : Composable kept established) :
    Ends kept established hang where
  kept state _ := hcomposable.refl state
  returned _ hreturned := by cases hreturned

theorem ends_leave (hupdate : ∀ state, established state (update state)) :
    Ends kept established (leave update) where
  kept _ hreturned := absurd rfl hreturned
  returned state _ := hupdate state

theorem seq_of_next {state middle : State} (hnext : first state = (.next, middle)) :
    seq first second state = second middle := by
  rw [seq, hnext]

theorem seq_of_ne_next {state : State} (hexit : (first state).1 ≠ .next) :
    seq first second state = first state := by
  rw [seq]
  split
  · next hnext => exact absurd (congrArg Prod.fst hnext) hexit
  · rfl

theorem Composable.seq (hcomposable : Composable kept established)
    (hfirst : Ends kept established first)
    (hsecond : Ends kept established second) :
    Ends kept established (seq first second) := by
  have hsplit : ∀ state, (∃ middle, first state = (.next, middle)) ∨
      (first state).1 ≠ .next := by
    intro state
    by_cases hexit : (first state).1 = .next
    · exact Or.inl ⟨(first state).2, Prod.ext hexit rfl⟩
    · exact Or.inr hexit
  constructor
  · intro state hexit
    rcases hsplit state with ⟨middle, hnext⟩ | hleft
    · have hmiddle := hfirst.kept state (by simp [hnext])
      rw [hnext] at hmiddle
      rw [seq_of_next hnext] at hexit ⊢
      exact hcomposable.trans hmiddle (hsecond.kept middle hexit)
    · rw [seq_of_ne_next hleft] at hexit ⊢
      exact hfirst.kept state hexit
  · intro state hexit
    rcases hsplit state with ⟨middle, hnext⟩ | hleft
    · have hmiddle := hfirst.kept state (by simp [hnext])
      rw [hnext] at hmiddle
      rw [seq_of_next hnext] at hexit ⊢
      exact hcomposable.comp hmiddle (hsecond.returned middle hexit)
    · rw [seq_of_ne_next hleft] at hexit ⊢
      exact hfirst.returned state hexit

theorem catchAll_snd (state : State) :
    (catchAll block state).2 = (block state).2 := by
  rw [catchAll]
  split
  · next caught hthrown => rw [hthrown]
  · rfl

theorem catchAll_returned_iff (state : State) :
    (catchAll block state).1 = .returned ↔ (block state).1 = .returned := by
  rw [catchAll]
  split
  · next caught hthrown => simp [hthrown]
  · exact Iff.rfl

/-- Nothing is thrown past a handler of everything. -/
theorem catchAll_ne_thrown (state : State) :
    (catchAll block state).1 ≠ .thrown := by
  rw [catchAll]
  split
  · exact nofun
  · next hnot => exact fun hthrown => hnot _ (Prod.ext hthrown rfl)

theorem catchAll_stuck_iff (state : State) :
    (catchAll block state).1 = .stuck ↔ (block state).1 = .stuck := by
  rw [catchAll]
  split
  · next caught hthrown => simp [hthrown]
  · exact Iff.rfl

/-- A handler of everything in front of a block that returns. -/
theorem seq_catchAll_returned {state : State}
    (hfirst : (first state).1 ≠ .stuck)
    (hsecond : ∀ state, (second state).1 = .returned) :
    (seq (catchAll first) second state).1 = .returned := by
  have hgoing : (catchAll first state).1 ≠ .stuck :=
    mt (catchAll_stuck_iff state).mp hfirst
  have hcaught : (catchAll first state).1 ≠ .thrown :=
    catchAll_ne_thrown state
  cases hexit : (catchAll first state).1 with
  | next =>
      rw [seq_of_next (Prod.ext hexit rfl)]
      exact hsecond _
  | returned =>
      rw [seq_of_ne_next (by simp [hexit])]
      exact hexit
  | thrown => exact absurd hexit hcaught
  | stuck => exact absurd hexit hgoing

/-- A handler does not help a block that is never left. -/
theorem seq_catchAll_stuck {state : State} (hfirst : (first state).1 = .stuck) :
    (seq (catchAll first) second state).1 = .stuck := by
  have hstuck := (catchAll_stuck_iff state).mpr hfirst
  rw [seq_of_ne_next (by simp [hstuck])]
  exact hstuck

theorem Ends.catchAll (hblock : Ends kept established block) :
    Ends kept established (catchAll block) where
  kept state hexit := by
    rw [catchAll_snd]
    exact hblock.kept state (mt (catchAll_returned_iff state).mpr hexit)
  returned state hexit := by
    rw [catchAll_snd]
    exact hblock.returned state ((catchAll_returned_iff state).mp hexit)

theorem Composable.withValue (hcomposable : Composable kept established)
    {value : Option Value} {body : Value → Block State}
    (hbody : ∀ found, Ends kept established (body found)) :
    Ends kept established (withValue value body) := by
  cases value with
  | none => exact hcomposable.raise
  | some found => exact hbody found

theorem Composable.all (hcomposable : Composable kept established)
    {blocks : List (Block State)}
    (hblocks : ∀ block ∈ blocks, Ends kept established block) :
    Ends kept established (all blocks) := by
  induction blocks with
  | nil => exact hcomposable.skip
  | cons block blocks ih =>
      exact hcomposable.seq (hblocks block List.mem_cons_self)
        (ih fun other hother => hblocks other (List.mem_cons_of_mem _ hother))

/-- Every run of the block reaches its end. -/
def Completes (block : Block State) : Prop :=
  ∀ state, (block state).1 = .next

theorem completes_perform (update : State → State) :
    Completes (perform update) := fun _ => rfl

theorem completes_skip : Completes (skip : Block State) := fun _ => rfl

theorem Completes.seq_apply (hfirst : Completes first) (state : State) :
    seq first second state = second (first state).2 :=
  seq_of_next (Prod.ext (hfirst state) rfl)

theorem Completes.seq (hfirst : Completes first) (hsecond : Completes second) :
    Completes (seq first second) := by
  intro state
  rw [hfirst.seq_apply]
  exact hsecond _

/-- Every run of the block is left in some way. -/
def GoesOn (block : Block State) : Prop :=
  ∀ state, (block state).1 ≠ .stuck

theorem Completes.goesOn (hblock : Completes block) : GoesOn block := by
  intro state
  rw [hblock state]
  exact nofun

theorem goesOn_raise : GoesOn (raise : Block State) := fun _ => nofun

theorem goesOn_leave (update : State → State) : GoesOn (leave update) :=
  fun _ => nofun

theorem GoesOn.seq (hfirst : GoesOn first) (hsecond : GoesOn second) :
    GoesOn (seq first second) := by
  intro state
  by_cases hexit : (first state).1 = .next
  · rw [seq_of_next (Prod.ext hexit rfl)]
    exact hsecond _
  · rw [seq_of_ne_next hexit]
    exact hfirst state

theorem goesOn_withValue {value : Option Value} {body : Value → Block State}
    (hbody : ∀ found, value = some found → GoesOn (body found)) :
    GoesOn (withValue value body) := by
  cases value with
  | none => exact goesOn_raise
  | some found => exact hbody found rfl

theorem goesOn_all {blocks : List (Block State)}
    (hblocks : ∀ block ∈ blocks, GoesOn block) : GoesOn (all blocks) := by
  induction blocks with
  | nil => exact (completes_skip).goesOn
  | cons block blocks ih =>
      exact (hblocks block List.mem_cons_self).seq
        (ih fun other hother => hblocks other (List.mem_cons_of_mem _ hother))

end Ends

end Block

end Datafeed
