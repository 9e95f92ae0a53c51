import Mathlib.Data.List.Basic

/-!
# Calls that hold a non-recursive mutex

A call of a component whose data is guarded by one mutex is a program over the
data and the state of the mutex as that call sees it.  The mutex is not
recursive: an acquisition while the same call already holds it never returns,
and this outcome is kept explicitly instead of being excluded by typing.
Sections entered through a scope guard are `withLock`.
-/

namespace Datafeed

/-- The guarded data and whether the running call holds the mutex. -/
structure Guarded (Data : Type) where
  data : Data
  held : Bool

/-- A call returns a value, or it blocks on a mutex that it holds itself. -/
inductive CallOutcome (Data Value : Type)
  | returned (value : Value) (state : Guarded Data)
  | selfDeadlock

/-- A program run by one call. -/
def LockProgram (Data Value : Type) :=
  Guarded Data → CallOutcome Data Value

namespace LockProgram

variable {Data Value Result : Type}

def pure (value : Value) : LockProgram Data Value :=
  fun state => .returned value state

def bind (first : LockProgram Data Value)
    (next : Value → LockProgram Data Result) : LockProgram Data Result :=
  fun state =>
    match first state with
    | .returned value after => next value after
    | .selfDeadlock => .selfDeadlock

instance : Monad (LockProgram Data) where
  pure := LockProgram.pure
  bind := LockProgram.bind

/-- Reads the guarded data. -/
def get : LockProgram Data Data :=
  fun state => .returned state.data state

/-- Replaces the guarded data. -/
def set (data : Data) : LockProgram Data Unit :=
  fun state => .returned () { state with data := data }

/-- Updates the guarded data. -/
def modify (update : Data → Data) : LockProgram Data Unit := do
  set (update (← get))

def lock : LockProgram Data Unit :=
  fun state =>
    if state.held then .selfDeadlock
    else .returned () { state with held := true }

def unlock : LockProgram Data Unit :=
  fun state => .returned () { state with held := false }

/-- A scope guarded by the mutex: acquired before the body, released after it. -/
def withLock (body : LockProgram Data Value) : LockProgram Data Value := do
  lock
  let value ← body
  unlock
  return value

/-- The call returns with the mutex released, so it never waited for itself. -/
def Completes (program : LockProgram Data Value) (state : Guarded Data) : Prop :=
  ∃ value after, program state = .returned value after ∧ after.held = false

@[simp]
theorem pure_apply (value : Value) (state : Guarded Data) :
    (Pure.pure value : LockProgram Data Value) state =
      .returned value state := rfl

@[simp]
theorem get_bind_apply (next : Data → LockProgram Data Result)
    (state : Guarded Data) :
    (get >>= next) state = next state.data state := rfl

@[simp]
theorem set_apply (data : Data) (state : Guarded Data) :
    set data state = .returned () { state with data := data } := rfl

@[simp]
theorem set_bind_apply (data : Data) (next : LockProgram Data Result)
    (state : Guarded Data) :
    (set data >>= fun _ => next) state = next { state with data := data } := rfl

@[simp]
theorem modify_apply (update : Data → Data) (state : Guarded Data) :
    modify update state =
      .returned () { state with data := update state.data } := rfl

theorem bind_apply (first : LockProgram Data Value)
    (next : Value → LockProgram Data Result) (state : Guarded Data) :
    (first >>= next) state =
      match first state with
      | .returned value after => next value after
      | .selfDeadlock => .selfDeadlock := rfl

/-- A free mutex is taken, the body runs under it, and it is released again
when the body returns. -/
theorem withLock_free (body : LockProgram Data Value) (data : Data) :
    withLock body ⟨data, false⟩ =
      match body ⟨data, true⟩ with
      | .returned value after => .returned value ⟨after.data, false⟩
      | .selfDeadlock => .selfDeadlock := by
  change (body >>= fun value => unlock >>= fun _ => return value)
    ⟨data, true⟩ = _
  rw [bind_apply]
  cases body ⟨data, true⟩ with
  | returned value after => rfl
  | selfDeadlock => rfl

/-- A mutex that the call holds already is not acquired again. -/
theorem withLock_held (body : LockProgram Data Value) (data : Data) :
    withLock body ⟨data, true⟩ = .selfDeadlock := rfl

theorem completes_of_returned {program : LockProgram Data Value}
    {state after : Guarded Data} {value : Value}
    (hrun : program state = .returned value after)
    (hreleased : after.held = false) : program.Completes state :=
  ⟨value, after, hrun, hreleased⟩

theorem not_completes_of_selfDeadlock {program : LockProgram Data Value}
    {state : Guarded Data} (hrun : program state = .selfDeadlock) :
    ¬ program.Completes state := by
  rintro ⟨value, after, hreturned, -⟩
  rw [hrun] at hreturned
  cases hreturned

end LockProgram

end Datafeed
