import Datafeed.Core.Machine
import Mathlib.Data.Fintype.Defs
import Mathlib.Logic.Function.Basic

/-!
# A background thread behind a flag

A class owns an atomic flag and a thread.  `start` exchanges the flag for `true`
and, if it was `false`, creates the thread; `stop` exchanges it for `false` and,
if it was `true`, joins the thread.  The thread executes a loop that reads the
flag.  Any number of callers may be inside `start` and `stop` at once.  Assigning
to a `std::thread` that is still joinable calls `std::terminate`, after which
nothing happens any more.

The library is about the protocol of the flag, the handle and the loop; what the
loop works on is a parameter.
-/

namespace Datafeed.Worker

/-- What the thread and its surroundings do to the data.  A step of the thread
is given the flag; it leads to another point of the loop, or out of it. -/
structure Program (Point Input Operation Data : Type*) where
  entry : Point
  /-- What `start` does before it creates the thread. -/
  prepare : Input → Data → Option Data
  step : Bool → Point → Input → Data → Option (Option Point × Data)
  /-- What other threads do to the data. -/
  operate : Operation → Data → Option Data

/-- Where a caller stands. -/
inductive Call
  | idle
  /-- In `start`, before the exchange. -/
  | starting
  /-- In `start`, after an exchange that returned `false`. -/
  | creating
  /-- In `stop`, before the exchange. -/
  | stopping
  /-- In `stop`, after an exchange that returned `true`. -/
  | joining
  deriving DecidableEq

/-- A thread that has left its loop is `none`; `handle` is the thread that the
member refers to while it is joinable. -/
structure State (Caller Point Data : Type*) where
  data : Data
  running : Bool := false
  handle : Option ℕ := none
  threads : List (Option Point) := []
  calls : Caller → Call := fun _ => .idle
  terminated : Bool := false

inductive Action (Caller Input Operation : Type*)
  | start (caller : Caller)
  | stop (caller : Caller)
  /-- The next step of the call that the caller is in. -/
  | advance (caller : Caller) (input : Input)
  /-- The next step of a thread. -/
  | work (thread : ℕ) (input : Input)
  | operate (operation : Operation)

variable {Caller Point Input Operation Data : Type*} [DecidableEq Caller]

namespace State

def setCall (caller : Caller) (call : Call) (state : State Caller Point Data) :
    State Caller Point Data :=
  { state with calls := Function.update state.calls caller call }

/-- `worker_ = std::thread(run)`. -/
def create (entry : Point) (state : State Caller Point Data) :
    State Caller Point Data :=
  if state.handle.isSome then { state with terminated := true }
  else
    { state with
      threads := state.threads ++ [some entry]
      handle := some state.threads.length }

/-- `if (worker_.joinable()) worker_.join()`, which waits for the thread. -/
def join (state : State Caller Point Data) :
    Option (State Caller Point Data) :=
  match state.handle with
  | none => some state
  | some thread =>
      match state.threads[thread]? with
      | some none => some { state with handle := none }
      | _ => none

end State

/-- One step of a call of `start` or `stop`. -/
def advance (program : Program Point Input Operation Data) (caller : Caller)
    (input : Input) (state : State Caller Point Data) :
    Option (State Caller Point Data) :=
  match state.calls caller with
  | .idle => none
  | .starting =>
      if state.running then some (state.setCall caller .idle)
      else some ({ state with running := true }.setCall caller .creating)
  | .creating =>
      (program.prepare input state.data).map fun data =>
        ({ state with data := data }.create program.entry).setCall caller .idle
  | .stopping =>
      if state.running then
        some ({ state with running := false }.setCall caller .joining)
      else some (state.setCall caller .idle)
  | .joining => state.join.map fun joined => joined.setCall caller .idle

/-- One step of a thread that has not left its loop. -/
def work (program : Program Point Input Operation Data) (thread : ℕ)
    (input : Input) (state : State Caller Point Data) :
    Option (State Caller Point Data) :=
  match state.threads[thread]? with
  | some (some point) =>
      (program.step state.running point input state.data).map fun result =>
        { state with
          threads := state.threads.set thread result.1
          data := result.2 }
  | _ => none

def step (program : Program Point Input Operation Data)
    (state : State Caller Point Data) :
    Action Caller Input Operation → Option (State Caller Point Data)
  | .start caller =>
      if state.terminated = false ∧ state.calls caller = .idle then
        some (state.setCall caller .starting)
      else none
  | .stop caller =>
      if state.terminated = false ∧ state.calls caller = .idle then
        some (state.setCall caller .stopping)
      else none
  | .advance caller input =>
      if state.terminated then none else advance program caller input state
  | .work thread input =>
      if state.terminated then none else work program thread input state
  | .operate operation =>
      if state.terminated then none
      else
        (program.operate operation state.data).map fun data =>
          { state with data := data }

def machine (program : Program Point Input Operation Data) (data : Data) :
    Machine (State Caller Point Data) (Action Caller Input Operation) where
  initial := { data := data }
  step := step program

/-! ## At most one thread -/

/-- A thread that has not left its loop is the one that can be joined. -/
structure Held (state : State Caller Point Data) : Prop where
  live : ∀ thread point, state.threads[thread]? = some (some point) →
    state.handle = some thread
  valid : ∀ thread, state.handle = some thread → thread < state.threads.length

omit [DecidableEq Caller] in
theorem held_initial (data : Data) :
    Held ({ data := data } : State Caller Point Data) where
  live thread point hthread := by simp at hthread
  valid thread hthread := by simp at hthread

omit [DecidableEq Caller] in
/-- The handle and the threads are all it depends on. -/
theorem Held.congr {state next : State Caller Point Data} (hheld : Held state)
    (hhandle : next.handle = state.handle)
    (hthreads : next.threads = state.threads) : Held next where
  live thread point hthread := by
    rw [hthreads] at hthread
    rw [hhandle, hheld.live thread point hthread]
  valid thread hthread := by
    rw [hhandle] at hthread
    rw [hthreads]
    exact hheld.valid thread hthread

omit [DecidableEq Caller] in
theorem Held.create {state : State Caller Point Data} (hheld : Held state)
    (entry : Point) : Held (state.create entry) := by
  rw [State.create]
  split
  · exact hheld.congr rfl rfl
  · next hnone =>
      have hhandle : state.handle = none := by simpa using hnone
      refine ⟨fun thread point hthread => ?_, fun thread hthread => ?_⟩
      · have hnew : ¬ thread < state.threads.length := by
          intro hold
          rw [List.getElem?_append_left hold] at hthread
          have hlive := hheld.live thread point hthread
          rw [hhandle] at hlive
          cases hlive
        have hbound := (List.getElem?_eq_some_iff.mp hthread).1
        simp only [List.length_append, List.length_singleton] at hbound
        have hlast : thread = state.threads.length := by omega
        rw [hlast]
      · simp only [Option.some.injEq] at hthread
        simp [← hthread]

omit [DecidableEq Caller] in
theorem Held.join {state next : State Caller Point Data} (hheld : Held state)
    (hjoin : state.join = some next) : Held next := by
  rw [State.join] at hjoin
  split at hjoin
  · obtain rfl := Option.some.inj hjoin
    exact hheld
  · next thread hhandle =>
      split at hjoin
      · next hexited =>
          obtain rfl := Option.some.inj hjoin
          refine ⟨fun other point hother => ?_, fun other hother => ?_⟩
          · have hlive := hheld.live other point hother
            rw [hhandle, Option.some.injEq] at hlive
            rw [← hlive, hexited] at hother
            cases hother
          · cases hother
      · cases hjoin

omit [DecidableEq Caller] in
theorem Held.set {state : State Caller Point Data} (hheld : Held state)
    {thread : ℕ} {point : Point}
    (hthread : state.threads[thread]? = some (some point))
    (next : Option Point) (data : Data) :
    Held { state with
      threads := state.threads.set thread next
      data := data } where
  live other point hother := by
    by_cases hsame : thread = other
    · subst hsame
      exact hheld.live thread _ hthread
    · rw [List.getElem?_set_ne hsame] at hother
      exact hheld.live other point hother
  valid other hother := by
    rw [List.length_set]
    exact hheld.valid other hother

/-- What one step of a call can do. -/
inductive Advances (program : Program Point Input Operation Data)
    (caller : Caller) (input : Input) (state : State Caller Point Data) :
    State Caller Point Data → Prop
  /-- `start` finds the flag set. -/
  | refused (hcall : state.calls caller = .starting)
      (hrunning : state.running = true) :
      Advances program caller input state (state.setCall caller .idle)
  | admitted (hcall : state.calls caller = .starting)
      (hrunning : state.running = false) :
      Advances program caller input state
        ({ state with running := true }.setCall caller .creating)
  | created (hcall : state.calls caller = .creating) (data : Data)
      (hprepare : program.prepare input state.data = some data) :
      Advances program caller input state
        (({ state with data := data }.create program.entry).setCall caller
          .idle)
  /-- `stop` finds the flag clear. -/
  | spared (hcall : state.calls caller = .stopping)
      (hrunning : state.running = false) :
      Advances program caller input state (state.setCall caller .idle)
  | stopped (hcall : state.calls caller = .stopping)
      (hrunning : state.running = true) :
      Advances program caller input state
        ({ state with running := false }.setCall caller .joining)
  | joined (hcall : state.calls caller = .joining)
      (next : State Caller Point Data) (hjoin : state.join = some next) :
      Advances program caller input state (next.setCall caller .idle)

theorem advances_of_advance {program : Program Point Input Operation Data}
    {caller : Caller} {input : Input} {state next : State Caller Point Data}
    (hadvance : advance program caller input state = some next) :
    Advances program caller input state next := by
  rw [advance] at hadvance
  split at hadvance
  · cases hadvance
  · next hcall =>
      split at hadvance
      · next hrunning =>
          obtain rfl := Option.some.inj hadvance
          exact .refused hcall hrunning
      · next hrunning =>
          obtain rfl := Option.some.inj hadvance
          exact .admitted hcall (by simpa using hrunning)
  · next hcall =>
      obtain ⟨data, hprepare, rfl⟩ := Option.map_eq_some_iff.mp hadvance
      exact .created hcall data hprepare
  · next hcall =>
      split at hadvance
      · next hrunning =>
          obtain rfl := Option.some.inj hadvance
          exact .stopped hcall hrunning
      · next hrunning =>
          obtain rfl := Option.some.inj hadvance
          exact .spared hcall (by simpa using hrunning)
  · next hcall =>
      obtain ⟨joined, hjoin, rfl⟩ := Option.map_eq_some_iff.mp hadvance
      exact .joined hcall joined hjoin

omit [DecidableEq Caller] in
/-- What one step of a thread can do. -/
theorem exists_of_work {program : Program Point Input Operation Data}
    {thread : ℕ} {input : Input} {state next : State Caller Point Data}
    (hwork : work program thread input state = some next) :
    ∃ point result, state.threads[thread]? = some (some point) ∧
      program.step state.running point input state.data = some result ∧
        next = { state with
          threads := state.threads.set thread result.1
          data := result.2 } := by
  rw [work] at hwork
  split at hwork
  · next point hthread =>
      obtain ⟨result, hresult, rfl⟩ := Option.map_eq_some_iff.mp hwork
      exact ⟨point, result, hthread, hresult, rfl⟩
  · cases hwork

theorem held_step {program : Program Point Input Operation Data}
    {state next : State Caller Point Data}
    {action : Action Caller Input Operation} (hheld : Held state)
    (hstep : step program state action = some next) : Held next := by
  cases action with
  | start caller =>
      simp only [step, Option.ite_none_right_eq_some] at hstep
      obtain rfl := Option.some.inj hstep.2
      exact hheld.congr rfl rfl
  | stop caller =>
      simp only [step, Option.ite_none_right_eq_some] at hstep
      obtain rfl := Option.some.inj hstep.2
      exact hheld.congr rfl rfl
  | advance caller input =>
      simp only [step, Option.ite_none_left_eq_some] at hstep
      cases advances_of_advance hstep.2 with
      | refused hcall hrunning => exact hheld.congr rfl rfl
      | admitted hcall hrunning => exact hheld.congr rfl rfl
      | created hcall data hprepare =>
          have hprepared : Held { state with data := data } :=
            hheld.congr rfl rfl
          exact (hprepared.create program.entry).congr rfl rfl
      | spared hcall hrunning => exact hheld.congr rfl rfl
      | stopped hcall hrunning => exact hheld.congr rfl rfl
      | joined hcall joined hjoin => exact (hheld.join hjoin).congr rfl rfl
  | work thread input =>
      simp only [step, Option.ite_none_left_eq_some] at hstep
      obtain ⟨point, result, hthread, -, rfl⟩ := exists_of_work hstep.2
      exact hheld.set hthread result.1 result.2
  | operate operation =>
      simp only [step, Option.ite_none_left_eq_some] at hstep
      obtain ⟨data, -, rfl⟩ := Option.map_eq_some_iff.mp hstep.2
      exact hheld.congr rfl rfl

/-! ## Calls that do not overlap -/

/-- A call begins only while no caller is inside another one. -/
def Serialized (state : State Caller Point Data) :
    Action Caller Input Operation → Prop
  | .start _ | .stop _ => ∀ caller, state.calls caller = .idle
  | _ => True

omit [DecidableEq Caller] in
instance [Fintype Caller] (state : State Caller Point Data)
    (action : Action Caller Input Operation) :
    Decidable (Serialized state action) :=
  match action with
  | .start _ | .stop _ =>
      inferInstanceAs (Decidable (∀ caller, state.calls caller = .idle))
  | .advance _ _ | .work _ _ | .operate _ => inferInstanceAs (Decidable True)

/-- The flag says whether there is a thread, except while a call is between its
exchange and the thread it creates or joins. -/
structure Orderly (state : State Caller Point Data) : Prop where
  held : Held state
  alive : state.terminated = false
  single : ∀ first second, state.calls first ≠ .idle →
    state.calls second ≠ .idle → first = second
  creating : ∀ caller, state.calls caller = .creating →
    state.running = true ∧ state.handle = none
  joining : ∀ caller, state.calls caller = .joining →
    state.running = false ∧ state.handle.isSome
  settled : (∀ caller, state.calls caller ≠ .creating ∧
    state.calls caller ≠ .joining) → state.running = state.handle.isSome

omit [DecidableEq Caller] in
theorem orderly_initial (data : Data) :
    Orderly ({ data := data } : State Caller Point Data) where
  held := held_initial data
  alive := rfl
  single _ _ hfirst := absurd rfl hfirst
  creating _ hcall := by cases hcall
  joining _ hcall := by cases hcall
  settled _ := rfl

@[simp]
theorem setCall_self (state : State Caller Point Data) (caller : Caller)
    (call : Call) : (state.setCall caller call).calls caller = call :=
  Function.update_self ..

theorem setCall_of_ne {caller other : Caller} (hother : other ≠ caller)
    (state : State Caller Point Data) (call : Call) :
    (state.setCall caller call).calls other = state.calls other :=
  Function.update_of_ne hother ..

omit [DecidableEq Caller] in
theorem Orderly.idle_of_ne {state : State Caller Point Data}
    (horderly : Orderly state) {caller other : Caller}
    (hcall : state.calls caller ≠ .idle) (hother : other ≠ caller) :
    state.calls other = .idle := by
  by_contra hbusy
  exact hother (horderly.single other caller hbusy hcall)

/-- One caller goes on with its call while the others are idle. -/
theorem orderly_setCall {state : State Caller Point Data} (hheld : Held state)
    (halive : state.terminated = false) {caller : Caller}
    (hidle : ∀ other, other ≠ caller → state.calls other = .idle) (call : Call)
    (hcreating : call = .creating →
      state.running = true ∧ state.handle = none)
    (hjoining : call = .joining →
      state.running = false ∧ state.handle.isSome)
    (hsettled : call ≠ .creating → call ≠ .joining →
      state.running = state.handle.isSome) :
    Orderly (state.setCall caller call) := by
  have hothers : ∀ other, other ≠ caller →
      (state.setCall caller call).calls other = .idle := by
    intro other hother
    rw [setCall_of_ne hother, hidle other hother]
  have hcaller : ∀ other, (state.setCall caller call).calls other ≠ .idle →
      other = caller := by
    intro other hbusy
    by_contra hother
    exact hbusy (hothers other hother)
  refine ⟨hheld.congr rfl rfl, halive, ?_, ?_, ?_, ?_⟩
  · intro first second hfirst hsecond
    rw [hcaller first hfirst, hcaller second hsecond]
  · intro other hother
    have hsame := hcaller other (by rw [hother]; decide)
    rw [hsame, setCall_self] at hother
    exact hcreating hother
  · intro other hother
    have hsame := hcaller other (by rw [hother]; decide)
    rw [hsame, setCall_self] at hother
    exact hjoining hother
  · intro hnone
    have hself := hnone caller
    rw [setCall_self] at hself
    exact hsettled hself.1 hself.2

omit [DecidableEq Caller] in
/-- A caller inside a call that has not passed its exchange finds the flag
saying whether there is a thread. -/
theorem Orderly.settled_of_call {state : State Caller Point Data}
    (horderly : Orderly state) {caller : Caller}
    (hbusy : state.calls caller ≠ .idle)
    (hcreating : state.calls caller ≠ .creating)
    (hjoining : state.calls caller ≠ .joining) :
    state.running = state.handle.isSome := by
  classical
  apply horderly.settled
  intro other
  by_cases hsame : other = caller
  · rw [hsame]
    exact ⟨hcreating, hjoining⟩
  · rw [horderly.idle_of_ne hbusy hsame]
    simp

theorem Orderly.advance {program : Program Point Input Operation Data}
    {caller : Caller} {input : Input} {state next : State Caller Point Data}
    (horderly : Orderly state)
    (hadvance : advance program caller input state = some next) :
    Orderly next := by
  have halive := horderly.alive
  cases advances_of_advance hadvance with
  | refused hcall hrunning =>
      have hbusy : state.calls caller ≠ .idle := by simp [hcall]
      have hsettled := horderly.settled_of_call hbusy (by simp [hcall])
        (by simp [hcall])
      exact orderly_setCall horderly.held halive
        (fun other => horderly.idle_of_ne hbusy) .idle (by simp) (by simp)
        fun _ _ => hsettled
  | admitted hcall hrunning =>
      have hbusy : state.calls caller ≠ .idle := by simp [hcall]
      have hsettled := horderly.settled_of_call hbusy (by simp [hcall])
        (by simp [hcall])
      have hnone : state.handle = none := by
        rw [hrunning] at hsettled
        simpa using hsettled.symm
      have hheld : Held { state with running := true } :=
        horderly.held.congr rfl rfl
      exact orderly_setCall hheld halive
        (fun other => horderly.idle_of_ne hbusy) .creating
        (fun _ => ⟨rfl, hnone⟩) (by simp) (by simp)
  | created hcall data hprepare =>
      have hbusy : state.calls caller ≠ .idle := by simp [hcall]
      obtain ⟨hrunning, hnone⟩ := horderly.creating caller hcall
      have hprepared : Held { state with data := data } :=
        horderly.held.congr rfl rfl
      have hfree : ¬ state.handle.isSome = true := by simp [hnone]
      have hcreated := hprepared.create program.entry
      rw [State.create, if_neg hfree] at hcreated ⊢
      exact orderly_setCall hcreated halive
        (fun other => horderly.idle_of_ne hbusy) .idle (by simp) (by simp)
        fun _ _ => hrunning
  | spared hcall hrunning =>
      have hbusy : state.calls caller ≠ .idle := by simp [hcall]
      have hsettled := horderly.settled_of_call hbusy (by simp [hcall])
        (by simp [hcall])
      exact orderly_setCall horderly.held halive
        (fun other => horderly.idle_of_ne hbusy) .idle (by simp) (by simp)
        fun _ _ => hsettled
  | stopped hcall hrunning =>
      have hbusy : state.calls caller ≠ .idle := by simp [hcall]
      have hsettled := horderly.settled_of_call hbusy (by simp [hcall])
        (by simp [hcall])
      have hsome : state.handle.isSome = true := by
        rw [← hsettled, hrunning]
      have hheld : Held { state with running := false } :=
        horderly.held.congr rfl rfl
      exact orderly_setCall hheld halive
        (fun other => horderly.idle_of_ne hbusy) .joining (by simp)
        (fun _ => ⟨rfl, hsome⟩) (by simp)
  | joined hcall joined hjoin =>
      have hbusy : state.calls caller ≠ .idle := by simp [hcall]
      obtain ⟨hrunning, hsome⟩ := horderly.joining caller hcall
      have hheld := horderly.held.join hjoin
      obtain ⟨thread, hhandle⟩ := Option.isSome_iff_exists.mp hsome
      simp only [State.join, hhandle] at hjoin
      split at hjoin
      · obtain rfl := Option.some.inj hjoin
        exact orderly_setCall hheld halive
          (fun other => horderly.idle_of_ne hbusy) .idle (by simp) (by simp)
          fun _ _ => hrunning
      · cases hjoin

omit [DecidableEq Caller] in
/-- The data and the threads may change under an orderly protocol. -/
theorem Orderly.congr {state next : State Caller Point Data}
    (horderly : Orderly state) (hheld : Held next)
    (hrunning : next.running = state.running)
    (hhandle : next.handle = state.handle) (hcalls : next.calls = state.calls)
    (halive : next.terminated = state.terminated) : Orderly next where
  held := hheld
  alive := halive.trans horderly.alive
  single := by
    rw [hcalls]
    exact horderly.single
  creating := by
    rw [hcalls, hrunning, hhandle]
    exact horderly.creating
  joining := by
    rw [hcalls, hrunning, hhandle]
    exact horderly.joining
  settled := by
    rw [hcalls, hrunning, hhandle]
    exact horderly.settled

theorem Orderly.begin {state : State Caller Point Data}
    (horderly : Orderly state) (hidle : ∀ caller, state.calls caller = .idle)
    (caller : Caller) {call : Call} (hcreating : call ≠ .creating)
    (hjoining : call ≠ .joining) : Orderly (state.setCall caller call) := by
  have hsettled : state.running = state.handle.isSome := by
    apply horderly.settled
    intro other
    simp [hidle other]
  exact orderly_setCall horderly.held horderly.alive
    (fun other _ => hidle other) call (absurd · hcreating) (absurd · hjoining)
    fun _ _ => hsettled

theorem orderly_step {program : Program Point Input Operation Data}
    {state next : State Caller Point Data}
    {action : Action Caller Input Operation} (horderly : Orderly state)
    (hserialized : Serialized state action)
    (hstep : step program state action = some next) : Orderly next := by
  have hheld := held_step horderly.held hstep
  cases action with
  | start caller =>
      simp only [step, Option.ite_none_right_eq_some] at hstep
      obtain rfl := Option.some.inj hstep.2
      exact horderly.begin hserialized caller (by simp) (by simp)
  | stop caller =>
      simp only [step, Option.ite_none_right_eq_some] at hstep
      obtain rfl := Option.some.inj hstep.2
      exact horderly.begin hserialized caller (by simp) (by simp)
  | advance caller input =>
      simp only [step, Option.ite_none_left_eq_some] at hstep
      exact horderly.advance hstep.2
  | work thread input =>
      simp only [step, Option.ite_none_left_eq_some] at hstep
      obtain ⟨point, result, -, -, rfl⟩ := exists_of_work hstep.2
      exact horderly.congr hheld rfl rfl rfl rfl
  | operate operation =>
      simp only [step, Option.ite_none_left_eq_some] at hstep
      obtain ⟨data, -, rfl⟩ := Option.map_eq_some_iff.mp hstep.2
      exact horderly.congr hheld rfl rfl rfl rfl

/-- Calls that do not overlap keep the protocol orderly. -/
theorem orderly_of_along {program : Program Point Input Operation Data}
    {data : Data} {actions : List (Action Caller Input Operation)}
    {final : State Caller Point Data}
    (halong : (machine program data).Along Serialized
      (machine program data).initial actions)
    (hrun : (machine program data).run (machine program data).initial actions =
      some final) : Orderly final := by
  have hpreserve : ∀ (state : State Caller Point Data)
      (action : Action Caller Input Operation) next, Orderly state →
      Serialized state action →
      (machine program data).step state action = some next → Orderly next :=
    fun _ _ _ horderly hserialized hstep =>
      orderly_step horderly hserialized hstep
  exact Machine.invariant_along hpreserve (orderly_initial data) halong hrun

/-! ## What holds of the loop and its data -/

/-- Where the thread stands that can be joined; `none` if there is none or it
has left its loop. -/
def State.current (state : State Caller Point Data) : Option Point :=
  state.handle.bind fun thread => state.threads[thread]?.join

omit [DecidableEq Caller] in
theorem Held.current_eq {state : State Caller Point Data} (hheld : Held state)
    {thread : ℕ} {point : Point}
    (hthread : state.threads[thread]? = some (some point)) :
    state.current = some point := by
  simp [State.current, hheld.live thread point hthread, hthread]

omit [DecidableEq Caller] in
theorem Held.current_set {state : State Caller Point Data} (hheld : Held state)
    {thread : ℕ} {point : Point}
    (hthread : state.threads[thread]? = some (some point))
    (next : Option Point) (data : Data) :
    ({ state with
        threads := state.threads.set thread next
        data := data } : State Caller Point Data).current = next := by
  have hbound := (List.getElem?_eq_some_iff.mp hthread).1
  simp [State.current, hheld.live thread point hthread, hbound]

omit [DecidableEq Caller] in
/-- A join finds the thread out of its loop. -/
theorem current_join {state next : State Caller Point Data}
    (hjoin : state.join = some next) :
    next.current = state.current ∧ next.data = state.data := by
  rw [State.join] at hjoin
  split at hjoin
  · obtain rfl := Option.some.inj hjoin
    exact ⟨rfl, rfl⟩
  · next thread hhandle =>
      split at hjoin
      · next hexited =>
          obtain rfl := Option.some.inj hjoin
          simp [State.current, hhandle, hexited]
      · cases hjoin

/-- What is kept when the thread is created, by the steps of the thread and by
the operations is kept by every step of an orderly protocol. -/
theorem Orderly.invariant_step {program : Program Point Input Operation Data}
    {state next : State Caller Point Data}
    {action : Action Caller Input Operation} (horderly : Orderly state)
    (hstep : Worker.step program state action = some next)
    {invariant : Option Point → Data → Prop}
    (hinvariant : invariant state.current state.data)
    (hprepare : ∀ caller input data, action = .advance caller input →
      state.calls caller = .creating → state.current = none →
      program.prepare input state.data = some data →
        invariant (some program.entry) data)
    (hwork : ∀ point input result,
      program.step state.running point input state.data = some result →
      state.current = some point → invariant result.1 result.2)
    (hoperate : ∀ operation data, action = .operate operation →
      program.operate operation state.data = some data →
        invariant state.current data) :
    invariant next.current next.data := by
  cases action with
  | start caller =>
      simp only [Worker.step, Option.ite_none_right_eq_some] at hstep
      obtain rfl := Option.some.inj hstep.2
      exact hinvariant
  | stop caller =>
      simp only [Worker.step, Option.ite_none_right_eq_some] at hstep
      obtain rfl := Option.some.inj hstep.2
      exact hinvariant
  | advance caller input =>
      simp only [Worker.step, Option.ite_none_left_eq_some] at hstep
      cases advances_of_advance hstep.2 with
      | refused hcall hrunning => exact hinvariant
      | admitted hcall hrunning => exact hinvariant
      | created hcall data hprepared =>
          obtain ⟨-, hnone⟩ := horderly.creating caller hcall
          have hcurrent : state.current = none := by
            simp [State.current, hnone]
          have hkept := hprepare caller input data rfl hcall hcurrent hprepared
          simpa [State.create, State.setCall, State.current, hnone] using hkept
      | spared hcall hrunning => exact hinvariant
      | stopped hcall hrunning => exact hinvariant
      | joined hcall joined hjoin =>
          obtain ⟨hcurrent, hdata⟩ := current_join hjoin
          change invariant joined.current joined.data
          rwa [hcurrent, hdata]
  | work thread input =>
      simp only [Worker.step, Option.ite_none_left_eq_some] at hstep
      obtain ⟨point, result, hthread, hresult, rfl⟩ := exists_of_work hstep.2
      rw [horderly.held.current_set hthread]
      exact hwork point input result hresult
        (horderly.held.current_eq hthread)
  | operate operation =>
      simp only [Worker.step, Option.ite_none_left_eq_some] at hstep
      obtain ⟨data, hdata, rfl⟩ := Option.map_eq_some_iff.mp hstep.2
      exact hoperate operation data rfl hdata

/-- Invariant rule for the loop: calls that do not overlap leave its data to the
thread and the operations. -/
theorem Orderly.invariant_along {program : Program Point Input Operation Data}
    {initial : Data} {invariant : Option Point → Data → Prop}
    (hprepare : ∀ input before after, invariant none before →
      program.prepare input before = some after →
        invariant (some program.entry) after)
    (hwork : ∀ running point input before result,
      invariant (some point) before →
      program.step running point input before = some result →
        invariant result.1 result.2)
    (hoperate : ∀ point operation before after, invariant point before →
      program.operate operation before = some after → invariant point after)
    {actions : List (Action Caller Input Operation)}
    {state final : State Caller Point Data} (horderly : Orderly state)
    (hinvariant : invariant state.current state.data)
    (halong : (machine program initial).Along Serialized state actions)
    (hrun : (machine program initial).run state actions = some final) :
    invariant final.current final.data := by
  have hpreserve : ∀ (other : State Caller Point Data)
      (action : Action Caller Input Operation) next,
      (Orderly other ∧ invariant other.current other.data) →
      Serialized other action →
      (machine program initial).step other action = some next →
      Orderly next ∧ invariant next.current next.data := by
    rintro other action next ⟨horderly, hinvariant⟩ hserialized hstep
    refine ⟨orderly_step horderly hserialized hstep, ?_⟩
    refine horderly.invariant_step hstep hinvariant ?_ ?_ ?_
    · intro caller input after _ _ hcurrent hprepared
      rw [hcurrent] at hinvariant
      exact hprepare input _ after hinvariant hprepared
    · intro point input result hresult hcurrent
      rw [hcurrent] at hinvariant
      exact hwork _ point input _ result hinvariant hresult
    · intro operation after _ hoperated
      exact hoperate _ operation _ after hinvariant hoperated
  exact (Machine.invariant_along hpreserve ⟨horderly, hinvariant⟩ halong
    hrun).2

theorem invariant_of_along {program : Program Point Input Operation Data}
    {data : Data} {invariant : Option Point → Data → Prop}
    (hinitial : invariant none data)
    (hprepare : ∀ input before after, invariant none before →
      program.prepare input before = some after →
        invariant (some program.entry) after)
    (hwork : ∀ running point input before result,
      invariant (some point) before →
      program.step running point input before = some result →
        invariant result.1 result.2)
    (hoperate : ∀ point operation before after, invariant point before →
      program.operate operation before = some after → invariant point after)
    {actions : List (Action Caller Input Operation)}
    {final : State Caller Point Data}
    (halong : (machine program data).Along Serialized
      (machine program data).initial actions)
    (hrun : (machine program data).run (machine program data).initial actions =
      some final) : invariant final.current final.data :=
  (orderly_initial data).invariant_along hprepare hwork hoperate hinitial
    halong hrun

/-! ## After a stop -/

/-- No caller is between an exchange and the thread it creates or joins. -/
def Settled (state : State Caller Point Data) : Prop :=
  ∀ caller, state.calls caller ≠ .creating ∧ state.calls caller ≠ .joining

omit [DecidableEq Caller] in
/-- Once a stop has returned, no thread has a step left. -/
theorem Orderly.work_eq_none {program : Program Point Input Operation Data}
    {state : State Caller Point Data} (horderly : Orderly state)
    (hsettled : Settled state) (hrunning : state.running = false) (thread : ℕ)
    (input : Input) : work program thread input state = none := by
  have hnone : state.handle = none := by
    have hflag := horderly.settled hsettled
    rw [hrunning] at hflag
    simpa using hflag.symm
  cases hwork : work program thread input state with
  | none => rfl
  | some next =>
      obtain ⟨point, -, hthread, -, -⟩ := exists_of_work hwork
      have hlive := horderly.held.live thread point hthread
      rw [hnone] at hlive
      cases hlive

/-! ## Calls that overlap -/

/-- A `start` that passes its exchange after the exchange of a `stop`, and
before that `stop` has joined, assigns to a joinable thread. -/
theorem Orderly.overlap {program : Program Point Input Operation Data}
    {data : Data} {state : State Caller Point Data} (horderly : Orderly state)
    (hidle : ∀ caller, state.calls caller = .idle)
    (hrunning : state.running = true) {stopper starter : Caller}
    (hdistinct : starter ≠ stopper) {input : Input}
    (hprepare : (program.prepare input state.data).isSome) :
    ∃ final,
      (machine program data).run state
          [.stop stopper, .advance stopper input, .start starter,
            .advance starter input, .advance starter input] =
        some final ∧ final.terminated = true := by
  have halive := horderly.alive
  have hsome : state.handle.isSome = true := by
    rw [← horderly.settled (fun caller => by simp [hidle caller]), hrunning]
  obtain ⟨prepared, hprepared⟩ := Option.isSome_iff_exists.mp hprepare
  simp [machine, Machine.run, step, Worker.advance, State.setCall, halive,
    hidle, hrunning, hdistinct, hprepared, State.create, hsome]

end Datafeed.Worker
