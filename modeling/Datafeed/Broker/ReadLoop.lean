import Datafeed.Core.Machine

/-!
# The reader of the first exchange and its destructor

`Exchange1` runs three threads over its flags `running_` and `connected_`: the
owner, which connects, subscribes and at last destroys the object, the reader
(`read_loop`) and the thread of the i/o context (`run_io_context`).  When the
connection is lost the reader rebuilds the stream, joins the i/o thread, stores
`true` to `running_` and launches a new i/o thread before it connects again.
The destructor clears both flags, closes the stream under `ws_mutex_`, and joins
the two threads.  A read holds `ws_mutex_` until it returns.
-/

namespace Datafeed.ReadLoop

/-- The step of `read_loop` that comes next. -/
inductive ReaderPoint
  /-- `reader_thread_` holds no thread. -/
  | absent
  | testRunning
  | testConnected
  | sleep
  | rebuild
  | restart
  | joinIo
  | storeRunning
  | launchIo
  | pause
  | performConnect
  | sendSubscribe
  /-- In the read, with `ws_mutex_` held. -/
  | read
  | ended
  deriving DecidableEq

/-- The step of the thread in `io_thread_` that comes next. -/
inductive IoPoint
  | absent
  | testRunning
  | run
  | ended
  deriving DecidableEq

/-- Where the owner stands; the last five are the steps of the destructor. -/
inductive OwnerPoint
  | constructed
  | performConnect
  | connected
  | clearConnected
  | close
  | joinIo
  | joinReader
  | destroyed
  deriving DecidableEq

structure State where
  running : Bool
  connected : Bool
  symbols : List String
  /-- `ioc_.stopped()` -/
  stopped : Bool
  reconnectDelay : ℕ
  reconnectAttempt : ℕ
  reader : ReaderPoint
  io : IoPoint
  owner : OwnerPoint
  deriving DecidableEq

inductive OwnerAction
  | connect
  /-- How `perform_connect` ends on the owner's thread. -/
  | connected (reached : Bool)
  | subscribe (symbols : List String)
  /-- The destructor's store to `running_`. -/
  | destroy
  | clearConnected
  | close
  | joinIo
  | joinReader
  deriving DecidableEq

inductive IoAction
  | testRunning
  /-- `ioc_.run()` returns, or throws. -/
  | returned
  | threw
  deriving DecidableEq

inductive ReaderAction
  | testRunning
  | testConnected
  | sleep
  | rebuild
  | restart
  | joinIo
  | storeRunning
  | launchIo
  | pause
  | performConnect (reached : Bool)
  | sendSubscribe (sent : Bool)
  /-- The read ends with a message, or with an exception. -/
  | read (received : Bool)
  deriving DecidableEq

inductive Action
  | owner (action : OwnerAction)
  | io (action : IoAction)
  | reader (action : ReaderAction)
  deriving DecidableEq

/-- A join of the thread returns at once, or there is none to join. -/
def IoPoint.Joinable : IoPoint → Prop
  | .absent | .ended => True
  | _ => False

def ReaderPoint.Joinable : ReaderPoint → Prop
  | .absent | .ended => True
  | _ => False

instance : DecidablePred IoPoint.Joinable := fun point => by
  cases point <;> unfold IoPoint.Joinable <;> infer_instance

instance : DecidablePred ReaderPoint.Joinable := fun point => by
  cases point <;> unfold ReaderPoint.Joinable <;> infer_instance

/-- `start_reader`; the locals of `read_loop` start anew. -/
def State.startReader (state : State) : State :=
  { state with
    reconnectDelay := 1
    reconnectAttempt := 0
    reader := .testRunning }

def State.ownerStep (state : State) : OwnerAction → Option State
  | .connect =>
      if state.owner = .constructed then
        some { state with
          running := true, io := .testRunning, owner := .performConnect }
      else none
  | .connected reached =>
      if state.owner = .performConnect then
        some { state with connected := reached, owner := .connected }
      else none
  | .subscribe symbols =>
      if state.owner = .connected then
        if state.connected then
          if state.reader.Joinable then
            some { state with symbols := symbols }.startReader
          else none
        else some { state with symbols := symbols }
      else none
  | .destroy =>
      if state.owner = .constructed ∨ state.owner = .connected then
        some { state with running := false, owner := .clearConnected }
      else none
  | .clearConnected =>
      if state.owner = .clearConnected then
        some { state with connected := false, owner := .close }
      else none
  | .close =>
      if state.owner = .close ∧ state.reader ≠ .read then
        some { state with owner := .joinIo }
      else none
  | .joinIo =>
      if state.owner = .joinIo ∧ state.io.Joinable then
        some { state with io := .absent, owner := .joinReader }
      else none
  | .joinReader =>
      if state.owner = .joinReader ∧ state.reader.Joinable then
        some { state with reader := .absent, owner := .destroyed }
      else none

/-- `run_io_context`: a return of `ioc_.run()` leaves the loop and the context
stopped, an exception goes back to the test. -/
def State.ioStep (state : State) : IoAction → Option State
  | .testRunning =>
      if state.io = .testRunning then
        some { state with io := if state.running then .run else .ended }
      else none
  | .returned =>
      if state.io = .run then some { state with stopped := true, io := .ended }
      else none
  | .threw =>
      if state.io = .run then some { state with io := .testRunning } else none

/-- `read_loop`. -/
def State.readerStep (state : State) : ReaderAction → Option State
  | .testRunning =>
      if state.reader = .testRunning then
        some { state with
          reader := if state.running then .testConnected else .ended }
      else none
  | .testConnected =>
      if state.reader = .testConnected then
        if state.connected then some { state with reader := .read }
        else
          some { state with
            reconnectAttempt := state.reconnectAttempt + 1, reader := .sleep }
      else none
  | .sleep =>
      if state.reader = .sleep then
        some { state with
          reconnectDelay := min (state.reconnectDelay * 2) 30
          reader := .rebuild }
      else none
  | .rebuild =>
      if state.reader = .rebuild then some { state with reader := .restart }
      else none
  | .restart =>
      if state.reader = .restart then
        some { state with stopped := false, reader := .joinIo }
      else none
  | .joinIo =>
      if state.reader = .joinIo ∧ state.io.Joinable then
        some { state with io := .absent, reader := .storeRunning }
      else none
  | .storeRunning =>
      if state.reader = .storeRunning then
        some { state with running := true, reader := .launchIo }
      else none
  | .launchIo =>
      if state.reader = .launchIo then
        some { state with io := .testRunning, reader := .pause }
      else none
  | .pause =>
      if state.reader = .pause then
        some { state with reader := .performConnect }
      else none
  | .performConnect reached =>
      if state.reader = .performConnect then
        if reached then
          some { state with
            connected := true
            reconnectDelay := 1
            reconnectAttempt := 0
            reader := if state.symbols = [] then .read else .sendSubscribe }
        else some { state with connected := false, reader := .testRunning }
      else none
  | .sendSubscribe sent =>
      if state.reader = .sendSubscribe then
        if sent then some { state with reader := .read }
        else some { state with connected := false, reader := .testRunning }
      else none
  | .read received =>
      if state.reader = .read then
        if received then some { state with reader := .testRunning }
        else some { state with connected := false, reader := .testRunning }
      else none

def step (state : State) : Action → Option State
  | .owner action => state.ownerStep action
  | .io action => state.ioStep action
  | .reader action => state.readerStep action

def machine : Machine State Action where
  initial :=
    { running := false
      connected := false
      symbols := []
      stopped := false
      reconnectDelay := 1
      reconnectAttempt := 0
      reader := .absent
      io := .absent
      owner := .constructed }
  step := step

/-! ## What the steps leave alone -/

theorem ioStep_frame {state next : State} {action : IoAction}
    (hstep : state.ioStep action = some next) :
    next.running = state.running ∧ next.connected = state.connected ∧
      next.symbols = state.symbols ∧ next.reader = state.reader ∧
      next.owner = state.owner := by
  cases action <;>
    (simp only [State.ioStep, Option.ite_none_right_eq_some,
        Option.some.injEq] at hstep
     obtain ⟨-, rfl⟩ := hstep
     exact ⟨rfl, rfl, rfl, rfl, rfl⟩)

theorem readerStep_of_joinable {state : State} {action : ReaderAction}
    (hjoinable : state.reader.Joinable) : state.readerStep action = none := by
  cases hpoint : state.reader <;> rw [hpoint] at hjoinable <;>
    first
      | exact absurd hjoinable id
      | cases action <;> simp [State.readerStep, hpoint]

/-- While the flag is set the reader stays in its loop. -/
theorem readerStep_frame {state next : State} {action : ReaderAction}
    (hrunning : state.running = true)
    (hstep : state.readerStep action = some next) :
    next.running = true ∧ ¬ next.reader.Joinable ∧
      next.symbols = state.symbols ∧ next.owner = state.owner := by
  cases action with
  | testRunning =>
      simp only [State.readerStep, Option.ite_none_right_eq_some,
        Option.some.injEq] at hstep
      obtain ⟨-, rfl⟩ := hstep
      simp [hrunning, ReaderPoint.Joinable]
  | testConnected =>
      simp only [State.readerStep, Option.ite_none_right_eq_some] at hstep
      obtain ⟨-, hnext⟩ := hstep
      split at hnext <;> cases hnext <;> exact ⟨hrunning, id, rfl, rfl⟩
  | performConnect reached =>
      simp only [State.readerStep, Option.ite_none_right_eq_some] at hstep
      obtain ⟨-, hnext⟩ := hstep
      split at hnext
      · cases hnext
        refine ⟨hrunning, ?_, rfl, rfl⟩
        by_cases hsymbols : state.symbols = [] <;>
          simp [hsymbols, ReaderPoint.Joinable]
      · cases hnext
        exact ⟨hrunning, id, rfl, rfl⟩
  | sendSubscribe sent =>
      simp only [State.readerStep, Option.ite_none_right_eq_some] at hstep
      obtain ⟨-, hnext⟩ := hstep
      split at hnext <;> cases hnext <;> exact ⟨hrunning, id, rfl, rfl⟩
  | read received =>
      simp only [State.readerStep, Option.ite_none_right_eq_some] at hstep
      obtain ⟨-, hnext⟩ := hstep
      split at hnext <;> cases hnext <;> exact ⟨hrunning, id, rfl, rfl⟩
  | storeRunning =>
      simp only [State.readerStep, Option.ite_none_right_eq_some,
        Option.some.injEq] at hstep
      obtain ⟨-, rfl⟩ := hstep
      exact ⟨rfl, id, rfl, rfl⟩
  | _ =>
      simp only [State.readerStep, Option.ite_none_right_eq_some,
        Option.some.injEq] at hstep
      obtain ⟨-, rfl⟩ := hstep
      exact ⟨hrunning, id, rfl, rfl⟩

/-! ## A shutdown outside the reconnect branch -/

/-- Between a passed test of `running_` and the store of the reconnect branch. -/
def ReaderPoint.Reconnecting : ReaderPoint → Prop
  | .testConnected | .sleep | .rebuild | .restart | .joinIo | .storeRunning =>
      True
  | _ => False

/-- The destructor has executed its first store. -/
def OwnerPoint.Destroying : OwnerPoint → Prop
  | .clearConnected | .close | .joinIo | .joinReader | .destroyed => True
  | _ => False

/-- The flag is clear and no thread will set it. -/
structure ShutDown (state : State) : Prop where
  clear : state.running = false
  reader : ¬ state.reader.Reconnecting
  owner : state.owner.Destroying

theorem ShutDown.ownerStep {state next : State} {action : OwnerAction}
    (hshut : ShutDown state) (hstep : state.ownerStep action = some next) :
    ShutDown next := by
  obtain ⟨hclear, hreader, howner⟩ := hshut
  cases action with
  | connect =>
      simp only [State.ownerStep, Option.ite_none_right_eq_some] at hstep
      rw [hstep.1] at howner
      exact absurd howner id
  | connected reached =>
      simp only [State.ownerStep, Option.ite_none_right_eq_some] at hstep
      rw [hstep.1] at howner
      exact absurd howner id
  | subscribe symbols =>
      simp only [State.ownerStep] at hstep
      split at hstep
      · next hpoint =>
          rw [hpoint] at howner
          exact absurd howner id
      · cases hstep
  | destroy =>
      simp only [State.ownerStep, Option.ite_none_right_eq_some] at hstep
      rcases hstep.1 with hpoint | hpoint <;> rw [hpoint] at howner <;>
        exact absurd howner id
  | clearConnected =>
      simp only [State.ownerStep, Option.ite_none_right_eq_some,
        Option.some.injEq] at hstep
      obtain ⟨-, rfl⟩ := hstep
      exact ⟨hclear, hreader, trivial⟩
  | close =>
      simp only [State.ownerStep, Option.ite_none_right_eq_some,
        Option.some.injEq] at hstep
      obtain ⟨-, rfl⟩ := hstep
      exact ⟨hclear, hreader, trivial⟩
  | joinIo =>
      simp only [State.ownerStep, Option.ite_none_right_eq_some,
        Option.some.injEq] at hstep
      obtain ⟨-, rfl⟩ := hstep
      exact ⟨hclear, hreader, trivial⟩
  | joinReader =>
      simp only [State.ownerStep, Option.ite_none_right_eq_some,
        Option.some.injEq] at hstep
      obtain ⟨-, rfl⟩ := hstep
      exact ⟨hclear, id, trivial⟩

theorem ShutDown.ioStep {state next : State} {action : IoAction}
    (hshut : ShutDown state) (hstep : state.ioStep action = some next) :
    ShutDown next := by
  obtain ⟨hclear, hreader, howner⟩ := hshut
  cases action <;>
    (simp only [State.ioStep, Option.ite_none_right_eq_some,
        Option.some.injEq] at hstep
     obtain ⟨-, rfl⟩ := hstep
     exact ⟨hclear, hreader, howner⟩)

/-- Outside the reconnect branch and with the flag clear, the reader steps to
a point outside the branch. -/
theorem ShutDown.readerStep {state next : State} {action : ReaderAction}
    (hshut : ShutDown state) (hstep : state.readerStep action = some next) :
    ShutDown next := by
  obtain ⟨hclear, hreader, howner⟩ := hshut
  cases action with
  | testRunning =>
      simp only [State.readerStep, Option.ite_none_right_eq_some,
        Option.some.injEq] at hstep
      obtain ⟨-, rfl⟩ := hstep
      refine ⟨hclear, ?_, howner⟩
      simp [hclear, ReaderPoint.Reconnecting]
  | launchIo =>
      simp only [State.readerStep, Option.ite_none_right_eq_some,
        Option.some.injEq] at hstep
      obtain ⟨-, rfl⟩ := hstep
      exact ⟨hclear, id, howner⟩
  | pause =>
      simp only [State.readerStep, Option.ite_none_right_eq_some,
        Option.some.injEq] at hstep
      obtain ⟨-, rfl⟩ := hstep
      exact ⟨hclear, id, howner⟩
  | performConnect reached =>
      simp only [State.readerStep, Option.ite_none_right_eq_some] at hstep
      obtain ⟨-, hnext⟩ := hstep
      split at hnext
      · cases hnext
        refine ⟨hclear, ?_, howner⟩
        by_cases hsymbols : state.symbols = [] <;>
          simp [hsymbols, ReaderPoint.Reconnecting]
      · cases hnext
        exact ⟨hclear, id, howner⟩
  | sendSubscribe sent =>
      simp only [State.readerStep, Option.ite_none_right_eq_some] at hstep
      obtain ⟨-, hnext⟩ := hstep
      split at hnext <;> cases hnext <;> exact ⟨hclear, id, howner⟩
  | read received =>
      simp only [State.readerStep, Option.ite_none_right_eq_some] at hstep
      obtain ⟨-, hnext⟩ := hstep
      split at hnext <;> cases hnext <;> exact ⟨hclear, id, howner⟩
  | testConnected =>
      simp only [State.readerStep, Option.ite_none_right_eq_some] at hstep
      rw [hstep.1] at hreader
      exact absurd trivial hreader
  | joinIo =>
      simp only [State.readerStep, Option.ite_none_right_eq_some] at hstep
      rw [hstep.1.1] at hreader
      exact absurd trivial hreader
  | _ =>
      simp only [State.readerStep, Option.ite_none_right_eq_some] at hstep
      rw [hstep.1] at hreader
      exact absurd trivial hreader

theorem ShutDown.keep (state : State) (action : Action) (next : State)
    (hshut : ShutDown state) (hstep : step state action = some next) :
    ShutDown next := by
  cases action with
  | owner action => exact hshut.ownerStep hstep
  | io action => exact hshut.ioStep hstep
  | reader action => exact hshut.readerStep hstep

/-! ## The destructor comes to its end -/

/-- The reader can leave its loop with everything still shut down. -/
def ReaderCanEnd (state : State) : Prop :=
  machine.CanReach (fun final => ShutDown final ∧ final.reader.Joinable) state

theorem ReaderCanEnd.of_step {state next : State} {action : Action}
    (hshut : ShutDown state) (hstep : machine.step state action = some next)
    (hnext : ShutDown next → ReaderCanEnd next) : ReaderCanEnd state :=
  Machine.CanReach.of_step action hstep
    (hnext (hshut.keep state action next hstep))

theorem ShutDown.readerCanEnd_of_joinable {state : State}
    (hshut : ShutDown state) (hreader : state.reader.Joinable) :
    ReaderCanEnd state :=
  Machine.canReach_of_property ⟨hshut, hreader⟩

theorem ShutDown.readerCanEnd_of_testRunning {state : State}
    (hshut : ShutDown state) (hpoint : state.reader = .testRunning) :
    ReaderCanEnd state := by
  have hstep : machine.step state (.reader .testRunning) =
      some { state with reader := .ended } := by
    simp [machine, step, State.readerStep, hpoint, hshut.clear]
  exact .of_step hshut hstep fun hnext =>
    hnext.readerCanEnd_of_joinable trivial

theorem ShutDown.readerCanEnd_of_performConnect {state : State}
    (hshut : ShutDown state) (hpoint : state.reader = .performConnect) :
    ReaderCanEnd state := by
  have hstep : machine.step state (.reader (.performConnect false)) =
      some { state with connected := false, reader := .testRunning } := by
    simp [machine, step, State.readerStep, hpoint]
  exact .of_step hshut hstep fun hnext =>
    hnext.readerCanEnd_of_testRunning rfl

theorem ShutDown.readerCanEnd_of_pause {state : State}
    (hshut : ShutDown state) (hpoint : state.reader = .pause) :
    ReaderCanEnd state := by
  have hstep : machine.step state (.reader .pause) =
      some { state with reader := .performConnect } := if_pos hpoint
  exact .of_step hshut hstep fun hnext =>
    hnext.readerCanEnd_of_performConnect rfl

/-- The reader leaves its loop: an attempt to connect that is under way may
fail, and a read may end with an exception. -/
theorem ShutDown.readerCanEnd {state : State} (hshut : ShutDown state) :
    ReaderCanEnd state := by
  cases hpoint : state.reader with
  | absent => exact hshut.readerCanEnd_of_joinable (by rw [hpoint]; trivial)
  | ended => exact hshut.readerCanEnd_of_joinable (by rw [hpoint]; trivial)
  | testRunning => exact hshut.readerCanEnd_of_testRunning hpoint
  | pause => exact hshut.readerCanEnd_of_pause hpoint
  | performConnect => exact hshut.readerCanEnd_of_performConnect hpoint
  | launchIo =>
      have hstep : machine.step state (.reader .launchIo) =
          some { state with io := .testRunning, reader := .pause } :=
        if_pos hpoint
      exact .of_step hshut hstep fun hnext => hnext.readerCanEnd_of_pause rfl
  | sendSubscribe =>
      have hstep : machine.step state (.reader (.sendSubscribe false)) =
          some { state with connected := false, reader := .testRunning } := by
        simp [machine, step, State.readerStep, hpoint]
      exact .of_step hshut hstep fun hnext =>
        hnext.readerCanEnd_of_testRunning rfl
  | read =>
      have hstep : machine.step state (.reader (.read false)) =
          some { state with connected := false, reader := .testRunning } := by
        simp [machine, step, State.readerStep, hpoint]
      exact .of_step hshut hstep fun hnext =>
        hnext.readerCanEnd_of_testRunning rfl
  | _ =>
      have hreader := hshut.reader
      rw [hpoint] at hreader
      exact absurd trivial hreader

/-- With the flag clear the i/o thread comes to its end: at its test, or when
the context has nothing left to run. -/
theorem canReach_ioJoinable {state : State} (hclear : state.running = false) :
    machine.CanReach
      (fun final => final.io.Joinable ∧ final.running = false ∧
        final.reader = state.reader ∧ final.owner = state.owner) state := by
  cases hpoint : state.io with
  | absent =>
      refine Machine.canReach_of_property ⟨?_, hclear, rfl, rfl⟩
      rw [hpoint]
      trivial
  | ended =>
      refine Machine.canReach_of_property ⟨?_, hclear, rfl, rfl⟩
      rw [hpoint]
      trivial
  | testRunning =>
      have hstep : machine.step state (.io .testRunning) =
          some { state with io := .ended } := by
        simp [machine, step, State.ioStep, hpoint, hclear]
      exact .of_step _ hstep
        (Machine.canReach_of_property ⟨trivial, hclear, rfl, rfl⟩)
  | run =>
      have hstep : machine.step state (.io .returned) =
          some { state with stopped := true, io := .ended } := if_pos hpoint
      exact .of_step _ hstep
        (Machine.canReach_of_property ⟨trivial, hclear, rfl, rfl⟩)

/-- The destructor returns. -/
def CanDestroy (state : State) : Prop :=
  machine.CanReach (·.owner = .destroyed) state

theorem canDestroy_of_joinReader {state : State}
    (hpoint : state.owner = .joinReader) (hreader : state.reader.Joinable) :
    CanDestroy state := by
  have hstep : machine.step state (.owner .joinReader) =
      some { state with reader := .absent, owner := .destroyed } :=
    if_pos ⟨hpoint, hreader⟩
  exact Machine.CanReach.of_step _ hstep (Machine.canReach_of_property rfl)

theorem canDestroy_of_joinIo {state : State} (hpoint : state.owner = .joinIo)
    (hreader : state.reader.Joinable) (hio : state.io.Joinable) :
    CanDestroy state := by
  have hstep : machine.step state (.owner .joinIo) =
      some { state with io := .absent, owner := .joinReader } :=
    if_pos ⟨hpoint, hio⟩
  exact Machine.CanReach.of_step _ hstep
    (canDestroy_of_joinReader rfl hreader)

theorem canDestroy_of_close {state : State} (hpoint : state.owner = .close)
    (hreader : state.reader.Joinable) (hio : state.io.Joinable) :
    CanDestroy state := by
  have hread : state.reader ≠ .read := by
    intro hread
    rw [hread] at hreader
    exact hreader
  have hstep : machine.step state (.owner .close) =
      some { state with owner := .joinIo } := if_pos ⟨hpoint, hread⟩
  exact Machine.CanReach.of_step _ hstep (canDestroy_of_joinIo rfl hreader hio)

theorem canDestroy_of_joinable {state : State} (howner : state.owner.Destroying)
    (hreader : state.reader.Joinable) (hio : state.io.Joinable) :
    CanDestroy state := by
  cases hpoint : state.owner with
  | clearConnected =>
      have hstep : machine.step state (.owner .clearConnected) =
          some { state with connected := false, owner := .close } :=
        if_pos hpoint
      exact Machine.CanReach.of_step _ hstep
        (canDestroy_of_close rfl hreader hio)
  | close => exact canDestroy_of_close hpoint hreader hio
  | joinIo => exact canDestroy_of_joinIo hpoint hreader hio
  | joinReader => exact canDestroy_of_joinReader hpoint hreader
  | destroyed => exact Machine.canReach_of_property hpoint
  | _ =>
      rw [hpoint] at howner
      exact absurd howner id

theorem ShutDown.canDestroy {state : State} (hshut : ShutDown state) :
    CanDestroy state := by
  apply hshut.readerCanEnd.trans
  rintro other ⟨hother, hreader⟩
  apply (canReach_ioJoinable hother.clear).trans
  rintro final ⟨hio, hclear, hsame, howner⟩
  apply canDestroy_of_joinable
  · rw [howner]
    exact hother.owner
  · rw [hsame]
    exact hreader
  · exact hio

/-! ## A shutdown inside the reconnect branch -/

/-- The flag gets set again. -/
def CanRestart (state : State) : Prop :=
  machine.CanReach (fun final => ¬ final.running = false) state

theorem canRestart_of_storeRunning {state : State}
    (hpoint : state.reader = .storeRunning) : CanRestart state := by
  have hstep : machine.step state (.reader .storeRunning) =
      some { state with running := true, reader := .launchIo } := if_pos hpoint
  exact Machine.CanReach.of_step _ hstep
    (Machine.canReach_of_property (by simp))

theorem canRestart_of_joinIo {state : State} (hclear : state.running = false)
    (hpoint : state.reader = .joinIo) : CanRestart state := by
  apply (canReach_ioJoinable hclear).trans
  rintro other ⟨hio, -, hsame, -⟩
  rw [hpoint] at hsame
  have hstep : machine.step other (.reader .joinIo) =
      some { other with io := .absent, reader := .storeRunning } :=
    if_pos ⟨hsame, hio⟩
  exact Machine.CanReach.of_step _ hstep (canRestart_of_storeRunning rfl)

theorem canRestart_of_restart {state : State} (hclear : state.running = false)
    (hpoint : state.reader = .restart) : CanRestart state := by
  have hstep : machine.step state (.reader .restart) =
      some { state with stopped := false, reader := .joinIo } := if_pos hpoint
  exact Machine.CanReach.of_step _ hstep (canRestart_of_joinIo hclear rfl)

theorem canRestart_of_rebuild {state : State} (hclear : state.running = false)
    (hpoint : state.reader = .rebuild) : CanRestart state := by
  have hstep : machine.step state (.reader .rebuild) =
      some { state with reader := .restart } := if_pos hpoint
  exact Machine.CanReach.of_step _ hstep (canRestart_of_restart hclear rfl)

theorem canRestart_of_sleep {state : State} (hclear : state.running = false)
    (hpoint : state.reader = .sleep) : CanRestart state := by
  have hstep : machine.step state (.reader .sleep) =
      some { state with
        reconnectDelay := min (state.reconnectDelay * 2) 30
        reader := .rebuild } := if_pos hpoint
  exact Machine.CanReach.of_step _ hstep (canRestart_of_rebuild hclear rfl)

/-- The reader may have passed its test of `running_` and not yet looked at
`connected_`, which the destructor clears next. -/
theorem canRestart_of_testConnected {state : State}
    (hclear : state.running = false) (howner : state.owner = .clearConnected)
    (hpoint : state.reader = .testConnected) : CanRestart state := by
  have hcleared : machine.step state (.owner .clearConnected) =
      some { state with connected := false, owner := .close } := if_pos howner
  have hstep : machine.step { state with connected := false, owner := .close }
      (.reader .testConnected) =
        some { state with
          connected := false
          owner := .close
          reconnectAttempt := state.reconnectAttempt + 1
          reader := .sleep } := if_pos hpoint
  exact Machine.CanReach.of_step _ hcleared
    (Machine.CanReach.of_step _ hstep (canRestart_of_sleep hclear rfl))

theorem canRestart_of_reconnecting {state : State}
    (hclear : state.running = false) (howner : state.owner = .clearConnected)
    (hreader : state.reader.Reconnecting) : CanRestart state := by
  cases hpoint : state.reader with
  | testConnected => exact canRestart_of_testConnected hclear howner hpoint
  | sleep => exact canRestart_of_sleep hclear hpoint
  | rebuild => exact canRestart_of_rebuild hclear hpoint
  | restart => exact canRestart_of_restart hclear hpoint
  | joinIo => exact canRestart_of_joinIo hclear hpoint
  | storeRunning => exact canRestart_of_storeRunning hpoint
  | _ =>
      rw [hpoint] at hreader
      exact absurd hreader id

/-! ## Exactly when a shutdown is final -/

/-- From the state on the flag stays clear, the reader leaves its loop at its
next test of it, and the destructor can return. -/
structure StaysDown (state : State) : Prop where
  clear : machine.Always (·.running = false) state
  leaves : machine.Always
    (fun final => final.reader = .testRunning →
      machine.step final (.reader .testRunning) =
        some { final with reader := .ended }) state
  returns : machine.Always CanDestroy state

theorem ShutDown.staysDown {state : State} (hshut : ShutDown state) :
    StaysDown state where
  clear := Machine.always_of_invariant ShutDown.keep
    (fun _ hfinal => hfinal.clear) hshut
  leaves := by
    refine Machine.always_of_invariant ShutDown.keep ?_ hshut
    intro final hfinal hpoint
    simp [machine, step, State.readerStep, hpoint, hfinal.clear]
  returns := Machine.always_of_invariant ShutDown.keep
    (fun _ hfinal => hfinal.canDestroy) hshut

/-- Wherever the threads stand when the destructor clears `running_`, the flag
stays clear exactly when the reader is not between a passed test of it and the
store of the reconnect branch. -/
theorem staysDown_iff {state next : State}
    (hdestroy : machine.step state (.owner .destroy) = some next) :
    StaysDown next ↔ ¬ state.reader.Reconnecting := by
  simp only [machine, step, State.ownerStep, Option.ite_none_right_eq_some,
    Option.some.injEq] at hdestroy
  obtain ⟨-, rfl⟩ := hdestroy
  constructor
  · intro hstays hreconnecting
    have hrestart : CanRestart
        { state with running := false, owner := .clearConnected } :=
      canRestart_of_reconnecting rfl rfl hreconnecting
    exact Machine.not_always_of_canReach hrestart hstays.clear
  · intro hreader
    have hshut : ShutDown
        { state with running := false, owner := .clearConnected } :=
      ⟨rfl, hreader, trivial⟩
    exact hshut.staysDown

/-- The owner connects and subscribes, and the reader reads. -/
def startUp : List Action :=
  [.owner .connect, .io .testRunning, .owner (.connected true),
    .owner (.subscribe ["BTCUSDT"]), .reader .testRunning,
    .reader .testConnected]

def reading : State where
  running := true
  connected := true
  symbols := ["BTCUSDT"]
  stopped := false
  reconnectDelay := 1
  reconnectAttempt := 0
  reader := .read
  io := .run
  owner := .connected

theorem staysDown_iff_reading :
    machine.run machine.initial startUp = some reading ∧
      StaysDown { reading with running := false, owner := .clearConnected } := by
  have hdestroy : machine.step reading (.owner .destroy) =
      some { reading with running := false, owner := .clearConnected } := rfl
  exact ⟨rfl, (staysDown_iff hdestroy).mpr id⟩

/-- The connection breaks, the destructor stores its flag while the reader
sleeps before the first attempt, and the reader sets it again, connects and is
back in its read after a further test, with the destructor at the join of the
i/o thread the reader has launched. -/
theorem shutdown_while_sleeping_is_lost :
    ∃ final, machine.run machine.initial
        (startUp ++
          [.reader (.read false), .reader .testRunning, .reader .testConnected,
            .owner .destroy, .owner .clearConnected, .owner .close,
            .io .returned, .reader .sleep, .reader .rebuild, .reader .restart,
            .reader .joinIo, .reader .storeRunning, .reader .launchIo,
            .io .testRunning, .reader .pause, .reader (.performConnect true),
            .reader (.sendSubscribe true), .reader (.read true),
            .reader .testRunning, .reader .testConnected]) = some final ∧
      final.running = true ∧ final.reader = .read ∧ final.owner = .joinIo :=
  ⟨_, rfl, rfl, rfl, rfl⟩

end Datafeed.ReadLoop
