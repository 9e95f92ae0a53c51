import Datafeed.Core.Mutex
import Datafeed.Server.WriteQueue
import Datafeed.Session.SessionManager

/-!
# The sessions of the server

The handshake, the read loop and the write queue of every session, the registry
and the registered adapter.  A session is owned by its pending operations, by
the handlers waiting on its strand and by `g_adapter_session`; its destructor
runs in the thread that releases the last owner, before that thread goes on.
One action is one completion handler, or one of the calls a handler makes while
`on_read` runs, so the steps of several sessions interleave freely.  An action
is a program over the state and `g_adapter_mutex`: a destructor that is entered
while the action holds the mutex waits for itself.

The last release of a session and its destructor are one step here, and so are
its constructor and its first owner.  A broadcast of another thread may come in
between, find the session without an owner and throw; `SessionLifetime` and
`Server.Lifetimes` have these finer steps.
-/

namespace Datafeed.Server

open SessionManager

/-- Where the handshake and the read loop of a session stand. -/
inductive Phase
  | absent
  /-- Registered by its constructor, `async_accept` is pending. -/
  | accepting
  /-- `async_accept` completed with an error. -/
  | rejected
  /-- `async_read` is pending, or `on_read` is handling a message. -/
  | reading
  /-- `on_read` returned without a further `do_read`. -/
  | closed
  | destroyed
  deriving DecidableEq

namespace Phase

/-- Between constructor and destructor. -/
def Live (phase : Phase) : Prop :=
  phase ≠ .absent ∧ phase ≠ .destroyed

/-- `async_accept` has completed successfully and the session still exists. -/
def Accepted (phase : Phase) : Prop :=
  phase = .reading ∨ phase = .closed

instance (phase : Phase) : Decidable phase.Live :=
  inferInstanceAs (Decidable (_ ∧ _))

instance (phase : Phase) : Decidable phase.Accepted :=
  inferInstanceAs (Decidable (_ ∨ _))

/-- The pending `async_accept` or `async_read` of the session. -/
def operations : Phase → ℕ
  | accepting | reading => 1
  | _ => 0

end Phase

structure State (Session : Type) where
  manager : Manager Session := Manager.empty
  adapterSession : Option Session := none
  phase : Session → Phase := fun _ => .absent
  queue : Session → WriteQueue.State String := fun _ => {}

inductive Action (Session : Type)
  /-- An upgrade request: the constructor and `do_accept`. -/
  | upgrade (session : Session)
  | onAccept (session : Session) (failed : Bool)
  /-- `on_read` with `closed` or an error. -/
  | closeRead (session : Session)
  /-- The branch of `on_read` for `{"type":"adapter"}`. -/
  | registerAdapter (session : Session)
  /-- The section of `on_read` that relays a message of the adapter. -/
  | relay (session : Session) (msg : String) (complete : Bool)
  /-- The branch of `on_read` for `{"type":"backtest_result"}`. -/
  | broadcastAll (session : Session) (msg : String)
  | setClientMode (session : Session) (mode date : String)
  /-- The section of a mode command that sends to the adapter. -/
  | commandAdapter (session : Session) (command : String)
  | addClientTopics (session : Session) (topics : List String)
  /-- A broadcast by any thread. -/
  | broadcastToTopic (topic msg : String)
  /-- The strand of the session runs the next posted handler. -/
  | runHandler (session : Session)
  | onWrite (session : Session) (operation : ℕ) (failed : Bool)
  deriving DecidableEq

variable {Session : Type} [DecidableEq Session]

/-- The topics the messages of the adapter are relayed on. -/
def relayTopics : List String :=
  ["price_", "backtest_price_", "bid_", "backtest_bid_", "ask_",
    "backtest_ask_"]

/-- The calls of `send_message` made when a message is relayed. -/
def relayMessages (msg : String) (complete : Bool)
    (manager : Manager Session) : List (Session × String) :=
  (relayTopics ++ if complete then ["backtest_complete"] else []).flatMap
    fun topic => manager.broadcastToTopic topic msg

namespace State

/-- The asynchronous operations of a session and its posted handlers. -/
def pendingOperations (state : State Session) (session : Session) : ℕ :=
  (state.phase session).operations + (state.queue session).handlers.length +
    (state.queue session).outstanding.length

def useCount (state : State Session) (session : Session) : ℕ :=
  state.pendingOperations session +
    if state.adapterSession = some session then 1 else 0

def setPhase (session : Session) (phase : Phase) (state : State Session) :
    State Session :=
  { state with phase := Function.update state.phase session phase }

/-- Runs a step of one write queue, if that step is enabled. -/
def stepQueue (session : Session) (action : WriteQueue.Action String)
    (state : State Session) : State Session :=
  match WriteQueue.step (state.queue session) action with
  | none => state
  | some queue =>
      { state with queue := Function.update state.queue session queue }

/-- `g_adapter_session = shared_from_this()`. -/
def setAdapter (session : Session) (state : State Session) : State Session :=
  { state with adapterSession := some session }

def sendMessage (state : State Session) (call : Session × String) :
    State Session :=
  { state with
    queue := Function.update state.queue call.1
      ((state.queue call.1).sendMessage call.2) }

/-- Carries out calls of `send_message`. -/
def post (calls : List (Session × String)) (state : State Session) :
    State Session :=
  calls.foldl sendMessage state

/-- The constructor and `do_accept`. -/
def upgrade (session : Session) (state : State Session) : State Session :=
  { state with
    manager := state.manager.addClient session
    phase := Function.update state.phase session .accepting }

/-- The body of the destructor. -/
def destroy (session : Session) (state : State Session) : State Session :=
  { state with
    adapterSession :=
      if state.adapterSession = some session then none
      else state.adapterSession
    manager := state.manager.removeClient session
    phase := Function.update state.phase session .destroyed }

end State

open LockProgram

def destructor (session : Session) : LockProgram (State Session) Unit :=
  withLock (LockProgram.modify (State.destroy session))

/-- What follows when an owner of the session has let go. -/
def releaseOwner (session : Session) : LockProgram (State Session) Unit := do
  let state ← LockProgram.get
  if state.useCount session = 0 then destructor session

/-- Overwriting `g_adapter_session` releases the session it referred to. -/
def registerAdapter (session : Session) : LockProgram (State Session) Unit :=
  withLock do
    let state ← LockProgram.get
    LockProgram.set (state.setAdapter session)
    match state.adapterSession with
    | some previous => releaseOwner previous
    | none => LockProgram.pure ()

def relay (session : Session) (msg : String) (complete : Bool) :
    LockProgram (State Session) Unit :=
  withLock do
    let state ← LockProgram.get
    if state.adapterSession = some session then
      LockProgram.set (state.post (relayMessages msg complete state.manager))

def commandAdapter (command : String) : LockProgram (State Session) Unit :=
  withLock do
    let state ← LockProgram.get
    match state.adapterSession with
    | some adapter => LockProgram.set (state.post [(adapter, command)])
    | none => LockProgram.pure ()

def call : Action Session → LockProgram (State Session) Unit
  | .upgrade session => LockProgram.modify (State.upgrade session)
  | .onAccept session failed => do
      LockProgram.modify
        (State.setPhase session (if failed then .rejected else .reading))
      releaseOwner session
  | .closeRead session => do
      LockProgram.modify (State.setPhase session .closed)
      releaseOwner session
  | .registerAdapter session => registerAdapter session
  | .relay session msg complete => relay session msg complete
  | .broadcastAll _ msg =>
      LockProgram.modify fun state =>
        state.post (state.manager.broadcastAll msg)
  | .setClientMode session mode date =>
      LockProgram.modify fun state =>
        { state with manager := state.manager.setClientMode session mode date }
  | .commandAdapter _ command => commandAdapter command
  | .addClientTopics session topics =>
      LockProgram.modify fun state =>
        { state with manager := state.manager.addClientTopics session topics }
  | .broadcastToTopic topic msg =>
      LockProgram.modify fun state =>
        state.post (state.manager.broadcastToTopic topic msg)
  | .runHandler session => do
      LockProgram.modify (State.stepQueue session .runHandler)
      releaseOwner session
  | .onWrite session operation failed => do
      LockProgram.modify (State.stepQueue session (.onWrite operation failed))
      releaseOwner session

/-- Whether the handler of the action can be running. -/
def enabled (state : State Session) : Action Session → Bool
  | .upgrade session => state.phase session = .absent
  | .onAccept session _ => state.phase session = .accepting
  | .closeRead session
  | .registerAdapter session
  | .relay session _ _
  | .broadcastAll session _
  | .setClientMode session _ _
  | .commandAdapter session _
  | .addClientTopics session _ => state.phase session = .reading
  | .broadcastToTopic _ _ => true
  | .runHandler session => (state.queue session).handlers ≠ []
  | .onWrite session operation _ =>
      operation < (state.queue session).outstanding.length

/-- An action whose thread waits for a mutex that it holds itself never
completes, so it has no successor. -/
def step (state : State Session) (action : Action Session) :
    Option (State Session) :=
  if enabled state action then
    match call action ⟨state, false⟩ with
    | .returned _ after => some after.data
    | .selfDeadlock => none
  else none

def machine : Machine (State Session) (Action Session) where
  initial := {}
  step := step

/-! ## What the steps of one session leave alone -/

section Frame

variable (session : Session) (action : WriteQueue.Action String)
  (state : State Session) (calls : List (Session × String))

@[simp]
theorem stepQueue_manager :
    (state.stepQueue session action).manager = state.manager := by
  rw [State.stepQueue]
  split <;> rfl

@[simp]
theorem stepQueue_adapterSession :
    (state.stepQueue session action).adapterSession =
      state.adapterSession := by
  rw [State.stepQueue]
  split <;> rfl

@[simp]
theorem stepQueue_phase :
    (state.stepQueue session action).phase = state.phase := by
  rw [State.stepQueue]
  split <;> rfl

@[simp]
theorem post_manager : (state.post calls).manager = state.manager := by
  induction calls generalizing state with
  | nil => rfl
  | cons call calls ih => exact ih _

@[simp]
theorem post_adapterSession :
    (state.post calls).adapterSession = state.adapterSession := by
  induction calls generalizing state with
  | nil => rfl
  | cons call calls ih => exact ih _

@[simp]
theorem post_phase : (state.post calls).phase = state.phase := by
  induction calls generalizing state with
  | nil => rfl
  | cons call calls ih => exact ih _

end Frame

/-- The messages of the calls of `send_message` on one session. -/
def messagesFor (session : Session) (calls : List (Session × String)) :
    List String :=
  (calls.filter fun call => call.1 = session).map Prod.snd

/-- Posting only adds handlers to a session, in the order of the calls. -/
theorem post_queue (session : Session) (state : State Session)
    (calls : List (Session × String)) :
    (state.post calls).queue session =
      { state.queue session with
        handlers := (state.queue session).handlers ++ messagesFor session calls
        posted :=
          (state.queue session).posted ++ messagesFor session calls } := by
  induction calls generalizing state with
  | nil => simp [State.post, messagesFor]
  | cons call calls ih =>
      change ((state.sendMessage call).post calls).queue session = _
      rw [ih]
      by_cases hsame : call.1 = session
      · simp [State.sendMessage, WriteQueue.State.sendMessage, messagesFor,
          hsame]
      · simp [State.sendMessage, messagesFor, hsame, Function.update_of_ne,
          Ne.symm hsame]

theorem stepQueue_queue_of_ne {session other : Session} {state : State Session}
    (hother : other ≠ session) (action : WriteQueue.Action String) :
    (state.stepQueue session action).queue other = state.queue other := by
  rw [State.stepQueue]
  split
  · rfl
  · exact Function.update_of_ne hother _ _

/-! ## What one action does -/

/-- Registering an adapter leaves the session it replaces with an owner. -/
def ReplacedIsPending (state : State Session) : Action Session → Prop
  | .registerAdapter session =>
      ∀ previous, state.adapterSession = some previous → previous ≠ session →
        state.pendingOperations previous ≠ 0
  | _ => True

namespace State

/-- The destructor, if no owner is left. -/
def release (session : Session) (state : State Session) : State Session :=
  if state.useCount session = 0 then state.destroy session else state

/-- The state after an action that does not wait for itself. -/
def after (state : State Session) : Action Session → State Session
  | .upgrade session => state.upgrade session
  | .onAccept session failed =>
      (state.setPhase session
        (if failed then .rejected else .reading)).release session
  | .closeRead session => (state.setPhase session .closed).release session
  | .registerAdapter session => state.setAdapter session
  | .relay session msg complete =>
      if state.adapterSession = some session then
        state.post (relayMessages msg complete state.manager)
      else state
  | .broadcastAll _ msg => state.post (state.manager.broadcastAll msg)
  | .setClientMode session mode date =>
      { state with manager := state.manager.setClientMode session mode date }
  | .commandAdapter _ command =>
      match state.adapterSession with
      | some adapter => state.post [(adapter, command)]
      | none => state
  | .addClientTopics session topics =>
      { state with manager := state.manager.addClientTopics session topics }
  | .broadcastToTopic topic msg =>
      state.post (state.manager.broadcastToTopic topic msg)
  | .runHandler session =>
      (state.stepQueue session .runHandler).release session
  | .onWrite session operation failed =>
      (state.stepQueue session (.onWrite operation failed)).release session

end State

theorem releaseOwner_free (session : Session) (state : State Session) :
    releaseOwner session ⟨state, false⟩ =
      .returned () ⟨state.release session, false⟩ := by
  rw [releaseOwner, get_bind_apply, State.release]
  split
  · rfl
  · rfl

theorem releaseOwner_held_of_owned {session : Session} {state : State Session}
    (howned : state.useCount session ≠ 0) :
    releaseOwner session ⟨state, true⟩ = .returned () ⟨state, true⟩ := by
  rw [releaseOwner, get_bind_apply, if_neg howned]
  rfl

theorem releaseOwner_held_of_last {session : Session} {state : State Session}
    (hlast : state.useCount session = 0) :
    releaseOwner session ⟨state, true⟩ = .selfDeadlock := by
  rw [releaseOwner, get_bind_apply, if_pos hlast, destructor, withLock_held]

/-- The owners of a session once `session` is the adapter. -/
theorem useCount_setAdapter (state : State Session) (session other : Session) :
    (state.setAdapter session).useCount other =
      state.pendingOperations other + if session = other then 1 else 0 := by
  simp only [State.useCount, State.setAdapter, Option.some.injEq]
  rfl

theorem registerAdapter_apply_none {state : State Session} (session : Session)
    (hnone : state.adapterSession = none) :
    registerAdapter session ⟨state, false⟩ =
      .returned () ⟨state.setAdapter session, false⟩ := by
  rw [registerAdapter, withLock_free, get_bind_apply, hnone]
  rfl

theorem registerAdapter_apply_some {state : State Session}
    {previous : Session} (session : Session)
    (hprevious : state.adapterSession = some previous) :
    registerAdapter session ⟨state, false⟩ =
      withLock (releaseOwner previous) ⟨state.setAdapter session, false⟩ := by
  rw [registerAdapter, withLock_free, withLock_free, get_bind_apply,
    set_bind_apply, hprevious]

theorem registerAdapter_returned {state : State Session} {session : Session}
    (hpending : ReplacedIsPending state (.registerAdapter session)) :
    registerAdapter session ⟨state, false⟩ =
      .returned () ⟨state.setAdapter session, false⟩ := by
  cases hadapter : state.adapterSession with
  | none => exact registerAdapter_apply_none session hadapter
  | some previous =>
      have howned : (state.setAdapter session).useCount previous ≠ 0 := by
        rw [useCount_setAdapter]
        by_cases hsame : previous = session
        · simp [hsame]
        · have hother := hpending previous hadapter hsame
          omega
      rw [registerAdapter_apply_some session hadapter, withLock_free,
        releaseOwner_held_of_owned howned]

theorem registerAdapter_selfDeadlock {state : State Session} {session : Session}
    (hlast : ¬ ReplacedIsPending state (.registerAdapter session)) :
    registerAdapter session ⟨state, false⟩ = .selfDeadlock := by
  simp only [ReplacedIsPending, not_forall, not_not] at hlast
  obtain ⟨previous, hadapter, hother, hpending⟩ := hlast
  have hunowned : (state.setAdapter session).useCount previous = 0 := by
    rw [useCount_setAdapter, hpending, if_neg (Ne.symm hother)]
  rw [registerAdapter_apply_some session hadapter, withLock_free,
    releaseOwner_held_of_last hunowned]

theorem relay_apply (session : Session) (msg : String) (complete : Bool)
    (state : State Session) :
    relay session msg complete ⟨state, false⟩ =
      .returned () ⟨state.after (.relay session msg complete), false⟩ := by
  rw [relay, withLock_free, get_bind_apply, State.after]
  split_ifs
  · rfl
  · rfl

theorem commandAdapter_apply (session : Session) (command : String)
    (state : State Session) :
    commandAdapter command ⟨state, false⟩ =
      .returned () ⟨state.after (.commandAdapter session command), false⟩ := by
  rw [commandAdapter, withLock_free, get_bind_apply, State.after]
  cases state.adapterSession with
  | none => rfl
  | some adapter => rfl

theorem call_returned {state : State Session} {action : Action Session}
    (hpending : ReplacedIsPending state action) :
    call action ⟨state, false⟩ = .returned () ⟨state.after action, false⟩ := by
  cases action with
  | registerAdapter session => exact registerAdapter_returned hpending
  | relay session msg complete => exact relay_apply session msg complete state
  | commandAdapter session command =>
      exact commandAdapter_apply session command state
  | onAccept session failed => exact releaseOwner_free session _
  | closeRead session => exact releaseOwner_free session _
  | runHandler session => exact releaseOwner_free session _
  | onWrite session operation failed => exact releaseOwner_free session _
  | upgrade session => rfl
  | broadcastAll session msg => rfl
  | setClientMode session mode date => rfl
  | addClientTopics session topics => rfl
  | broadcastToTopic topic msg => rfl

/-- The only action whose thread can wait for itself is a registration. -/
theorem call_selfDeadlock {state : State Session} {action : Action Session}
    (hlast : ¬ ReplacedIsPending state action) :
    call action ⟨state, false⟩ = .selfDeadlock := by
  cases action with
  | registerAdapter session => exact registerAdapter_selfDeadlock hlast
  | _ => exact absurd trivial hlast

theorem step_eq_some_iff {state next : State Session}
    {action : Action Session} :
    step state action = some next ↔
      enabled state action = true ∧ ReplacedIsPending state action ∧
        next = state.after action := by
  rw [step]
  by_cases hpending : ReplacedIsPending state action
  · rw [call_returned hpending]
    simp only [hpending, Option.ite_none_right_eq_some, Option.some.injEq,
      true_and]
    exact and_congr_right fun _ => eq_comm
  · rw [call_selfDeadlock hpending]
    simp only [hpending, ite_self, reduceCtorEq, false_and, and_false]

end Datafeed.Server
