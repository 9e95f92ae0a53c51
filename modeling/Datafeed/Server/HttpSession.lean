import Datafeed.Api.Router
import Datafeed.Server.Ownership

/-!
# Connections before the upgrade

The listener hands every connection to an `http_session`, which reads once: an
upgrade request goes on to a `websocket_session`, any other request is answered
through the router, and then the connection is shut down.  The completion
handlers of the connections interleave with each other and with those of the
sessions.  What a handler of the router answers is left open here, so that the
handlers of two threads may overlap; one that throws ends the process.
-/

namespace Datafeed.HttpSession

open Routing

/-! ## Messages -/

structure Response where
  status : ℕ
  version : ℕ
  fields : List (String × String)
  body : String
  deriving DecidableEq

/-- Setting a field replaces those of its name. -/
def Response.set (response : Response) (name value : String) : Response :=
  { response with
    fields :=
      response.fields.filter (fun field => field.1 ≠ name) ++ [(name, value)] }

/-- `prepare_payload` of a body that is a string. -/
def Response.preparePayload (response : Response) : Response :=
  response.set "Content-Length" (toString response.body.utf8ByteSize)

/-- What the parser has read; whether it is an upgrade depends on its
fields. -/
structure Incoming (Message : Type) where
  request : Request Message
  version : ℕ
  isUpgrade : Bool

inductive ReadResult (Message : Type)
  | endOfStream
  | failed
  | received (incoming : Incoming Message)

inductive AcceptError
  | invalidArgument
  | badDescriptor
  | other

inductive AcceptResult (Connection : Type)
  | accepted (connection : Connection)
  | failed (error : AcceptError)

/-- How a handler of the router ends. -/
inductive Outcome
  | returned (response : Response)
  | threw

def makeNotFound (beastVersion : String) (version : ℕ) : Response :=
  (((⟨404, version, [], "\x7b\"error\":\"not found\"\x7d"⟩ :
    Response).set "Server" beastVersion).set
      "Content-Type" "application/json").preparePayload

def allowOrigin (response : Response) : Response :=
  response.set "Access-Control-Allow-Origin" "*"

/-! ## The connections -/

/-- Where the `http_session` of a connection stands. -/
inductive Phase (Call : Type)
  /-- `run` has dispatched `do_read`. -/
  | created
  | reading
  /-- `on_read` is in the handler of a route. -/
  | handling (call : Call)
  | writing
  | upgraded
  | closed

/-- What happens on a connection. -/
inductive Event (Message : Type)
  | asyncRead
  | received (incoming : Incoming Message)
  | upgraded
  | asyncWrite (response : Response)
  | shutdownSend

structure State (Message Call Connection : Type) where
  accepting : Bool := true
  stopped : Bool := false
  phase : Connection → Option (Phase Call) := fun _ => none
  transcript : Connection → List (Event Message) := fun _ => []
  server : Server.State Connection := {}

inductive Action (Message Connection : Type)
  | onAccept (result : AcceptResult Connection)
  | doRead (connection : Connection)
  | onRead (connection : Connection) (result : ReadResult Message)
  | handled (connection : Connection) (outcome : Outcome)
  | onWrite (connection : Connection) (failed : Bool)
  /-- A completion handler of the `websocket_session`s. -/
  | session (action : Server.Action Connection)
  /-- `SIGINT` or `SIGTERM`. -/
  | signal

variable {Message Call Connection : Type} [DecidableEq Connection]

/-- Enters a phase, with what happens on the connection. -/
def State.advance (state : State Message Call Connection)
    (connection : Connection) (phase : Phase Call)
    (events : List (Event Message)) : State Message Call Connection :=
  { state with
    phase := Function.update state.phase connection (some phase)
    transcript := Function.update state.transcript connection
      (state.transcript connection ++ events) }

/-- An error that ends the listener. -/
def AcceptError.isFatal : AcceptError → Bool
  | .invalidArgument | .badDescriptor => true
  | .other => false

def onAccept (state : State Message Call Connection) :
    AcceptResult Connection → Option (State Message Call Connection)
  | .accepted connection =>
      if (state.phase connection).isNone then
        some (state.advance connection .created [])
      else none
  | .failed error => some { state with accepting := !error.isFatal }

def State.write (state : State Message Call Connection)
    (connection : Connection) (events : List (Event Message))
    (response : Response) : State Message Call Connection :=
  state.advance connection .writing
    (events ++ [.asyncWrite (allowOrigin response)])

section Steps

variable (beastVersion : String) (router : Option (Router Message Call))

def handleRequest (request : Request Message) : Option Call :=
  router.bind fun router => router.handleRequest request

/-- `on_read`, up to the handler of the route. -/
def onRead (state : State Message Call Connection) (connection : Connection) :
    ReadResult Message → Option (State Message Call Connection)
  | .endOfStream => some (state.advance connection .closed [.shutdownSend])
  | .failed => some (state.advance connection .closed [])
  | .received incoming =>
      if incoming.isUpgrade then
        (Server.step state.server (.upgrade connection)).map fun server =>
          { state.advance connection .upgraded
              [.received incoming, .upgraded] with server := server }
      else
        match handleRequest router incoming.request with
        | some call =>
            some (state.advance connection (.handling call)
              [.received incoming])
        | none =>
            some (state.write connection [.received incoming]
              (makeNotFound beastVersion incoming.version))

/-- A handler of a route ends; an exception leaves `io_context::run`. -/
def handled (state : State Message Call Connection) (connection : Connection) :
    Outcome → State Message Call Connection
  | .returned response => state.write connection [] response
  | .threw => { state with stopped := true }

/-- The listener and the sessions, as long as the process runs. -/
def next (state : State Message Call Connection) :
    Action Message Connection → Option (State Message Call Connection)
  | .onAccept result => if state.accepting then onAccept state result else none
  | .doRead connection =>
      match state.phase connection with
      | some .created => some (state.advance connection .reading [.asyncRead])
      | _ => none
  | .onRead connection result =>
      match state.phase connection with
      | some .reading => onRead beastVersion router state connection result
      | _ => none
  | .handled connection outcome =>
      match state.phase connection with
      | some (.handling _) => some (handled state connection outcome)
      | _ => none
  | .onWrite connection _ =>
      -- An error is logged, the shutdown follows in either case.
      match state.phase connection with
      | some .writing => some (state.advance connection .closed [.shutdownSend])
      | _ => none
  | .session (.upgrade _) => none
  | .session action =>
      (Server.step state.server action).map fun server =>
        { state with server := server }
  | .signal => some { state with stopped := true }

def step (state : State Message Call Connection)
    (action : Action Message Connection) :
    Option (State Message Call Connection) :=
  if state.stopped then none else next beastVersion router state action

def machine : Machine (State Message Call Connection)
    (Action Message Connection) where
  initial := {}
  step := step beastVersion router

/-! ## What is said on a connection -/

/-- The answer to a request that is not an upgrade: that of the handler of its
route, if there is one. -/
def Answers (returned : Response → Prop) (incoming : Incoming Message)
    (response : Response) : Prop :=
  match handleRequest router incoming.request with
  | none => response = allowOrigin (makeNotFound beastVersion incoming.version)
  | some _ => ∃ answer, returned answer ∧ response = allowOrigin answer

/-- The dialogues on a connection and the phases they leave it in. -/
inductive Dialogue (returned : Response → Prop) :
    Phase Call → List (Event Message) → Prop
  | created : Dialogue returned .created []
  | reading : Dialogue returned .reading [.asyncRead]
  | failed : Dialogue returned .closed [.asyncRead]
  | ended : Dialogue returned .closed [.asyncRead, .shutdownSend]
  | upgraded {incoming} : incoming.isUpgrade = true →
      Dialogue returned .upgraded [.asyncRead, .received incoming, .upgraded]
  | handling {incoming call} : incoming.isUpgrade = false →
      handleRequest router incoming.request = some call →
        Dialogue returned (.handling call) [.asyncRead, .received incoming]
  | writing {incoming response} : incoming.isUpgrade = false →
      Answers beastVersion router returned incoming response →
        Dialogue returned .writing
          [.asyncRead, .received incoming, .asyncWrite response]
  | answered {incoming response} : incoming.isUpgrade = false →
      Answers beastVersion router returned incoming response →
        Dialogue returned .closed
          [.asyncRead, .received incoming, .asyncWrite response, .shutdownSend]

end Steps

section Runs

variable {beastVersion : String} {router : Option (Router Message Call)}
  {returned : Connection → Response → Prop}
  {state after : State Message Call Connection} {connection : Connection}

/-- What the handlers of the routes have returned. -/
def Returns (returned : Connection → Response → Prop) :
    Action Message Connection → Prop
  | .handled connection (.returned response) => returned connection response
  | _ => True

/-- The connections with what was said on them, beside the sessions of those
that were upgraded. -/
structure Consistent (beastVersion : String)
    (router : Option (Router Message Call))
    (returned : Connection → Response → Prop)
    (state : State Message Call Connection) : Prop where
  unheard : ∀ connection, state.phase connection = none →
    state.transcript connection = []
  dialogue : ∀ connection phase, state.phase connection = some phase →
    Dialogue beastVersion router (returned connection) phase
      (state.transcript connection)
  upgraded : ∀ connection, state.server.phase connection ≠ .absent ↔
    state.phase connection = some .upgraded
  server : Server.machine.Reachable state.server

theorem consistent_initial : Consistent beastVersion router returned
    (machine beastVersion router :
      Machine (State Message Call Connection) _).initial where
  unheard _ _ := rfl
  dialogue _ _ hphase := by cases hphase
  upgraded connection := by
    apply iff_of_false
    · exact fun habsent => habsent rfl
    · exact fun hphase => by cases hphase
  server := ⟨[], rfl⟩

/-- A connection goes on with its dialogue, and is not upgraded. -/
theorem Consistent.advance
    (hconsistent : Consistent beastVersion router returned state)
    {phase : Phase Call} {events : List (Event Message)}
    (hbefore : state.phase connection ≠ some .upgraded)
    (hafter : phase ≠ .upgraded)
    (hdialogue : Dialogue beastVersion router (returned connection) phase
      (state.transcript connection ++ events)) :
    Consistent beastVersion router returned
      (state.advance connection phase events) where
  unheard other hphase := by
    by_cases hsame : other = connection
    · subst hsame
      simp [State.advance] at hphase
    · simp only [State.advance, Function.update_of_ne hsame] at hphase ⊢
      exact hconsistent.unheard other hphase
  dialogue other phase' hphase := by
    by_cases hsame : other = connection
    · subst hsame
      simp only [State.advance, Function.update_self, Option.some.injEq]
        at hphase ⊢
      exact hphase ▸ hdialogue
    · simp only [State.advance, Function.update_of_ne hsame] at hphase ⊢
      exact hconsistent.dialogue other phase' hphase
  upgraded other := by
    have hother := hconsistent.upgraded other
    by_cases hsame : other = connection
    · subst hsame
      simp only [State.advance, Function.update_self, Option.some.injEq]
      rw [hother]
      exact iff_of_false hbefore hafter
    · simpa only [State.advance, Function.update_of_ne hsame] using hother
  server := hconsistent.server

theorem absent_setPhase_iff {server : Server.State Connection}
    {session other : Connection} {phase : Server.Phase}
    (hbefore : server.phase session ≠ .absent) (hafter : phase ≠ .absent) :
    (server.setPhase session phase).phase other = .absent ↔
      server.phase other = .absent := by
  by_cases hsame : other = session
  · subst hsame
    simp [Server.State.setPhase, hbefore, hafter]
  · simp [Server.State.setPhase, hsame]

theorem absent_release_iff {server : Server.State Connection}
    {session other : Connection} (hbefore : server.phase session ≠ .absent) :
    (server.release session).phase other = .absent ↔
      server.phase other = .absent := by
  rw [Server.State.release]
  split
  · by_cases hsame : other = session
    · subst hsame
      simp [Server.State.destroy, hbefore]
    · simp [Server.State.destroy, hsame]
  · exact Iff.rfl

/-- Sessions come into being by upgrades alone. -/
theorem absent_after_iff {server : Server.State Connection}
    (hconsistent : Server.Consistent server)
    {action : Server.Action Connection}
    (henabled : Server.enabled server action = true)
    (hupgrade : ∀ session, action ≠ .upgrade session) (other : Connection) :
    (server.after action).phase other = .absent ↔
      server.phase other = .absent := by
  have hlive : ∀ {session : Connection}, server.useCount session ≠ 0 →
      server.phase session ≠ .absent :=
    fun howned => ((hconsistent.owned _).mp howned).1
  cases action with
  | upgrade session => exact absurd rfl (hupgrade session)
  | onAccept session failed =>
      have haccepting : server.phase session = .accepting := by
        simpa [Server.enabled] using henabled
      have hbefore : server.phase session ≠ .absent := by
        rw [haccepting]
        decide
      have hafter : (if failed then Server.Phase.rejected else .reading) ≠
          .absent := by
        split <;> decide
      rw [Server.State.after, absent_release_iff,
        absent_setPhase_iff hbefore hafter]
      rwa [Ne, absent_setPhase_iff hbefore hafter]
  | closeRead session =>
      have hreading : server.phase session = .reading := by
        simpa [Server.enabled] using henabled
      have hbefore : server.phase session ≠ .absent := by
        rw [hreading]
        decide
      have hafter : Server.Phase.closed ≠ .absent := by decide
      rw [Server.State.after, absent_release_iff,
        absent_setPhase_iff hbefore hafter]
      rwa [Ne, absent_setPhase_iff hbefore hafter]
  | runHandler session =>
      have hbefore : server.phase session ≠ .absent := by
        apply hlive
        have hhandlers := List.length_pos_iff.mpr
          (by simpa [Server.enabled] using henabled)
        rw [Server.State.useCount, Server.State.pendingOperations]
        omega
      rw [Server.State.after, absent_release_iff,
        Server.stepQueue_phase]
      rwa [Server.stepQueue_phase]
  | onWrite session operation failed =>
      have hbefore : server.phase session ≠ .absent := by
        apply hlive
        have hoperation : operation <
            (server.queue session).outstanding.length := by
          simpa [Server.enabled] using henabled
        rw [Server.State.useCount, Server.State.pendingOperations]
        omega
      rw [Server.State.after, absent_release_iff,
        Server.stepQueue_phase]
      rwa [Server.stepQueue_phase]
  | relay session msg complete =>
      rw [Server.State.after]
      split
      · rw [Server.post_phase]
      · exact Iff.rfl
  | commandAdapter session command =>
      rw [Server.State.after]
      split
      · rw [Server.post_phase]
      · exact Iff.rfl
  | broadcastAll session msg => rw [Server.State.after, Server.post_phase]
  | broadcastToTopic topic msg => rw [Server.State.after, Server.post_phase]
  | _ => exact Iff.rfl

theorem serverConsistent {server : Server.State Connection}
    (hreach : Server.machine.Reachable server) : Server.Consistent server :=
  hreach.invariant Server.consistent_initial fun _ _ _ hconsistent hstep =>
    Server.consistent_step hconsistent hstep

/-- What a session does concerns no connection that was not upgraded. -/
theorem Consistent.session
    (hconsistent : Consistent beastVersion router returned state)
    {action : Server.Action Connection} {server : Server.State Connection}
    (hupgrade : ∀ session, action ≠ .upgrade session)
    (hstep : Server.step state.server action = some server) :
    Consistent beastVersion router returned
      { state with server := server } where
  unheard := hconsistent.unheard
  dialogue := hconsistent.dialogue
  upgraded other := by
    obtain ⟨henabled, -, rfl⟩ := Server.step_eq_some_iff.mp hstep
    have habsent := absent_after_iff (serverConsistent hconsistent.server)
      henabled hupgrade other
    rw [Ne, habsent]
    exact hconsistent.upgraded other
  server := hconsistent.server.of_step hstep

/-- The new session takes the place of the connection. -/
theorem Consistent.upgrade
    (hconsistent : Consistent beastVersion router returned state)
    (hreading : state.phase connection = some .reading)
    {incoming : Incoming Message} (hupgrade : incoming.isUpgrade = true)
    {server : Server.State Connection}
    (hstep : Server.step state.server (.upgrade connection) = some server) :
    Consistent beastVersion router returned
      { state.advance connection .upgraded [.received incoming, .upgraded] with
        server := server } where
  unheard other hphase := by
    by_cases hsame : other = connection
    · subst hsame
      simp [State.advance] at hphase
    · simp only [State.advance, Function.update_of_ne hsame] at hphase ⊢
      exact hconsistent.unheard other hphase
  dialogue other phase hphase := by
    by_cases hsame : other = connection
    · subst hsame
      have hread := hconsistent.dialogue other .reading hreading
      generalize htranscript : state.transcript other = transcript at hread
      cases hread
      simp only [State.advance, Function.update_self, Option.some.injEq,
        htranscript] at hphase ⊢
      exact hphase ▸ .upgraded hupgrade
    · simp only [State.advance, Function.update_of_ne hsame] at hphase ⊢
      exact hconsistent.dialogue other phase hphase
  upgraded other := by
    obtain ⟨-, -, rfl⟩ := Server.step_eq_some_iff.mp hstep
    by_cases hsame : other = connection
    · subst hsame
      simp [State.advance, Server.State.after, Server.State.upgrade]
    · simpa [State.advance, Server.State.after, Server.State.upgrade, hsame]
        using hconsistent.upgraded other
  server := hconsistent.server.of_step hstep

/-- An upgrade finds its connection without a session. -/
theorem Consistent.exists_upgrade
    (hconsistent : Consistent beastVersion router returned state)
    (hreading : state.phase connection = some .reading) :
    ∃ server, Server.step state.server (.upgrade connection) = some server := by
  have habsent : state.server.phase connection = .absent := by
    by_contra hpresent
    have hupgraded := (hconsistent.upgraded connection).mp hpresent
    rw [hreading] at hupgraded
    cases hupgraded
  refine ⟨_, Server.step_eq_some_iff.mpr ⟨?_, trivial, rfl⟩⟩
  simp [Server.enabled, habsent]

/-- The request is answered at once where it has no route. -/
theorem answers_of_none {incoming : Incoming Message}
    (hroute : handleRequest router incoming.request = none)
    (said : Response → Prop) :
    Answers beastVersion router said incoming
      (allowOrigin (makeNotFound beastVersion incoming.version)) := by
  rw [Answers, hroute]

theorem consistent_onRead
    (hconsistent : Consistent beastVersion router returned state)
    (hreading : state.phase connection = some .reading)
    {result : ReadResult Message}
    (hstep : onRead beastVersion router state connection result =
      some after) : Consistent beastVersion router returned after := by
  have hnotUpgraded : state.phase connection ≠ some .upgraded := by
    rw [hreading]
    simp
  have hread := hconsistent.dialogue connection .reading hreading
  generalize htranscript : state.transcript connection = transcript at hread
  cases hread
  cases result with
  | endOfStream =>
      obtain rfl := Option.some.inj hstep
      apply hconsistent.advance hnotUpgraded (by simp)
      rw [htranscript]
      exact .ended
  | failed =>
      obtain rfl := Option.some.inj hstep
      apply hconsistent.advance hnotUpgraded (by simp)
      rw [htranscript]
      exact .failed
  | received incoming =>
      rw [onRead] at hstep
      split at hstep
      · next hupgrade =>
          obtain ⟨server, hserver, rfl⟩ := Option.map_eq_some_iff.mp hstep
          exact hconsistent.upgrade hreading hupgrade hserver
      · next hupgrade =>
          have hplain : incoming.isUpgrade = false := by simpa using hupgrade
          split at hstep
          · next call hroute =>
              obtain rfl := Option.some.inj hstep
              apply hconsistent.advance hnotUpgraded (by simp)
              rw [htranscript]
              exact .handling hplain hroute
          · next hroute =>
              obtain rfl := Option.some.inj hstep
              apply hconsistent.advance hnotUpgraded (by simp)
              rw [htranscript]
              exact .writing hplain (answers_of_none hroute _)

theorem consistent_handled
    (hconsistent : Consistent beastVersion router returned state) {call : Call}
    (hhandling : state.phase connection = some (.handling call))
    {outcome : Outcome}
    (hreturns : Returns returned
      (.handled connection outcome : Action Message Connection)) :
    Consistent beastVersion router returned
      (handled state connection outcome) := by
  cases outcome with
  | threw => exact ⟨hconsistent.unheard, hconsistent.dialogue,
      hconsistent.upgraded, hconsistent.server⟩
  | returned response =>
      have hdialogue := hconsistent.dialogue connection _ hhandling
      generalize htranscript : state.transcript connection = transcript
        at hdialogue
      cases hdialogue with
      | handling hplain hroute =>
          apply hconsistent.advance (by rw [hhandling]; simp) (by simp)
          rw [htranscript]
          refine .writing hplain ?_
          rw [Answers, hroute]
          exact ⟨response, hreturns, rfl⟩

theorem next_session {action : Server.Action Connection}
    (hupgrade : ∀ session, action ≠ .upgrade session) :
    next beastVersion router state (.session action) =
      (Server.step state.server action).map fun server =>
        { state with server := server } := by
  cases action with
  | upgrade session => exact absurd rfl (hupgrade session)
  | _ => rfl

theorem consistent_step
    (hconsistent : Consistent beastVersion router returned state)
    {action : Action Message Connection} (hreturns : Returns returned action)
    (hstep : step beastVersion router state action = some after) :
    Consistent beastVersion router returned after := by
  rw [step] at hstep
  split at hstep
  · cases hstep
  cases action with
  | signal =>
      obtain rfl := Option.some.inj hstep
      exact ⟨hconsistent.unheard, hconsistent.dialogue, hconsistent.upgraded,
        hconsistent.server⟩
  | onAccept result =>
      rw [next, Option.ite_none_right_eq_some] at hstep
      obtain ⟨-, hstep⟩ := hstep
      cases result with
      | failed error =>
          obtain rfl := Option.some.inj hstep
          exact ⟨hconsistent.unheard, hconsistent.dialogue,
            hconsistent.upgraded, hconsistent.server⟩
      | accepted connection =>
          rw [onAccept, Option.ite_none_right_eq_some] at hstep
          obtain ⟨hfresh, hstep⟩ := hstep
          obtain rfl := Option.some.inj hstep
          have hnone := Option.isNone_iff_eq_none.mp hfresh
          apply hconsistent.advance (by rw [hnone]; simp) (by simp)
          rw [hconsistent.unheard connection hnone]
          exact .created
  | doRead connection =>
      rw [next] at hstep
      split at hstep
      · next hphase =>
          obtain rfl := Option.some.inj hstep
          have hdialogue := hconsistent.dialogue connection _ hphase
          generalize htranscript : state.transcript connection = transcript
            at hdialogue
          cases hdialogue
          apply hconsistent.advance (by rw [hphase]; simp) (by simp)
          rw [htranscript]
          exact .reading
      · cases hstep
  | onRead connection result =>
      rw [next] at hstep
      split at hstep
      · next hreading => exact consistent_onRead hconsistent hreading hstep
      · cases hstep
  | handled connection outcome =>
      rw [next] at hstep
      split at hstep
      · next hhandling =>
          obtain rfl := Option.some.inj hstep
          exact consistent_handled hconsistent hhandling hreturns
      · cases hstep
  | onWrite connection failed =>
      rw [next] at hstep
      split at hstep
      · next hwriting =>
          obtain rfl := Option.some.inj hstep
          have hdialogue := hconsistent.dialogue connection _ hwriting
          generalize htranscript : state.transcript connection = transcript
            at hdialogue
          cases hdialogue with
          | writing hplain hanswers =>
              apply hconsistent.advance (by rw [hwriting]; simp) (by simp)
              rw [htranscript]
              exact .answered hplain hanswers
      · cases hstep
  | session action =>
      cases action with
      | upgrade session => cases hstep
      | _ =>
          rw [next_session (by simp)] at hstep
          obtain ⟨server, hserver, rfl⟩ := Option.map_eq_some_iff.mp hstep
          exact hconsistent.session (by simp) hserver

/-! ## Every connection is served once -/

def Event.isRead : Event Message → Bool
  | .asyncRead => true
  | _ => false

def Event.isWrite : Event Message → Bool
  | .asyncWrite _ => true
  | _ => false

/-- What a run has done on one connection. -/
structure Served (beastVersion : String) (router : Option (Router Message Call))
    (returned : Response → Prop) (connection : Connection)
    (state : State Message Call Connection) : Prop where
  oneRead : (state.transcript connection).countP Event.isRead ≤ 1
  oneWrite : (state.transcript connection).countP Event.isWrite ≤ 1
  written : ∀ response, .asyncWrite response ∈ state.transcript connection →
    ∃ incoming, .received incoming ∈ state.transcript connection ∧
      incoming.isUpgrade = false ∧
      Answers beastVersion router returned incoming response
  shutdown : .shutdownSend ∈ state.transcript connection →
    (state.transcript connection).getLast? = some .shutdownSend ∧
      state.phase connection = some .closed
  upgraded : .upgraded ∈ state.transcript connection ↔
    state.server.phase connection ≠ .absent
  unanswered : .upgraded ∈ state.transcript connection →
    (state.transcript connection).countP Event.isWrite = 0 ∧
      .shutdownSend ∉ state.transcript connection

theorem Consistent.served
    (hconsistent : Consistent beastVersion router returned state)
    (connection : Connection) :
    Served beastVersion router (returned connection) connection state := by
  have hunheard := hconsistent.unheard connection
  have hdialogue := hconsistent.dialogue connection
  have hupgraded := hconsistent.upgraded connection
  generalize htranscript : state.transcript connection = transcript
    at hunheard hdialogue
  cases hphase : state.phase connection with
  | none =>
      obtain rfl := hunheard hphase
      constructor <;> simp [htranscript, hupgraded, hphase]
  | some phase =>
      have hsaid := hdialogue phase hphase
      cases hsaid with
      | writing hplain hanswers =>
          constructor <;>
            simp [htranscript, hupgraded, hphase, List.countP_cons,
              Event.isRead, Event.isWrite, hplain, hanswers]
      | answered hplain hanswers =>
          constructor <;>
            simp [htranscript, hupgraded, hphase, List.countP_cons,
              Event.isRead, Event.isWrite, hplain, hanswers]
      | _ =>
          constructor <;>
            simp [htranscript, hupgraded, hphase, List.countP_cons,
              Event.isRead, Event.isWrite]

/-- Whether the listener has met a fatal error. -/
def Action.isFatal : Action Message Connection → Bool
  | .onAccept (.failed error) => error.isFatal
  | _ => false

theorem onRead_accepting {result : ReadResult Message}
    (hstep : onRead beastVersion router state connection result =
      some after) : after.accepting = state.accepting := by
  cases result with
  | received incoming =>
      rw [onRead] at hstep
      split at hstep
      · obtain ⟨server, -, rfl⟩ := Option.map_eq_some_iff.mp hstep
        rfl
      · split at hstep
        · obtain rfl := Option.some.inj hstep
          rfl
        · obtain rfl := Option.some.inj hstep
          rfl
  | _ =>
      obtain rfl := Option.some.inj hstep
      rfl

theorem accepting_step {action : Action Message Connection}
    (hstep : step beastVersion router state action = some after) :
    after.accepting = (state.accepting && !action.isFatal) := by
  rw [step] at hstep
  split at hstep
  · cases hstep
  cases action with
  | onAccept result =>
      rw [next, Option.ite_none_right_eq_some] at hstep
      obtain ⟨haccepting, hstep⟩ := hstep
      cases result with
      | failed error =>
          obtain rfl := Option.some.inj hstep
          rw [haccepting, Bool.true_and]
          rfl
      | accepted connection =>
          rw [onAccept, Option.ite_none_right_eq_some] at hstep
          obtain rfl := Option.some.inj hstep.2
          exact (Bool.and_true _).symm
  | onRead connection result =>
      rw [next] at hstep
      split at hstep
      · rw [onRead_accepting hstep]
        exact (Bool.and_true _).symm
      · cases hstep
  | handled connection outcome =>
      rw [next] at hstep
      split at hstep
      · obtain rfl := Option.some.inj hstep
        cases outcome with
        | returned response => exact (Bool.and_true _).symm
        | threw => exact (Bool.and_true _).symm
      · cases hstep
  | session action =>
      cases action with
      | upgrade session => cases hstep
      | _ =>
          rw [next_session (by simp)] at hstep
          obtain ⟨server, -, rfl⟩ := Option.map_eq_some_iff.mp hstep
          exact (Bool.and_true _).symm
  | signal =>
      obtain rfl := Option.some.inj hstep
      exact (Bool.and_true _).symm
  | _ =>
      rw [next] at hstep
      split at hstep
      · obtain rfl := Option.some.inj hstep
        exact (Bool.and_true _).symm
      · cases hstep

theorem accepting_run {actions : List (Action Message Connection)}
    (hrun : (machine beastVersion router).run state actions = some after) :
    after.accepting =
      (state.accepting && actions.all fun action => !action.isFatal) := by
  induction actions generalizing state with
  | nil =>
      obtain rfl : state = after := by simpa using hrun
      simp
  | cons action actions ih =>
      obtain ⟨next, hstep, hrest⟩ := Machine.exists_of_run_cons hrun
      rw [ih hrest, accepting_step hstep, List.all_cons, Bool.and_assoc]

/-- What the handlers called for a connection returned in a run. -/
def ReturnedIn (actions : List (Action Message Connection))
    (connection : Connection) (response : Response) : Prop :=
  .handled connection (.returned response) ∈ actions

theorem consistent_of_run {actions : List (Action Message Connection)}
    {final : State Message Call Connection}
    (hrun : (machine beastVersion router).run
      (machine beastVersion router).initial actions = some final) :
    Consistent beastVersion router (ReturnedIn actions) final := by
  have hpreserve : ∀ (state : State Message Call Connection)
      (action : Action Message Connection) (next),
      Consistent beastVersion router (ReturnedIn actions) state →
      Returns (ReturnedIn actions) action →
      (machine beastVersion router).step state action = some next →
      Consistent beastVersion router (ReturnedIn actions) next :=
    fun _ _ _ hstate hreturns hstep => consistent_step hstate hreturns hstep
  have hreturned : ∀ action ∈ actions,
      ∀ _ : State Message Call Connection,
        Returns (ReturnedIn actions) action := by
    intro action hmem state
    cases action with
    | handled connection outcome =>
        cases outcome with
        | returned response => exact hmem
        | threw => trivial
    | _ => trivial
  have hfinal := Machine.invariant_along hpreserve consistent_initial
    (Machine.along_of_forall hreturned _) hrun
  exact hfinal

end Runs

/-! ## One connection of each kind -/

def health : Request Unit := ⟨"GET", "/health", ()⟩

def twoClients : List (Action Unit ℕ) :=
  [.onAccept (.accepted 1), .onAccept (.failed .other),
    .onAccept (.accepted 2), .doRead 1, .doRead 2,
    .onRead 1 (.received ⟨health, 11, true⟩),
    .onRead 2 (.received ⟨health, 11, false⟩),
    .session (.onAccept 1 false), .onWrite 2 false]

end Datafeed.HttpSession
