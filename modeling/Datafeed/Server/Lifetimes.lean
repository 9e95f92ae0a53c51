import Datafeed.Server.Delivery
import Mathlib.Data.List.TakeWhile

/-!
# Sessions between constructor and destructor

A session is registered by its constructor, before `make_shared` has an owner
for it, and removed by its destructor, after the last owner has let go.  A
broadcast that finds it in between calls `send_message` on it all the same;
`shared_from_this` throws, and the exception leaves the loop.  Here the ends of
a session are steps of their own, which the steps of other sessions may come
between.  As long as no broadcast finds a session without an owner, the server
is the hub that it is when both ends are taken as one step; and every run of
that coarser server is such a run of this one.

The loop of a broadcast holds the mutex of the registry and is one step.  The
broadcasts of a relay may be one step or, where the steps of other sessions come
between, a step each.
-/

namespace Datafeed.Server.Lifetimes

open SessionManager PubSub

variable {Session : Type} [DecidableEq Session]

/-- The server, and the sessions that are in their constructor. -/
structure State (Session : Type) where
  server : Server.State Session := {}
  constructing : Session → Bool := fun _ => false

inductive Action (Session : Type)
  /-- The constructor, which registers the session. -/
  | construct (session : Session)
  /-- `make_shared` returns the first owner, and `do_accept` follows. -/
  | publish (session : Session)
  /-- A completion handler, or a call of `on_read`; an owner that lets go at its
  end may have been the last. -/
  | act (action : Server.Action Session)
  /-- The destructor of a session without an owner. -/
  | destruct (session : Session)
  deriving DecidableEq

namespace State

def Owned (state : State Session) (session : Session) : Prop :=
  state.constructing session = false ∧ state.server.useCount session ≠ 0

instance (state : State Session) : DecidablePred state.Owned :=
  fun _ => inferInstanceAs (Decidable (_ ∧ _))

/-- The calls of `send_message` that a broadcast makes, one for each session that
it finds. -/
def broadcastCalls (state : State Session) :
    Server.Action Session → List (Session × String)
  | .relay session msg complete =>
      if state.server.adapterSession = some session then
        relayMessages msg complete state.server.manager
      else []
  | .broadcastAll _ msg => state.server.manager.broadcastAll msg
  | .broadcastToTopic topic msg => state.server.manager.broadcastToTopic topic msg
  | _ => []

/-- The loop of a broadcast, which ends where `shared_from_this` throws. -/
def broadcast (state : State Session) (action : Server.Action Session) :
    Server.State Session :=
  state.server.post
    ((state.broadcastCalls action).takeWhile fun call => state.Owned call.1)

/-- The server after an action, before the destructor that may follow it. -/
def perform (state : State Session) (action : Server.Action Session) :
    Server.State Session :=
  match action with
  | .onAccept session failed =>
      state.server.setPhase session (if failed then .rejected else .reading)
  | .closeRead session => state.server.setPhase session .closed
  | .runHandler session => state.server.stepQueue session .runHandler
  | .onWrite session operation failed =>
      state.server.stepQueue session (.onWrite operation failed)
  | .relay _ _ _ | .broadcastAll _ _ | .broadcastToTopic _ _ =>
      state.broadcast action
  | _ => state.server.after action

/-- Nothing of a session runs in its constructor, and no upgrade is one step. -/
def Ready (state : State Session) : Server.Action Session → Prop
  | .upgrade _ => False
  | .onAccept session _ | .runHandler session | .onWrite session _ _ =>
      state.constructing session = false
  | _ => True

instance (state : State Session) : DecidablePred state.Ready :=
  fun action => match action with
    | .upgrade _ => inferInstanceAs (Decidable False)
    | .onAccept _ _ | .runHandler _ | .onWrite _ _ _ =>
        inferInstanceAs (Decidable (_ = _))
    | .closeRead _ | .registerAdapter _ | .relay _ _ _ | .broadcastAll _ _
    | .setClientMode _ _ _ | .commandAdapter _ _ | .addClientTopics _ _
    | .broadcastToTopic _ _ => inferInstanceAs (Decidable True)

end State

/-- As in the coarser machine, an action that waits for itself has no
successor. -/
def step (state : State Session) : Action Session → Option (State Session)
  | .construct session =>
      if state.server.phase session = .absent then
        some
          { server := state.server.upgrade session
            constructing := Function.update state.constructing session true }
      else none
  | .publish session =>
      if state.constructing session then
        some { state with
          constructing := Function.update state.constructing session false }
      else none
  | .act action =>
      if state.Ready action then
        (Server.step state.server action).map fun _ =>
          { state with server := state.perform action }
      else none
  | .destruct session =>
      if (state.server.phase session).Live ∧
          state.constructing session = false ∧
          state.server.useCount session = 0 then
        some { state with server := state.server.destroy session }
      else none

def machine : Machine (State Session) (Action Session) where
  initial := {}
  step := step

/-- A broadcast finds no session that is in its constructor or waits for its
destructor. -/
def Undisturbed (state : State Session) : Action Session → Prop
  | .act action => ∀ call ∈ state.broadcastCalls action, state.Owned call.1
  | _ => True

instance (state : State Session) : DecidablePred (Undisturbed state) :=
  fun action => match action with
    | .act action => inferInstanceAs
        (Decidable (∀ call ∈ state.broadcastCalls action, state.Owned call.1))
    | .construct _ | .publish _ | .destruct _ =>
        inferInstanceAs (Decidable True)

theorem step_act_eq_some_iff {state next : State Session}
    {action : Server.Action Session} :
    step state (.act action) = some next ↔
      state.Ready action ∧ enabled state.server action = true ∧
        ReplacedIsPending state.server action ∧
        next = { state with server := state.perform action } := by
  simp only [step, Option.ite_none_right_eq_some, Option.map_eq_some_iff,
    Server.step_eq_some_iff]
  constructor
  · rintro ⟨hready, _, ⟨henabled, hpending, -⟩, rfl⟩
    exact ⟨hready, henabled, hpending, rfl⟩
  · rintro ⟨hready, henabled, hpending, rfl⟩
    exact ⟨hready, _, ⟨henabled, hpending, rfl⟩, rfl⟩

/-! ## The invariant -/

/-- The sessions as the registry and the adapter know them.  A session that is
registered may have lost its last owner. -/
structure Registered (server : Server.State Session) : Prop where
  indexed : Indexed server.manager
  registered : ∀ session,
    session ∈ server.manager.clients ↔ (server.phase session).Live
  owned : ∀ session, server.useCount session ≠ 0 →
    (server.phase session).Live
  listed : ∀ topic session, session ∈ server.manager.topicSubscribers topic →
    (server.phase session).Accepted
  adapter : ∀ session, server.adapterSession = some session →
    (server.phase session).Accepted

structure Consistent (state : State Session) : Prop
    extends Registered state.server where
  constructing : ∀ session, state.constructing session = true →
    state.server.phase session = .accepting

theorem consistent_initial :
    Consistent (machine : Machine (State Session) (Action Session)).initial
    where
  indexed := Server.consistent_initial.indexed
  registered := Server.consistent_initial.registered
  owned session := (Server.consistent_initial.owned session).mp
  listed := Server.consistent_initial.listed
  adapter := Server.consistent_initial.adapter
  constructing _ hconstructing := nomatch hconstructing

section Registered

variable {server : Server.State Session} {session : Session}

theorem Registered.upgrade (hregistered : Registered server)
    (habsent : server.phase session = .absent) :
    Registered (server.upgrade session) where
  indexed := by
    apply hregistered.indexed.addClient
    intro hmem
    exact ((hregistered.registered session).mp hmem).1 habsent
  registered other := by
    by_cases hsame : other = session
    · simp [State.upgrade, hsame, Phase.Live]
    · simp [State.upgrade, hsame, hregistered.registered other]
  owned other := by
    by_cases hsame : other = session
    · simp [State.upgrade, hsame, Phase.Live]
    · have hphase : (server.upgrade session).phase other =
          server.phase other := by
        simp [State.upgrade, hsame]
      rw [useCount_congr hphase rfl rfl, hphase]
      exact hregistered.owned other
  listed topic other hlisted := by
    have haccepted := hregistered.listed topic other hlisted
    have hsame : other ≠ session := by
      rintro rfl
      exact haccepted.live.1 habsent
    simpa [State.upgrade, hsame] using haccepted
  adapter other hadapter := by
    have haccepted := hregistered.adapter other hadapter
    have hsame : other ≠ session := by
      rintro rfl
      exact haccepted.live.1 habsent
    simpa [State.upgrade, hsame] using haccepted

/-- A session may enter a phase of an existing session. -/
theorem Registered.setPhase (hregistered : Registered server) {phase : Phase}
    (hbefore : (server.phase session).Live) (hlive : phase.Live)
    (haccepted : (server.phase session).Accepted → phase.Accepted) :
    Registered (server.setPhase session phase) := by
  have hkept : ∀ other, (server.phase other).Live →
      ((server.setPhase session phase).phase other).Live := by
    intro other hother
    by_cases hsame : other = session
    · simpa [State.setPhase, hsame] using hlive
    · simpa [State.setPhase, hsame] using hother
  have hstill : ∀ other, (server.phase other).Accepted →
      ((server.setPhase session phase).phase other).Accepted := by
    intro other hother
    by_cases hsame : other = session
    · subst hsame
      simpa [State.setPhase] using haccepted hother
    · simpa [State.setPhase, hsame] using hother
  refine ⟨hregistered.indexed, fun other => ?_, fun other howned => ?_,
    fun topic other hlisted => hstill other (hregistered.listed topic other
      hlisted),
    fun other hadapter => hstill other (hregistered.adapter other hadapter)⟩
  · refine (hregistered.registered other).trans ⟨hkept other, fun hother => ?_⟩
    by_cases hsame : other = session
    · exact hsame ▸ hbefore
    · simpa [State.setPhase, hsame] using hother
  · by_cases hsame : other = session
    · exact hkept other (hsame ▸ hbefore)
    · have hphase : (server.setPhase session phase).phase other =
          server.phase other := by
        simp [State.setPhase, hsame]
      rw [useCount_congr hphase rfl rfl] at howned
      exact hkept other (hregistered.owned other howned)

theorem Registered.stepQueue (hregistered : Registered server)
    (hlive : (server.phase session).Live)
    (action : WriteQueue.Action String) :
    Registered (server.stepQueue session action) := by
  refine ⟨?_, ?_, fun other howned => ?_, ?_, ?_⟩
  · simpa using hregistered.indexed
  · simpa using hregistered.registered
  · rw [stepQueue_phase]
    by_cases hsame : other = session
    · exact hsame ▸ hlive
    · rw [useCount_congr (congrFun (stepQueue_phase ..) other)
        (stepQueue_queue_of_ne hsame action)
        (stepQueue_adapterSession ..)] at howned
      exact hregistered.owned other howned
  · simpa using hregistered.listed
  · simpa using hregistered.adapter

/-- A message is only posted to sessions that exist. -/
theorem Registered.post (hregistered : Registered server)
    {calls : List (Session × String)}
    (hlive : ∀ call ∈ calls, (server.phase call.1).Live) :
    Registered (server.post calls) := by
  induction calls generalizing server with
  | nil => exact hregistered
  | cons call calls ih =>
      have hsent : Registered (server.sendMessage call) := by
        refine ⟨hregistered.indexed, hregistered.registered,
          fun other howned => ?_, hregistered.listed, hregistered.adapter⟩
        by_cases hsame : other = call.1
        · exact hsame ▸ hlive call List.mem_cons_self
        · have hqueue : (server.sendMessage call).queue other =
              server.queue other := Function.update_of_ne hsame _ _
          have howners : (server.sendMessage call).useCount other =
              server.useCount other := useCount_congr rfl hqueue rfl
          rw [howners] at howned
          exact hregistered.owned other howned
      exact ih hsent fun other hother =>
        hlive other (List.mem_cons_of_mem _ hother)

theorem Registered.setAdapter (hregistered : Registered server)
    (haccepted : (server.phase session).Accepted) :
    Registered (server.setAdapter session) := by
  refine ⟨hregistered.indexed, hregistered.registered, fun other howned => ?_,
    hregistered.listed, fun other hadapter => ?_⟩
  · by_cases hsame : session = other
    · exact hsame ▸ haccepted.live
    · rw [useCount_setAdapter, if_neg hsame, Nat.add_zero] at howned
      apply hregistered.owned other
      rw [State.useCount]
      omega
  · obtain rfl := Option.some.inj hadapter
    exact haccepted

theorem Registered.setClientMode (hregistered : Registered server)
    (session : Session) (mode date : String) :
    Registered { server with
      manager := server.manager.setClientMode session mode date } where
  indexed := hregistered.indexed.setClientMode session mode date
  registered other := by simpa using hregistered.registered other
  owned := hregistered.owned
  listed topic other hlisted := by
    apply hregistered.listed topic other
    rwa [topicSubscribers_setClientMode] at hlisted
  adapter := hregistered.adapter

theorem Registered.addClientTopics (hregistered : Registered server)
    (haccepted : (server.phase session).Accepted) (topics : List String) :
    Registered { server with
      manager := server.manager.addClientTopics session topics } where
  indexed := hregistered.indexed.addClientTopics session topics
  registered other := by simpa using hregistered.registered other
  owned := hregistered.owned
  listed topic other hlisted := by
    have hmem := (hregistered.registered session).mpr haccepted.live
    obtain ⟨info, hlookup⟩ :=
      Option.isSome_iff_exists.mp (AList.lookup_isSome.mpr hmem)
    rcases (mem_topicSubscribers_addClientTopics hlookup).mp hlisted with
      hbefore | ⟨-, rfl⟩
    · exact hregistered.listed topic other hbefore
    · exact haccepted
  adapter := hregistered.adapter

theorem Registered.destroy (hregistered : Registered server)
    (hunowned : server.useCount session = 0) :
    Registered (server.destroy session) := by
  have hadapter := adapterSession_ne_of_unowned hunowned
  have hkept : ∀ other, other ≠ session →
      (server.destroy session).phase other = server.phase other :=
    fun other hother => Function.update_of_ne hother _ _
  refine ⟨hregistered.indexed.removeClient session, fun other => ?_,
    fun other howned => ?_, fun topic other hlisted => ?_,
    fun other hother => ?_⟩
  · by_cases hsame : other = session
    · simp [State.destroy, hsame, Phase.Live]
    · simp [State.destroy, hsame, hregistered.registered other]
  · have hsame : other ≠ session := by
      rintro rfl
      exact howned (useCount_destroy_self hunowned)
    rw [useCount_destroy hadapter hsame] at howned
    rw [hkept other hsame]
    exact hregistered.owned other howned
  · have hremaining :=
      (hregistered.indexed.removeClient session).registered hlisted
    have hsame : other ≠ session := (mem_clients_removeClient.mp hremaining).1
    rw [hkept other hsame]
    exact hregistered.listed topic other
      (mem_topicSubscribers_of_removeClient hlisted)
  · have hbefore : server.adapterSession = some other := by
      simpa [State.destroy, hadapter] using hother
    have hsame : other ≠ session := by
      rintro rfl
      exact hadapter hbefore
    rw [hkept other hsame]
    exact hregistered.adapter other hbefore

end Registered

theorem State.Owned.live {state : State Session}
    (hconsistent : Consistent state) {session : Session}
    (howned : state.Owned session) : (state.server.phase session).Live :=
  hconsistent.owned session howned.2

theorem registered_broadcast {state : State Session}
    (hconsistent : Consistent state) (action : Server.Action Session) :
    Registered (state.broadcast action) := by
  apply hconsistent.toRegistered.post
  intro call hcall
  have howned := List.mem_takeWhile_imp hcall
  exact State.Owned.live hconsistent (of_decide_eq_true howned)

theorem registered_perform {state : State Session}
    (hconsistent : Consistent state) {action : Server.Action Session}
    (hready : state.Ready action)
    (henabled : enabled state.server action = true) :
    Registered (state.perform action) := by
  have hregistered := hconsistent.toRegistered
  cases action with
  | upgrade session => exact hready.elim
  | onAccept session failed =>
      have hphase : state.server.phase session = .accepting := by
        simpa [enabled] using henabled
      apply hregistered.setPhase
      · rw [hphase]
        decide
      · cases failed <;> decide
      · rw [hphase]
        rintro (hreading | hclosed)
        · cases hreading
        · cases hclosed
  | closeRead session =>
      have hphase : state.server.phase session = .reading := by
        simpa [enabled] using henabled
      apply hregistered.setPhase
      · rw [hphase]
        decide
      · decide
      · exact fun _ => Or.inr rfl
  | registerAdapter session =>
      exact hregistered.setAdapter (Or.inl (by simpa [enabled] using henabled))
  | relay session msg complete => exact registered_broadcast hconsistent _
  | broadcastAll session msg => exact registered_broadcast hconsistent _
  | setClientMode session mode date =>
      exact hregistered.setClientMode session mode date
  | commandAdapter session command =>
      change Registered (state.server.after (.commandAdapter session command))
      rw [State.after]
      split
      · next adapter hadapter =>
          apply hregistered.post
          intro call hcall
          rw [List.mem_singleton.mp hcall]
          exact (hregistered.adapter adapter hadapter).live
      · exact hregistered
  | addClientTopics session topics =>
      exact hregistered.addClientTopics
        (Or.inl (by simpa [enabled] using henabled)) topics
  | broadcastToTopic topic msg => exact registered_broadcast hconsistent _
  | runHandler session =>
      apply hregistered.stepQueue
      apply hregistered.owned session
      have hhandlers : (state.server.queue session).handlers ≠ [] := by
        simpa [enabled] using henabled
      have hlength := List.length_pos_iff.mpr hhandlers
      rw [State.useCount, State.pendingOperations]
      omega
  | onWrite session operation failed =>
      apply hregistered.stepQueue
      apply hregistered.owned session
      have hlength :
          operation < (state.server.queue session).outstanding.length := by
        simpa [enabled] using henabled
      rw [State.useCount, State.pendingOperations]
      omega

/-- No action changes the phase of a session in its constructor. -/
theorem phase_perform {state : State Session} {action : Server.Action Session}
    (hready : state.Ready action)
    (henabled : enabled state.server action = true) {session : Session}
    (hconstructing : state.constructing session = true)
    (hphase : state.server.phase session = .accepting) :
    (state.perform action).phase session = .accepting := by
  cases action with
  | upgrade other => exact hready.elim
  | onAccept other failed =>
      have hother : session ≠ other := by
        rintro rfl
        rw [State.Ready, hconstructing] at hready
        cases hready
      simpa [State.perform, State.setPhase, hother] using hphase
  | closeRead other =>
      have hother : session ≠ other := by
        rintro rfl
        simp [enabled, hphase] at henabled
      simpa [State.perform, State.setPhase, hother] using hphase
  | commandAdapter other command =>
      change (state.server.after (.commandAdapter other command)).phase session
        = .accepting
      rw [State.after]
      split
      · rw [post_phase]
        exact hphase
      · exact hphase
  | relay other msg complete =>
      simpa [State.perform, State.broadcast] using hphase
  | broadcastAll other msg =>
      simpa [State.perform, State.broadcast] using hphase
  | broadcastToTopic topic msg =>
      simpa [State.perform, State.broadcast] using hphase
  | runHandler other => simpa [State.perform] using hphase
  | onWrite other operation failed => simpa [State.perform] using hphase
  | registerAdapter other => exact hphase
  | setClientMode other mode date => exact hphase
  | addClientTopics other topics => exact hphase

theorem consistent_step {state next : State Session} {action : Action Session}
    (hconsistent : Consistent state) (hstep : step state action = some next) :
    Consistent next := by
  cases action with
  | construct session =>
      simp only [step, Option.ite_none_right_eq_some] at hstep
      obtain ⟨habsent, hstep⟩ := hstep
      obtain rfl := Option.some.inj hstep
      refine ⟨hconsistent.toRegistered.upgrade habsent, ?_⟩
      intro other hother
      by_cases hsame : other = session
      · simp [State.upgrade, hsame]
      · have hbefore := hconsistent.constructing other
          (by simpa [hsame] using hother)
        simpa [State.upgrade, hsame] using hbefore
  | publish session =>
      simp only [step, Option.ite_none_right_eq_some] at hstep
      obtain ⟨-, hstep⟩ := hstep
      obtain rfl := Option.some.inj hstep
      refine ⟨hconsistent.toRegistered, fun other hother => ?_⟩
      have hsame : other ≠ session := by
        rintro rfl
        simp at hother
      exact hconsistent.constructing other (by simpa [hsame] using hother)
  | act action =>
      obtain ⟨hready, henabled, -, rfl⟩ := step_act_eq_some_iff.mp hstep
      exact ⟨registered_perform hconsistent hready henabled,
        fun other hother => phase_perform hready henabled hother
          (hconsistent.constructing other hother)⟩
  | destruct session =>
      simp only [step, Option.ite_none_right_eq_some] at hstep
      obtain ⟨⟨-, hbuilt, hunowned⟩, hstep⟩ := hstep
      obtain rfl := Option.some.inj hstep
      refine ⟨hconsistent.toRegistered.destroy hunowned,
        fun other hother => ?_⟩
      have hsame : other ≠ session := by
        rintro rfl
        rw [hbuilt] at hother
        cases hother
      have hphase := hconsistent.constructing other hother
      simpa [State.destroy, hsame] using hphase

/-! ## The hub of the owned sessions -/

def ownedSessions (state : State Session) : Set Session :=
  {session | state.Owned session}

/-- A session is present while it has an owner. -/
noncomputable def hub (state : State Session) : Hub Session String String :=
  (Server.hub state.server).restrict (ownedSessions state)

/-- What an action means to the hub. -/
def events (state : State Session) :
    Action Session → List (Event Session String String)
  | .construct _ | .destruct _ => []
  | .publish session => [.join session]
  | .act action => Server.events state.server action

theorem online_of_owned {state : State Session}
    (hconsistent : Consistent state) {session : Session}
    (howned : state.Owned session) : session ∈ (hub state).online :=
  ⟨(hconsistent.registered session).mpr (howned.live hconsistent), howned⟩

/-- The hub changes as the server does, if the owned sessions stay the same. -/
theorem hub_setServer {state : State Session} {server : Server.State Session}
    (howners : ∀ session, state.constructing session = false →
      (server.useCount session ≠ 0 ↔ state.server.useCount session ≠ 0)) :
    hub { state with server := server } =
      (Server.hub server).restrict (ownedSessions state) := by
  have hsame : ownedSessions { state with server := server } =
      ownedSessions state :=
    Set.ext fun session => and_congr_right (howners session)
  rw [hub, hsame]

theorem run_departure {state : State Session} (hconsistent : Consistent state)
    {server : Server.State Session} {session : Session}
    (howned : state.Owned session)
    (hhub : Server.hub server = Server.hub state.server)
    (hothers : ∀ other, other ≠ session →
      server.useCount other = state.server.useCount other) :
    PubSub.machine.run (hub state) (departure session server) =
      some (hub { state with server := server }) := by
  rw [departure]
  split
  · next hunowned =>
      have hless : ownedSessions { state with server := server } =
          ownedSessions state \ {session} := by
        ext other
        by_cases hsame : other = session
        · simp [ownedSessions, State.Owned, hsame, hunowned]
        · simp [ownedSessions, State.Owned, hsame, hothers other hsame]
      have hleft : (hub state).after (.leave session) =
          hub { state with server := server } := by
        rw [hub, hub, hless, hhub, Hub.restrict_diff]
      exact Machine.run_singleton (PubSub.step_eq_some_iff.mpr
        ⟨online_of_owned hconsistent howned, hleft⟩)
  · next hstill =>
      have hkept : hub { state with server := server } = hub state := by
        rw [hub_setServer, hhub, hub]
        intro other _
        by_cases hsame : other = session
        · exact iff_of_true (hsame ▸ hstill) (hsame ▸ howned.2)
        · rw [hothers other hsame]
      rw [hkept]
      rfl

/-! ## Posting to owned sessions -/

theorem useCount_post (server : Server.State Session)
    (calls : List (Session × String)) (session : Session) :
    (server.post calls).useCount session =
      server.useCount session + (messagesFor session calls).length := by
  simp only [State.useCount, State.pendingOperations, post_queue, post_phase,
    post_adapterSession, List.length_append]
  omega

/-- A session with an owner is given no first one. -/
theorem useCount_post_ne_zero_iff {server : Server.State Session}
    {calls : List (Session × String)}
    (howned : ∀ call ∈ calls, server.useCount call.1 ≠ 0)
    (session : Session) :
    (server.post calls).useCount session ≠ 0 ↔
      server.useCount session ≠ 0 := by
  rw [useCount_post]
  refine ⟨fun hmore hnone => ?_, fun hbefore => by omega⟩
  cases hmessages : messagesFor session calls with
  | nil => exact hmore (by rw [hnone, hmessages]; rfl)
  | cons message messages =>
      have hmem : message ∈ messagesFor session calls := by
        rw [hmessages]
        exact List.mem_cons_self
      obtain ⟨call, hcall, -⟩ := List.mem_map.mp hmem
      obtain ⟨hposted, hsession⟩ := List.mem_filter.mp hcall
      exact howned call hposted (of_decide_eq_true hsession ▸ hnone)

/-- Undisturbed, a broadcast makes all its calls. -/
theorem broadcast_of_undisturbed {state : State Session}
    {action : Server.Action Session}
    (hundisturbed : Undisturbed state (.act action)) :
    state.broadcast action =
      state.server.post (state.broadcastCalls action) := by
  rw [State.broadcast, List.takeWhile_eq_self_iff.mpr]
  exact fun call hcall => decide_eq_true (hundisturbed call hcall)

theorem hub_post {state : State Session} {calls : List (Session × String)}
    (howned : ∀ call ∈ calls, state.Owned call.1) :
    hub { state with server := state.server.post calls } =
      (Server.hub (state.server.post calls)).restrict (ownedSessions state) :=
  hub_setServer fun session _ =>
    useCount_post_ne_zero_iff (fun call hcall => (howned call hcall).2) session

/-- The subscribers of a topic that a message is broadcast to are owned. -/
theorem subscribed_owned {state : State Session} {topic msg : String}
    (howned : ∀ call ∈ state.server.manager.broadcastToTopic topic msg,
      state.Owned call.1) (session : Session)
    (hsubscribed : topic ∈ (Server.hub state.server).subscribed session) :
    session ∈ ownedSessions state :=
  howned (session, msg)
    (mem_broadcastToTopic.mpr ⟨hub_subscribed_iff.mp hsubscribed, rfl⟩)

theorem run_publish {state : State Session}
    (hindexed : Indexed state.server.manager) {topics : List String}
    {msg : String}
    (howned : ∀ call ∈ topics.flatMap fun topic =>
      state.server.manager.broadcastToTopic topic msg, state.Owned call.1) :
    PubSub.machine.run (hub state)
        (topics.map fun topic => .publish topic msg) =
      some (hub { state with
        server := state.server.post (topics.flatMap fun topic =>
          state.server.manager.broadcastToTopic topic msg) }) := by
  induction topics generalizing state with
  | nil => rfl
  | cons topic topics ih =>
      let calls := state.server.manager.broadcastToTopic topic msg
      let posted : State Session :=
        { state with server := state.server.post calls }
      rw [List.flatMap_cons, List.forall_mem_append] at howned
      have hposted : hub posted = (hub state).after (.publish topic msg) := by
        rw [hub_post howned.1, hub_broadcastToTopic hindexed,
          Hub.restrict_after_publish (subscribed_owned howned.1)]
        rfl
      have hmanager : posted.server.manager = state.server.manager :=
        post_manager ..
      have hstep : PubSub.machine.step (hub state) (.publish topic msg) =
          some (hub posted) :=
        PubSub.step_eq_some_iff.mpr ⟨trivial, hposted.symm⟩
      have hnext : Indexed posted.server.manager := by rwa [hmanager]
      have hstill : ∀ call ∈ topics.flatMap fun topic =>
          posted.server.manager.broadcastToTopic topic msg,
          posted.Owned call.1 := by
        intro call hcall
        rw [hmanager] at hcall
        refine ⟨(howned.2 call hcall).1, ?_⟩
        exact (useCount_post_ne_zero_iff
          (fun other hother => (howned.1 other hother).2) call.1).mpr
            (howned.2 call hcall).2
      have hrest := ih hnext hstill
      rw [List.map_cons, Machine.run_cons, hstep, Option.bind_some, hrest,
        hmanager, List.flatMap_cons]
      simp only [posted, calls, State.post, List.foldl_append]

/-! ## Every step is a run of the hub -/

section Steps

variable {state : State Session}

theorem run_construct (hconsistent : Consistent state) {session : Session}
    (habsent : state.server.phase session = .absent) :
    hub
        { server := state.server.upgrade session
          constructing := Function.update state.constructing session true } =
      hub state := by
  have hnew : session ∉ state.server.manager.clients := fun hmem =>
    ((hconsistent.registered session).mp hmem).1 habsent
  have hunowned : session ∉ ownedSessions state := fun howned =>
    (howned.live hconsistent).1 habsent
  have hsame : ownedSessions
      { server := state.server.upgrade session
        constructing := Function.update state.constructing session true } =
      ownedSessions state := by
    ext other
    by_cases hother : other = session
    · subst hother
      refine iff_of_false (fun howned => ?_) hunowned
      simp [ownedSessions, State.Owned] at howned
    · have hphase : (state.server.upgrade session).phase other =
          state.server.phase other := by
        simp [State.upgrade, hother]
      have howners : (state.server.upgrade session).useCount other =
          state.server.useCount other := useCount_congr hphase rfl rfl
      simp [ownedSessions, State.Owned, hother, howners]
  rw [hub, hsame, hub_upgrade hconsistent.indexed hnew,
    Hub.restrict_after_join hunowned, hub]

theorem run_publish_session (hconsistent : Consistent state)
    {session : Session} (hbuilt : state.constructing session = true) :
    PubSub.machine.run (hub state) [.join session] =
      some (hub { state with
        constructing := Function.update state.constructing session false }) := by
  have hphase := hconsistent.constructing session hbuilt
  have honline : session ∈ (Server.hub state.server).online := by
    change session ∈ state.server.manager.clients
    rw [hconsistent.registered, hphase]
    decide
  have hunsubscribed : (Server.hub state.server).subscribed session = ∅ := by
    refine Set.eq_empty_of_forall_notMem fun topic hlisted => ?_
    have haccepted := hconsistent.listed topic session hlisted
    rw [hphase] at haccepted
    exact absurd haccepted (by decide)
  have hmore : ownedSessions { state with
      constructing := Function.update state.constructing session false } =
      insert session (ownedSessions state) := by
    ext other
    by_cases hother : other = session
    · subst hother
      simp [ownedSessions, State.Owned, State.useCount,
        State.pendingOperations, hphase, Phase.operations]
    · simp [ownedSessions, State.Owned, hother]
  have habsent : session ∉ (hub state).online := by
    rintro ⟨-, hnot, -⟩
    rw [hbuilt] at hnot
    cases hnot
  have hjoined : (hub state).after (.join session) =
      hub { state with
        constructing := Function.update state.constructing session false } := by
    rw [hub, hub, hmore, Hub.restrict_insert honline hunsubscribed]
  exact Machine.run_singleton
    (PubSub.step_eq_some_iff.mpr ⟨habsent, hjoined⟩)

theorem run_destruct (hconsistent : Consistent state) {session : Session}
    (hunowned : state.server.useCount session = 0) :
    hub { state with server := state.server.destroy session } =
      hub state := by
  have hadapter := adapterSession_ne_of_unowned hunowned
  have hnot : session ∉ ownedSessions state := fun howned =>
    howned.2 hunowned
  rw [hub_setServer, hub_destroy hconsistent.indexed,
    Hub.restrict_after_leave hnot, hub]
  intro other _
  by_cases hsame : other = session
  · rw [hsame, useCount_destroy_self hunowned, hunowned]
  · rw [useCount_destroy hadapter hsame]

/-- A session in the phase of its read loop has an owner. -/
theorem owned_of_reading (hconsistent : Consistent state) {session : Session}
    (hphase : state.server.phase session = .reading) :
    state.Owned session := by
  refine ⟨?_, ?_⟩
  · rw [← Bool.not_eq_true]
    intro hbuilt
    have haccepting := hconsistent.constructing session hbuilt
    rw [hphase] at haccepting
    cases haccepting
  · simp [State.useCount, State.pendingOperations, hphase, Phase.operations]

theorem owned_of_pending {session : Session}
    (hready : state.constructing session = false)
    (hpending : 0 < state.server.pendingOperations session) :
    state.Owned session := by
  refine ⟨hready, ?_⟩
  rw [State.useCount]
  omega

theorem run_setPhase (hconsistent : Consistent state) {session : Session}
    {phase : Phase} (howned : state.Owned session) :
    PubSub.machine.run (hub state)
        (departure session (state.server.setPhase session phase)) =
      some (hub { state with
        server := state.server.setPhase session phase }) := by
  refine run_departure hconsistent howned
    (hub_congr rfl fun _ => rfl) fun other hother => ?_
  exact useCount_congr (by simp [State.setPhase, hother]) rfl rfl

theorem run_stepQueue (hconsistent : Consistent state) {session : Session}
    (howned : state.Owned session) {action : WriteQueue.Action String}
    (hstrand : ∀ msg, action ≠ .sendMessage msg) :
    PubSub.machine.run (hub state)
        (departure session (state.server.stepQueue session action)) =
      some (hub { state with
        server := state.server.stepQueue session action }) :=
  run_departure hconsistent howned (hub_stepQueue session _ hstrand)
    fun _ hother => useCount_congr (congrFun (stepQueue_phase ..) _)
      (stepQueue_queue_of_ne hother action) (stepQueue_adapterSession ..)

theorem hub_setAdapter {session : Session} (howned : state.Owned session)
    (hpending : ReplacedIsPending state.server (.registerAdapter session)) :
    hub { state with server := state.server.setAdapter session } =
      hub state := by
  rw [hub_setServer, hub]
  · rfl
  intro other _
  rw [useCount_setAdapter]
  by_cases hsame : session = other
  · exact iff_of_true (by simp [hsame]) (hsame ▸ howned.2)
  · rw [if_neg hsame, Nat.add_zero, State.useCount]
    by_cases hadapter : state.server.adapterSession = some other
    · have hother := hpending other hadapter (Ne.symm hsame)
      exact iff_of_true hother (by omega)
    · rw [if_neg hadapter, Nat.add_zero]

theorem hub_setClientMode (session : Session) (mode date : String) :
    hub { state with
      server := state.perform (.setClientMode session mode date) } =
      hub state := by
  rw [hub_setServer (fun _ _ => Iff.rfl), hub]
  congr 1
  ext other
  · simp [Server.hub, State.perform, State.after]
  · simp [Server.hub, State.perform, State.after,
      topicSubscribers_setClientMode]
  · rfl

theorem run_broadcastAll {session : Session} {msg : String}
    (hundisturbed : Undisturbed state (.act (.broadcastAll session msg))) :
    PubSub.machine.run (hub state) [.announce msg] =
      some (hub { state with
        server := state.perform (.broadcastAll session msg) }) := by
  have hcalls : state.perform (.broadcastAll session msg) =
      state.server.post (state.server.manager.broadcastAll msg) :=
    broadcast_of_undisturbed hundisturbed
  have howned : ∀ call ∈ state.server.manager.broadcastAll msg,
      state.Owned call.1 := hundisturbed
  have honline : (Server.hub state.server).online ⊆ ownedSessions state :=
    fun other hother => howned (other, msg)
      (List.mem_map.mpr ⟨other, AList.mem_keys.mp hother, rfl⟩)
  apply Machine.run_singleton
  refine PubSub.step_eq_some_iff.mpr ⟨trivial, ?_⟩
  rw [hcalls, hub_post howned, hub_broadcastAll,
    Hub.restrict_after_announce honline, hub]

theorem run_broadcastToTopic (hconsistent : Consistent state)
    {topic msg : String}
    (hundisturbed : Undisturbed state (.act (.broadcastToTopic topic msg))) :
    PubSub.machine.run (hub state) [.publish topic msg] =
      some (hub { state with
        server := state.perform (.broadcastToTopic topic msg) }) := by
  have hcalls : state.perform (.broadcastToTopic topic msg) =
      state.server.post (state.server.manager.broadcastToTopic topic msg) :=
    broadcast_of_undisturbed hundisturbed
  have howned : ∀ call ∈ state.server.manager.broadcastToTopic topic msg,
      state.Owned call.1 := hundisturbed
  apply Machine.run_singleton
  refine PubSub.step_eq_some_iff.mpr ⟨trivial, ?_⟩
  rw [hcalls, hub_post howned, hub_broadcastToTopic hconsistent.indexed,
    Hub.restrict_after_publish (subscribed_owned howned), hub]

/-- The registered adapter is owned by `g_adapter_session`. -/
theorem owned_of_adapter (hconsistent : Consistent state) {adapter : Session}
    (hadapter : state.server.adapterSession = some adapter) :
    state.Owned adapter := by
  refine ⟨?_, by simp [State.useCount, hadapter]⟩
  rw [← Bool.not_eq_true]
  intro hbuilding
  have haccepted := hconsistent.adapter adapter hadapter
  rw [hconsistent.constructing adapter hbuilding] at haccepted
  exact absurd haccepted (by decide)

theorem run_tell (hconsistent : Consistent state) {session : Session}
    (howned : state.Owned session) (command : String) :
    PubSub.machine.run (hub state) [.tell session command] =
      some (hub { state with
        server := state.server.post [(session, command)] }) := by
  have htold : (hub state).after (.tell session command) =
      hub { state with server := state.server.post [(session, command)] } := by
    rw [hub_post (by simpa using howned), hub_tell, Hub.restrict_after_tell,
      hub]
  exact Machine.run_singleton (PubSub.step_eq_some_iff.mpr
    ⟨online_of_owned hconsistent howned, htold⟩)

theorem run_addClientTopics (hconsistent : Consistent state)
    {session : Session} (howned : state.Owned session)
    (topics : List String) :
    PubSub.machine.run (hub state) [.subscribe session (granted topics)] =
      some (hub { state with
        server := state.perform (.addClientTopics session topics) }) := by
  have hmem : session ∈ ownedSessions state := howned
  have hregistered := (hconsistent.registered session).mpr
    (howned.live hconsistent)
  have hgranted :
      Server.hub (state.perform (.addClientTopics session topics)) =
        (Server.hub state.server).after
          (.subscribe session (granted topics)) :=
    hub_addClientTopics hregistered topics
  have hkept : hub { state with
      server := state.perform (.addClientTopics session topics) } =
      (Server.hub (state.perform (.addClientTopics session topics))).restrict
        (ownedSessions state) := hub_setServer fun _ _ => Iff.rfl
  have hasked : (hub state).after (.subscribe session (granted topics)) =
      hub { state with
        server := state.perform (.addClientTopics session topics) } := by
    rw [hkept, hgranted, Hub.restrict_after_subscribe hmem, hub]
  exact Machine.run_singleton (PubSub.step_eq_some_iff.mpr
    ⟨online_of_owned hconsistent howned, hasked⟩)

theorem run_act (hconsistent : Consistent state)
    {action : Server.Action Session} (hready : state.Ready action)
    (henabled : enabled state.server action = true)
    (hpending : ReplacedIsPending state.server action)
    (hundisturbed : Undisturbed state (.act action)) :
    PubSub.machine.run (hub state) (Server.events state.server action) =
      some (hub { state with server := state.perform action }) := by
  cases action with
  | upgrade session => exact hready.elim
  | onAccept session failed =>
      have hphase : state.server.phase session = .accepting := by
        simpa [enabled] using henabled
      refine run_setPhase hconsistent (owned_of_pending hready ?_)
      rw [State.pendingOperations, hphase, Phase.operations]
      omega
  | closeRead session =>
      exact run_setPhase hconsistent (owned_of_reading hconsistent
        (by simpa [enabled] using henabled))
  | registerAdapter session =>
      have howned := owned_of_reading hconsistent
        (by simpa [enabled] using henabled)
      change _ = some (hub { state with
        server := state.server.setAdapter session })
      rw [hub_setAdapter howned hpending]
      rfl
  | relay session msg complete =>
      have hcalls : state.perform (.relay session msg complete) =
          state.server.post
            (state.broadcastCalls (.relay session msg complete)) :=
        broadcast_of_undisturbed hundisturbed
      rw [hcalls, Server.events, State.broadcastCalls]
      rw [Undisturbed, State.broadcastCalls] at hundisturbed
      split
      · next hadapter =>
          rw [if_pos hadapter] at hundisturbed
          exact run_publish hconsistent.indexed hundisturbed
      · rfl
  | broadcastAll session msg => exact run_broadcastAll hundisturbed
  | setClientMode session mode date =>
      rw [hub_setClientMode]
      rfl
  | commandAdapter session command =>
      change _ = some (hub { state with
        server := state.server.after (.commandAdapter session command) })
      rw [Server.events, State.after]
      cases hadapter : state.server.adapterSession with
      | none => rfl
      | some adapter =>
          exact run_tell hconsistent (owned_of_adapter hconsistent hadapter)
            command
  | addClientTopics session topics =>
      have howned := owned_of_reading hconsistent
        (by simpa [enabled] using henabled)
      exact run_addClientTopics hconsistent howned topics
  | broadcastToTopic topic msg =>
      exact run_broadcastToTopic hconsistent hundisturbed
  | runHandler session =>
      refine run_stepQueue hconsistent (owned_of_pending hready ?_) (by simp)
      have hhandlers : (state.server.queue session).handlers ≠ [] := by
        simpa [enabled] using henabled
      have hlength := List.length_pos_iff.mpr hhandlers
      rw [State.pendingOperations]
      omega
  | onWrite session operation failed =>
      refine run_stepQueue hconsistent (owned_of_pending hready ?_) (by simp)
      have hoperation :
          operation < (state.server.queue session).outstanding.length := by
        simpa [enabled] using henabled
      rw [State.pendingOperations]
      omega

end Steps

theorem run_events {state next : State Session} {action : Action Session}
    (hconsistent : Consistent state) (hundisturbed : Undisturbed state action)
    (hstep : step state action = some next) :
    PubSub.machine.run (hub state) (events state action) =
      some (hub next) := by
  cases action with
  | construct session =>
      simp only [step, Option.ite_none_right_eq_some] at hstep
      obtain ⟨habsent, hstep⟩ := hstep
      obtain rfl := Option.some.inj hstep
      rw [run_construct hconsistent habsent]
      rfl
  | publish session =>
      simp only [step, Option.ite_none_right_eq_some] at hstep
      obtain ⟨hbuilt, hstep⟩ := hstep
      obtain rfl := Option.some.inj hstep
      exact run_publish_session hconsistent hbuilt
  | act action =>
      obtain ⟨hready, henabled, hpending, rfl⟩ := step_act_eq_some_iff.mp hstep
      exact run_act hconsistent hready henabled hpending hundisturbed
  | destruct session =>
      simp only [step, Option.ite_none_right_eq_some] at hstep
      obtain ⟨⟨-, -, hunowned⟩, hstep⟩ := hstep
      obtain rfl := Option.some.inj hstep
      rw [run_destruct hconsistent hunowned]
      rfl

/-- Undisturbed, the server with the ends of its sessions refines the hub. -/
noncomputable def refinesHub : Machine.Simulation
    ((machine : Machine (State Session) _).restrict Undisturbed)
    (PubSub.machine : Machine (Hub Session String String) _) where
  invariant := Consistent
  abstraction := hub
  events := events
  invariant_initial := consistent_initial
  invariant_step _ _ _ hconsistent hstep :=
    consistent_step hconsistent (Machine.restrict_step_eq_some_iff.mp hstep).2
  abstraction_initial := by
    have hinitial : Server.hub ({} : Server.State Session) = Hub.empty :=
      Server.refinesHub.abstraction_initial
    exact (congrArg (Hub.restrict · _) hinitial).trans Hub.restrict_empty
  matched _ _ _ hconsistent hstep :=
    have hundisturbed := Machine.restrict_step_eq_some_iff.mp hstep
    run_events hconsistent hundisturbed.1 hundisturbed.2

/-! ## Both ends in one step -/

/-- The server while no session is in its constructor. -/
def settled (server : Server.State Session) : State Session :=
  { server := server }

/-- The destructor, where a session has lost its last owner. -/
def destruction (session : Session) (server : Server.State Session) :
    List (Action Session) :=
  if server.useCount session = 0 then [.destruct session] else []

/-- What an action of the coarser machine stands for. -/
def ends (server : Server.State Session) (action : Server.Action Session) :
    List (Action Session) :=
  match action with
  | .upgrade session => [.construct session, .publish session]
  | .onAccept session _ | .closeRead session | .runHandler session
  | .onWrite session _ _ =>
      .act action ::
        destruction session ((settled server).perform action)
  | _ => [.act action]

theorem phase_setPhase (server : Server.State Session) (session : Session)
    (phase : Phase) : (server.setPhase session phase).phase session = phase :=
  Function.update_self ..

section Coarse

variable {server : Server.State Session}

theorem undisturbed_settled (hconsistent : Server.Consistent server)
    (action : Server.Action Session) :
    Undisturbed (settled server) (.act action) := by
  intro call hcall
  refine ⟨rfl, (hconsistent.owned call.1).mpr ?_⟩
  cases action with
  | relay session msg complete =>
      change call ∈ ite _ _ _ at hcall
      split at hcall
      · exact (hconsistent.accepted_of_relayMessages hcall).live
      · cases hcall
  | broadcastAll session msg => exact hconsistent.live_of_broadcastAll hcall
  | broadcastToTopic topic msg =>
      exact (hconsistent.accepted_of_broadcastToTopic hcall).live
  | upgrade session => cases hcall
  | onAccept session failed => cases hcall
  | closeRead session => cases hcall
  | registerAdapter session => cases hcall
  | setClientMode session mode date => cases hcall
  | commandAdapter session command => cases hcall
  | addClientTopics session topics => cases hcall
  | runHandler session => cases hcall
  | onWrite session operation failed => cases hcall

/-- An action without a release changes the server as in the coarser machine. -/
theorem step_settled {action : Server.Action Session}
    (hconsistent : Server.Consistent server)
    (hready : (settled server).Ready action)
    (henabled : enabled server action = true)
    (hpending : ReplacedIsPending server action) :
    ((machine : Machine (State Session) _).restrict Undisturbed).step
        (settled server) (.act action) =
      some (settled ((settled server).perform action)) :=
  Machine.restrict_step_eq_some_iff.mpr
    ⟨undisturbed_settled hconsistent action,
      step_act_eq_some_iff.mpr ⟨hready, henabled, hpending, rfl⟩⟩

theorem run_destruction {session : Session}
    (hlive : (server.phase session).Live) :
    ((machine : Machine (State Session) _).restrict Undisturbed).run
        (settled server) (destruction session server) =
      some (settled (server.release session)) := by
  rw [destruction, State.release]
  split
  · next hunowned =>
      apply Machine.run_singleton
      exact Machine.restrict_step_eq_some_iff.mpr
        ⟨trivial, if_pos ⟨hlive, rfl, hunowned⟩⟩
  · rfl

/-- The end of a handler that may have been the last owner of its session. -/
theorem run_release {action : Server.Action Session} {session : Session}
    (hconsistent : Server.Consistent server)
    (hready : (settled server).Ready action)
    (henabled : enabled server action = true)
    (hpending : ReplacedIsPending server action)
    (hlive : (((settled server).perform action).phase session).Live) :
    ((machine : Machine (State Session) _).restrict Undisturbed).run
        (settled server)
        (.act action :: destruction session ((settled server).perform action)) =
      some (settled (((settled server).perform action).release session)) := by
  rw [Machine.run_cons, step_settled hconsistent hready henabled hpending,
    Option.bind_some, run_destruction hlive]

/-- Every other action of a session that exists. -/
theorem run_single {action : Server.Action Session}
    (hconsistent : Server.Consistent server)
    (hready : (settled server).Ready action)
    (henabled : enabled server action = true)
    (hpending : ReplacedIsPending server action)
    (hafter : (settled server).perform action = server.after action) :
    ((machine : Machine (State Session) _).restrict Undisturbed).run
        (settled server) [.act action] =
      some (settled (server.after action)) := by
  rw [← hafter]
  exact Machine.run_singleton
    (step_settled hconsistent hready henabled hpending)

theorem run_upgrade {session : Session}
    (habsent : server.phase session = .absent) :
    ((machine : Machine (State Session) _).restrict Undisturbed).run
        (settled server) [.construct session, .publish session] =
      some (settled (server.upgrade session)) := by
  have hconstruct := Machine.restrict_step_eq_some_iff.mpr
    ⟨show Undisturbed (settled server) (.construct session) from trivial,
      show machine.step (settled server) (.construct session) = some _ from
        if_pos habsent⟩
  rw [Machine.run_cons, hconstruct, Option.bind_some]
  apply Machine.run_singleton
  refine Machine.restrict_step_eq_some_iff.mpr ⟨trivial, ?_⟩
  simp [machine, step, settled]

/-- Each action of the coarser machine is an undisturbed run of this one. -/
theorem run_ends {next : Server.State Session} {action : Server.Action Session}
    (hconsistent : Server.Consistent server)
    (hstep : Server.step server action = some next) :
    ((machine : Machine (State Session) _).restrict Undisturbed).run
        (settled server) (ends server action) =
      some (settled next) := by
  obtain ⟨henabled, hpending, rfl⟩ := Server.step_eq_some_iff.mp hstep
  cases action with
  | upgrade session => exact run_upgrade (by simpa [enabled] using henabled)
  | onAccept session failed =>
      refine run_release hconsistent rfl henabled hpending ?_
      change ((server.setPhase session
        (if failed then .rejected else .reading)).phase session).Live
      rw [phase_setPhase]
      cases failed <;> decide
  | closeRead session =>
      refine run_release hconsistent trivial henabled hpending ?_
      change ((server.setPhase session .closed).phase session).Live
      rw [phase_setPhase]
      decide
  | registerAdapter session =>
      exact run_single hconsistent trivial henabled hpending rfl
  | relay session msg complete =>
      refine run_single hconsistent trivial henabled hpending ?_
      refine (broadcast_of_undisturbed
        (undisturbed_settled hconsistent _)).trans ?_
      change server.post (if server.adapterSession = some session then _
        else []) = _
      rw [State.after]
      split
      · rfl
      · rfl
  | broadcastAll session msg =>
      exact run_single hconsistent trivial henabled hpending
        (broadcast_of_undisturbed (undisturbed_settled hconsistent _))
  | setClientMode session mode date =>
      exact run_single hconsistent trivial henabled hpending rfl
  | commandAdapter session command =>
      exact run_single hconsistent trivial henabled hpending rfl
  | addClientTopics session topics =>
      exact run_single hconsistent trivial henabled hpending rfl
  | broadcastToTopic topic msg =>
      exact run_single hconsistent trivial henabled hpending
        (broadcast_of_undisturbed (undisturbed_settled hconsistent _))
  | runHandler session =>
      refine run_release hconsistent rfl henabled hpending ?_
      change ((server.stepQueue session _).phase session).Live
      rw [stepQueue_phase]
      apply hconsistent.live_of_pending
      have hhandlers : (server.queue session).handlers ≠ [] := by
        simpa [enabled] using henabled
      have hlength := List.length_pos_iff.mpr hhandlers
      rw [State.pendingOperations]
      omega
  | onWrite session operation failed =>
      refine run_release hconsistent rfl henabled hpending ?_
      change ((server.stepQueue session _).phase session).Live
      rw [stepQueue_phase]
      apply hconsistent.live_of_pending
      have hoperation :
          operation < (server.queue session).outstanding.length := by
        simpa [enabled] using henabled
      rw [State.pendingOperations]
      omega

end Coarse

/-- The server that takes both ends of a session as one step refines this one,
and no broadcast of it finds a session without an owner. -/
noncomputable def coarseRefines : Machine.Simulation
    (Server.machine : Machine (Server.State Session) _)
    ((machine : Machine (State Session) _).restrict Undisturbed) where
  invariant := Server.Consistent
  abstraction := settled
  events := ends
  invariant_initial := Server.consistent_initial
  invariant_step _ _ _ hconsistent hstep :=
    Server.consistent_step hconsistent hstep
  abstraction_initial := rfl
  matched _ _ _ hconsistent hstep := run_ends hconsistent hstep

/-! ## The queues of the sessions -/

theorem queuesOrdered_perform {state : State Session}
    (hordered : QueuesOrdered state.server) {action : Server.Action Session}
    (hready : state.Ready action) : QueuesOrdered (state.perform action) := by
  cases action with
  | upgrade session => exact hready.elim
  | onAccept session failed => exact hordered.setPhase session _
  | closeRead session => exact hordered.setPhase session _
  | registerAdapter session => exact hordered
  | relay session msg complete => exact hordered.post _
  | broadcastAll session msg => exact hordered.post _
  | setClientMode session mode date => exact hordered
  | commandAdapter session command =>
      change QueuesOrdered (state.server.after (.commandAdapter session command))
      rw [State.after]
      split
      · exact hordered.post _
      · exact hordered
  | addClientTopics session topics => exact hordered
  | broadcastToTopic topic msg => exact hordered.post _
  | runHandler session => exact hordered.stepQueue session .runHandler
  | onWrite session operation failed =>
      exact hordered.stepQueue session (.onWrite operation failed)

theorem queuesOrdered_step {state next : State Session}
    {action : Action Session} (hordered : QueuesOrdered state.server)
    (hstep : step state action = some next) : QueuesOrdered next.server := by
  cases action with
  | construct session =>
      simp only [step, Option.ite_none_right_eq_some] at hstep
      obtain rfl := Option.some.inj hstep.2
      exact hordered
  | publish session =>
      simp only [step, Option.ite_none_right_eq_some] at hstep
      obtain rfl := Option.some.inj hstep.2
      exact hordered
  | act action =>
      obtain ⟨hready, -, -, rfl⟩ := step_act_eq_some_iff.mp hstep
      exact queuesOrdered_perform hordered hready
  | destruct session =>
      simp only [step, Option.ite_none_right_eq_some] at hstep
      obtain rfl := Option.some.inj hstep.2
      exact hordered

theorem queuesOrdered_run {actions : List (Action Session)}
    {final : State Session}
    (hrun : machine.run machine.initial actions = some final) :
    QueuesOrdered final.server := by
  have hkept : ∀ (state : State Session) action next,
      QueuesOrdered state.server → machine.step state action = some next →
        QueuesOrdered next.server :=
    fun _ _ _ hordered hstep => queuesOrdered_step hordered hstep
  exact Machine.invariant_run hkept
    (fun _ => ⟨[], WriteQueue.invariant_initial⟩) hrun

/-! ## What a session is sent -/

/-- The published messages and the requests of a run of the server. -/
abbrev published (actions : List (Action Session)) :
    List (Event Session String String) :=
  Machine.history machine events machine.initial actions

/-- The presence of a session and its topics after these events. -/
def viewAfter (session : Session)
    (history : List (Event Session String String)) : View String :=
  history.foldl (View.after session) View.absent

theorem run_published {actions : List (Action Session)}
    {final : State Session}
    (hrun : machine.run machine.initial actions = some final)
    (hundisturbed : machine.Along Undisturbed machine.initial actions) :
    PubSub.machine.run PubSub.machine.initial (published actions) =
      some (hub final) := by
  rw [published, ← Machine.history_restrict events hundisturbed]
  apply refinesHub.run_trace_initial
  exact (Machine.run_restrict hundisturbed).trans hrun

theorem view_eq_viewAfter {actions : List (Action Session)}
    {final : State Session}
    (hrun : machine.run machine.initial actions = some final)
    (hundisturbed : machine.Along Undisturbed machine.initial actions)
    (session : Session) :
    (hub final).view session = viewAfter session (published actions) :=
  view_run (run_published hrun hundisturbed) session

theorem posted_eq_heard {actions : List (Action Session)}
    {final : State Session}
    (hrun : machine.run machine.initial actions = some final)
    (hundisturbed : machine.Along Undisturbed machine.initial actions)
    (session : Session) :
    (final.server.queue session).posted =
      View.absent.heard session (published actions) :=
  inbox_run_initial (run_published hrun hundisturbed) session

/-- The topics of a session that has an owner. -/
theorem mem_hub_subscribed {state : State Session} {session : Session}
    {topic : String} :
    topic ∈ (hub state).subscribed session ↔
      session ∈ state.server.manager.topicSubscribers topic ∧
        state.Owned session := by
  by_cases howned : session ∈ ownedSessions state
  · rw [hub, Hub.subscribed_restrict howned, hub_subscribed_iff]
    exact (and_iff_left howned).symm
  · rw [hub, Hub.subscribed_restrict_of_notMem howned]
    exact iff_of_false (Set.notMem_empty _) fun hboth => howned hboth.2

/-- In every run in which no broadcast finds a session without an owner, a
session is registered with an owner, and listed under a topic, just as its own
comings, goings and requests say; what was passed to its `send_message` is what
a hub delivers to it, each message once and in order; and what it handed to
`async_write` is a prefix of that. -/
theorem run_delivers {actions : List (Action Session)} {final : State Session}
    (hrun : machine.run machine.initial actions = some final)
    (hundisturbed : machine.Along Undisturbed machine.initial actions)
    (session : Session) :
    (session ∈ final.server.manager.clients ∧ final.Owned session ↔
      (viewAfter session (published actions)).present) ∧
    (∀ topic, session ∈ final.server.manager.topicSubscribers topic ∧
        final.Owned session ↔
      topic ∈ (viewAfter session (published actions)).topics) ∧
    (final.server.queue session).posted =
      View.absent.heard session (published actions) ∧
    (final.server.queue session).started <+:
      View.absent.heard session (published actions) := by
  have hview := view_eq_viewAfter hrun hundisturbed session
  have hposted := posted_eq_heard hrun hundisturbed session
  obtain ⟨written, hinvariant⟩ := queuesOrdered_run hrun session
  refine ⟨?_, fun topic => ?_, hposted, ?_⟩
  · rw [← hview]
    rfl
  · rw [← hview]
    exact mem_hub_subscribed.symm
  · rw [← hposted]
    exact hinvariant.started_prefix

-- A broadcast that finds session 1 before its destructor misses session 2.
example :
    (machine.run machine.initial
        [.construct 1, .publish 1, .construct 2, .publish 2,
          .act (.onAccept 1 false), .act (.onAccept 2 false),
          .act (.addClientTopics 1 ["price_"]),
          .act (.addClientTopics 2 ["price_"]), .act (.closeRead 1),
          .act (.broadcastToTopic "price_" "first")]).map
      (fun final => (final.server.queue 2).posted) = some [] := by
  decide +kernel

/-- Two such runs that agree on the published messages and on what one session
does send that session the same messages and leave it the same topics. -/
theorem run_isolated {first second : List (Action Session)}
    {firstFinal secondFinal : State Session}
    (hfirst : machine.run machine.initial first = some firstFinal)
    (hsecond : machine.run machine.initial second = some secondFinal)
    (hfirstUndisturbed : machine.Along Undisturbed machine.initial first)
    (hsecondUndisturbed : machine.Along Undisturbed machine.initial second)
    (session : Session)
    (hsame : (published first).filter (fun event => event.Concerns session) =
      (published second).filter fun event => event.Concerns session) :
    (firstFinal.server.queue session).posted =
        (secondFinal.server.queue session).posted ∧
      (session ∈ firstFinal.server.manager.clients ∧
          firstFinal.Owned session ↔
        session ∈ secondFinal.server.manager.clients ∧
          secondFinal.Owned session) ∧
      ∀ topic,
        session ∈ firstFinal.server.manager.topicSubscribers topic ∧
            firstFinal.Owned session ↔
          session ∈ secondFinal.server.manager.topicSubscribers topic ∧
            secondFinal.Owned session := by
  have hview :
      (hub firstFinal).view session = (hub secondFinal).view session := by
    rw [view_eq_viewAfter hfirst hfirstUndisturbed,
      view_eq_viewAfter hsecond hsecondUndisturbed, viewAfter, viewAfter,
      ← View.foldl_after_filter, hsame, View.foldl_after_filter]
  refine ⟨?_, iff_of_eq (congrArg View.present hview), fun topic => ?_⟩
  · rw [posted_eq_heard hfirst hfirstUndisturbed,
      posted_eq_heard hsecond hsecondUndisturbed, ← View.heard_filter, hsame,
      View.heard_filter]
  · have htopic : topic ∈ (hub firstFinal).subscribed session ↔
        topic ∈ (hub secondFinal).subscribed session :=
      iff_of_eq (congrArg (fun view => topic ∈ view.topics) hview)
    rwa [mem_hub_subscribed, mem_hub_subscribed] at htopic

/-! ## A run with two clients -/

/-- The second client asks for prices after a first message; the first client
leaves before the next one. -/
def lateSubscriber : List (Action ℕ) :=
  [.construct 1, .publish 1, .construct 2, .publish 2,
    .act (.onAccept 1 false), .act (.onAccept 2 false),
    .act (.addClientTopics 1 ["price_"]),
    .act (.broadcastToTopic "price_" "first"), .act (.runHandler 1),
    .act (.onWrite 1 0 false), .act (.addClientTopics 2 ["price_"]),
    .act (.closeRead 1), .destruct 1,
    .act (.broadcastToTopic "price_" "second")]

/-- The same without the first client. -/
def lateSubscriberAlone : List (Action ℕ) :=
  [.construct 2, .publish 2, .act (.onAccept 2 false),
    .act (.broadcastToTopic "price_" "first"),
    .act (.addClientTopics 2 ["price_"]),
    .act (.broadcastToTopic "price_" "second")]

theorem published_lateSubscriber :
    published lateSubscriber =
      [.join 1, .join 2, .subscribe 1 (granted ["price_"]),
        .publish "price_" "first", .subscribe 2 (granted ["price_"]),
        .leave 1, .publish "price_" "second"] := rfl

theorem published_lateSubscriberAlone :
    published lateSubscriberAlone =
      [.join 2, .publish "price_" "first",
        .subscribe 2 (granted ["price_"]), .publish "price_" "second"] := rfl

theorem lateSubscriber_undisturbed :
    machine.Along Undisturbed machine.initial lateSubscriber := by
  decide +kernel

theorem lateSubscriberAlone_undisturbed :
    machine.Along Undisturbed machine.initial lateSubscriberAlone := by
  decide +kernel

theorem run_delivers_late :
    ∃ final, machine.run machine.initial lateSubscriber = some final ∧
      (final.server.queue 2).posted = ["second"] ∧
      (final.server.queue 2).posted =
        View.absent.heard 2 (published lateSubscriber) ∧
      (2 ∈ final.server.manager.topicSubscribers "price_" ∧ final.Owned 2 ↔
        "price_" ∈ (viewAfter 2 (published lateSubscriber)).topics) := by
  refine ⟨_, rfl, rfl, ?_, ?_⟩
  · exact (run_delivers rfl lateSubscriber_undisturbed 2).2.2.1
  · exact (run_delivers rfl lateSubscriber_undisturbed 2).2.1 "price_"

theorem run_isolated_late :
    ∃ first second,
      machine.run machine.initial lateSubscriber = some first ∧
      machine.run machine.initial lateSubscriberAlone = some second ∧
      (first.server.queue 2).posted = (second.server.queue 2).posted := by
  have hsame : (published lateSubscriber).filter
        (fun event => event.Concerns 2) =
      (published lateSubscriberAlone).filter fun event => event.Concerns 2 := by
    rw [published_lateSubscriber, published_lateSubscriberAlone]
    rfl
  exact ⟨_, _, rfl, rfl, (run_isolated rfl rfl lateSubscriber_undisturbed
    lateSubscriberAlone_undisturbed 2 hsame).1⟩

end Datafeed.Server.Lifetimes
