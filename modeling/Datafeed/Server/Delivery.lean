import Datafeed.Core.PubSub
import Datafeed.Core.Simulation
import Datafeed.Server.Ownership

/-!
# The server as a publish and subscribe hub

The sessions, the registry and the write queues together implement a hub: a
session is present from its constructor to its destructor, its topics are those
whose lists name it, and its inbox holds what was passed to its `send_message`.
Each action of the server is a short run of the hub, so what a session is sent
is what its own requests and the published messages say, and what it hands to
`async_write` is a prefix of that.
-/

namespace Datafeed.Server

open SessionManager PubSub

variable {Session : Type} [DecidableEq Session]

/-! ## The abstraction -/

/-- The hub that a state of the server stands for. -/
def hub (state : State Session) : Hub Session String String where
  online := {session | session ∈ state.manager.clients}
  subscribed session :=
    {topic | session ∈ state.manager.topicSubscribers topic}
  inbox session := (state.queue session).posted

/-- The topics granted to a session that names these. -/
def granted (topics : List String) : Set String :=
  {topic | ∃ granting ∈ topics, topic ∈ grantedTopics granting}

/-- The last owner of a session lets go. -/
def departure (session : Session) (state : State Session) :
    List (Event Session String String) :=
  if state.useCount session = 0 then [.leave session] else []

/-- What an action means to the hub. -/
def events (state : State Session) :
    Action Session → List (Event Session String String)
  | .upgrade session => [.join session]
  | .onAccept session failed =>
      departure session
        (state.setPhase session (if failed then .rejected else .reading))
  | .closeRead session => departure session (state.setPhase session .closed)
  | .registerAdapter _ | .setClientMode _ _ _ => []
  | .relay session msg complete =>
      if state.adapterSession = some session then
        (relayTopics ++ if complete then ["backtest_complete"] else []).map
          fun topic => .publish topic msg
      else []
  | .broadcastAll _ msg => [.announce msg]
  | .commandAdapter _ command =>
      match state.adapterSession with
      | some adapter => [.tell adapter command]
      | none => []
  | .addClientTopics session topics => [.subscribe session (granted topics)]
  | .broadcastToTopic topic msg => [.publish topic msg]
  | .runHandler session =>
      departure session (state.stepQueue session .runHandler)
  | .onWrite session operation failed =>
      departure session
        (state.stepQueue session (.onWrite operation failed))

omit [DecidableEq Session] in
/-- The hub depends on the registry and on what was posted. -/
theorem hub_congr {state next : State Session}
    (hmanager : next.manager = state.manager)
    (hposted : ∀ session,
      (next.queue session).posted = (state.queue session).posted) :
    hub next = hub state := by
  ext session
  · simp [hub, hmanager]
  · simp [hub, hmanager]
  · simp [hub, hposted]

/-! ## Coming and going -/

theorem hub_upgrade {state : State Session} (hindexed : Indexed state.manager)
    {session : Session} (hnew : session ∉ state.manager.clients) :
    hub (state.upgrade session) = (hub state).after (.join session) := by
  have hunlisted : ∀ topic,
      session ∉ state.manager.topicSubscribers topic :=
    fun topic hlisted => hnew (hindexed.registered hlisted)
  ext other
  · simp [hub, State.upgrade, Hub.after]
  · by_cases hsame : other = session
    · subst hsame
      simp [hub, State.upgrade, Hub.after, Manager.addClient, hunlisted]
    · simp [hub, State.upgrade, Hub.after, Manager.addClient, hsame]
  · rfl

theorem hub_destroy {state : State Session} (hindexed : Indexed state.manager)
    (session : Session) :
    hub (state.destroy session) = (hub state).after (.leave session) := by
  have hunlisted : ∀ topic, session ∉
      (state.manager.removeClient session).topicSubscribers topic := by
    intro topic hlisted
    have hregistered := (hindexed.removeClient session).registered hlisted
    simp at hregistered
  have hothers : ∀ topic other, other ≠ session →
      (other ∈ (state.manager.removeClient session).topicSubscribers topic ↔
        other ∈ state.manager.topicSubscribers topic) := by
    intro topic other hother
    cases hlookup : state.manager.clients.lookup session with
    | none => simp [Manager.removeClient, hlookup]
    | some info => simp [mem_topicSubscribers_removeClient hlookup, hother]
  ext other
  · simp [hub, State.destroy, Hub.after, and_comm]
  · by_cases hsame : other = session
    · subst hsame
      simp [hub, State.destroy, Hub.after, hunlisted]
    · simp [hub, State.destroy, Hub.after, hsame, hothers _ other hsame]
  · rfl

theorem run_departure {state : State Session} {session : Session}
    (hreleasing : Releasing session state) :
    PubSub.machine.run (hub state) (departure session state) =
      some (hub (state.release session)) := by
  rw [departure, State.release]
  split
  · have hpresent : (hub state).Admits (.leave session) :=
      (hreleasing.registered session).mpr hreleasing.live
    rw [hub_destroy hreleasing.indexed]
    exact Machine.run_singleton (PubSub.step_eq_some_iff.mpr ⟨hpresent, rfl⟩)
  · rfl

/-! ## Asking for topics -/

theorem hub_addClientTopics {state : State Session} {session : Session}
    (hregistered : session ∈ state.manager.clients) (topics : List String) :
    hub { state with
        manager := state.manager.addClientTopics session topics } =
      (hub state).after (.subscribe session (granted topics)) := by
  obtain ⟨info, hlookup⟩ :=
    Option.isSome_iff_exists.mp (AList.lookup_isSome.mpr hregistered)
  ext other
  · simp [hub, Hub.after]
  · next topic =>
      have hlisted :
          other ∈ (state.manager.addClientTopics session
              topics).topicSubscribers topic ↔ _ :=
        mem_topicSubscribers_addClientTopics hlookup
      by_cases hsame : other = session
      · subst hsame
        simpa [hub, Hub.after, granted] using hlisted
      · simpa [hub, Hub.after, hsame] using hlisted
  · rfl

/-! ## Posting messages -/

omit [DecidableEq Session] in
theorem hub_subscribed_iff {state : State Session} {session : Session}
    {topic : String} :
    topic ∈ (hub state).subscribed session ↔
      session ∈ state.manager.topicSubscribers topic := Iff.rfl

theorem messagesFor_map (session : Session) (sessions : List Session)
    (msg : String) :
    messagesFor session (sessions.map fun other => (other, msg)) =
      List.replicate (sessions.count session) msg := by
  induction sessions with
  | nil => rfl
  | cons other sessions ih =>
      rw [messagesFor] at ih
      by_cases hsame : other = session
      · subst hsame
        simp [messagesFor, ih, List.replicate_succ]
      · simp [messagesFor, ih, hsame]

theorem messagesFor_of_nodup {sessions : List Session} (hnodup : sessions.Nodup)
    (session : Session) (msg : String) :
    messagesFor session (sessions.map fun other => (other, msg)) =
      if session ∈ sessions then [msg] else [] := by
  rw [messagesFor_map, hnodup.count]
  split
  · rfl
  · rfl

theorem posted_post (session : Session) (state : State Session)
    (calls : List (Session × String)) :
    ((state.post calls).queue session).posted =
      (state.queue session).posted ++ messagesFor session calls := by
  rw [post_queue]

/-- Each subscriber is listed once, so a broadcast is one message for each. -/
theorem hub_broadcastToTopic {state : State Session}
    (hindexed : Indexed state.manager) (topic msg : String) :
    hub (state.post (state.manager.broadcastToTopic topic msg)) =
      (hub state).after (.publish topic msg) := by
  ext session
  · simp [hub, Hub.after]
  · simp [hub, Hub.after]
  · have hposted : (hub (state.post
        (state.manager.broadcastToTopic topic msg))).inbox session =
        (hub state).inbox session ++
          if session ∈ state.manager.topicSubscribers topic then [msg]
          else [] := by
      rw [← messagesFor_of_nodup (hindexed.nodup topic)]
      exact posted_post session state _
    rw [hposted, Hub.after]
    simp only [hub_subscribed_iff]
    split_ifs
    · rfl
    · rw [List.append_nil]

theorem hub_broadcastAll (state : State Session) (msg : String) :
    hub (state.post (state.manager.broadcastAll msg)) =
      (hub state).after (.announce msg) := by
  have hnodup : state.manager.clients.keys.Nodup :=
    AList.keys_nodup state.manager.clients
  ext session
  · simp [hub, Hub.after]
  · simp [hub, Hub.after]
  · have hposted : (hub (state.post
        (state.manager.broadcastAll msg))).inbox session =
        (hub state).inbox session ++
          if session ∈ state.manager.clients.keys then [msg] else [] := by
      rw [← messagesFor_of_nodup hnodup]
      exact posted_post session state _
    have honline : session ∈ (hub state).online ↔
        session ∈ state.manager.clients.keys := AList.mem_keys.symm
    rw [hposted, Hub.after]
    simp only [honline]
    split_ifs
    · rfl
    · rw [List.append_nil]

theorem hub_tell (state : State Session) (session : Session) (msg : String) :
    hub (state.post [(session, msg)]) =
      (hub state).after (.tell session msg) := by
  ext other
  · simp [hub, Hub.after]
  · simp [hub, Hub.after]
  · by_cases hsame : other = session
    · subst hsame
      simp [hub, Hub.after, posted_post, messagesFor]
    · simp [hub, Hub.after, posted_post, messagesFor, hsame, Ne.symm hsame]

theorem run_publish {state : State Session} (hindexed : Indexed state.manager)
    (topics : List String) (msg : String) :
    PubSub.machine.run (hub state)
        (topics.map fun topic => .publish topic msg) =
      some (hub (state.post (topics.flatMap fun topic =>
        state.manager.broadcastToTopic topic msg))) := by
  induction topics generalizing state with
  | nil => rfl
  | cons topic topics ih =>
      let posted := state.post (state.manager.broadcastToTopic topic msg)
      have hstep : PubSub.machine.step (hub state) (.publish topic msg) =
          some (hub posted) := by
        rw [hub_broadcastToTopic hindexed]
        exact PubSub.step_eq_some_iff.mpr ⟨trivial, rfl⟩
      have hmanager : posted.manager = state.manager := post_manager ..
      have hposted : Indexed posted.manager := by rwa [hmanager]
      have hrest := ih hposted
      rw [List.map_cons, Machine.run_cons, hstep, Option.bind_some, hrest,
        hmanager, List.flatMap_cons]
      simp only [posted, State.post, List.foldl_append]

/-! ## Every action is a run of the hub -/

/-- The strand of a session posts nothing. -/
theorem posted_step {queue next : WriteQueue.State String}
    {action : WriteQueue.Action String}
    (hstrand : ∀ msg, action ≠ .sendMessage msg)
    (hstep : WriteQueue.step queue action = some next) :
    next.posted = queue.posted := by
  cases action with
  | sendMessage msg => exact absurd rfl (hstrand msg)
  | runHandler =>
      rw [WriteQueue.step] at hstep
      split at hstep
      · cases hstep
      · obtain rfl := Option.some.inj hstep
        rw [WriteQueue.State.push]
        split
        · exact WriteQueue.doWrite_posted _
        · rfl
  | onWrite operation failed =>
      rw [WriteQueue.step] at hstep
      split at hstep
      · obtain rfl := Option.some.inj hstep
        rw [WriteQueue.State.onWrite]
        split
        · rfl
        · exact WriteQueue.doWrite_posted _
      · cases hstep

theorem hub_stepQueue (session : Session) (state : State Session)
    {action : WriteQueue.Action String}
    (hstrand : ∀ msg, action ≠ .sendMessage msg) :
    hub (state.stepQueue session action) = hub state := by
  refine hub_congr (stepQueue_manager ..) fun other => ?_
  by_cases hsame : other = session
  · subst hsame
    rw [State.stepQueue]
    split
    · rfl
    · next queue hstep =>
        change (Function.update state.queue other queue other).posted = _
        rw [Function.update_self]
        exact posted_step hstrand hstep
  · rw [stepQueue_queue_of_ne hsame]

theorem Consistent.live_of_pending {state : State Session}
    (hconsistent : Consistent state) {session : Session}
    (hpending : 0 < state.pendingOperations session) :
    (state.phase session).Live := by
  rw [← hconsistent.owned session, State.useCount]
  omega

/-- Each action of the server is a run of the hub. -/
theorem run_events {state next : State Session} {action : Action Session}
    (hconsistent : Consistent state) (hstep : step state action = some next) :
    PubSub.machine.run (hub state) (events state action) =
      some (hub next) := by
  obtain ⟨henabled, -, rfl⟩ := step_eq_some_iff.mp hstep
  cases action with
  | upgrade session =>
      have habsent : state.phase session = .absent := by
        simpa [enabled] using henabled
      have hnew : session ∉ state.manager.clients := fun hmem =>
        ((hconsistent.registered session).mp hmem).1 habsent
      apply Machine.run_singleton
      exact PubSub.step_eq_some_iff.mpr
        ⟨hnew, (hub_upgrade hconsistent.indexed hnew).symm⟩
  | onAccept session failed =>
      have hphase : state.phase session = .accepting := by
        simpa [enabled] using henabled
      refine run_departure (hconsistent.setPhase ?_ ?_ ?_)
      · rw [hphase]
        decide
      · cases failed <;> decide
      · rw [hphase]
        rintro (hreading | hclosed)
        · cases hreading
        · cases hclosed
  | closeRead session =>
      have hphase : state.phase session = .reading := by
        simpa [enabled] using henabled
      refine run_departure (hconsistent.setPhase ?_ ?_ fun _ => Or.inr rfl)
      · rw [hphase]
        decide
      · decide
  | registerAdapter session => rfl
  | relay session msg complete =>
      rw [events, State.after]
      split
      · exact run_publish hconsistent.indexed _ msg
      · rfl
  | broadcastAll session msg =>
      apply Machine.run_singleton
      exact PubSub.step_eq_some_iff.mpr
        ⟨trivial, (hub_broadcastAll state msg).symm⟩
  | setClientMode session mode date =>
      have hunchanged : hub (state.after (.setClientMode session mode date)) =
          hub state := by
        ext other
        · simp [hub, State.after]
        · simp [hub, State.after, topicSubscribers_setClientMode]
        · rfl
      rw [hunchanged]
      rfl
  | commandAdapter session command =>
      rw [events, State.after]
      cases hadapter : state.adapterSession with
      | none => rfl
      | some adapter =>
          have hpresent : adapter ∈ state.manager.clients :=
            (hconsistent.registered adapter).mpr
              (hconsistent.adapter adapter hadapter).live
          apply Machine.run_singleton
          exact PubSub.step_eq_some_iff.mpr
            ⟨hpresent, (hub_tell state adapter command).symm⟩
  | addClientTopics session topics =>
      have hphase : state.phase session = .reading := by
        simpa [enabled] using henabled
      have hregistered : session ∈ state.manager.clients := by
        rw [hconsistent.registered, hphase]
        decide
      apply Machine.run_singleton
      exact PubSub.step_eq_some_iff.mpr
        ⟨hregistered, (hub_addClientTopics hregistered topics).symm⟩
  | broadcastToTopic topic msg =>
      apply Machine.run_singleton
      exact PubSub.step_eq_some_iff.mpr
        ⟨trivial, (hub_broadcastToTopic hconsistent.indexed topic msg).symm⟩
  | runHandler session =>
      have hhandlers : (state.queue session).handlers ≠ [] := by
        simpa [enabled] using henabled
      have hpending : 0 < state.pendingOperations session := by
        have hlength := List.length_pos_iff.mpr hhandlers
        rw [State.pendingOperations]
        omega
      have hlive := hconsistent.live_of_pending hpending
      have hunposted : hub (state.stepQueue session .runHandler) = hub state :=
        hub_stepQueue session state (by simp)
      rw [events, State.after, ← hunposted]
      exact run_departure (hconsistent.stepQueue hlive _)
  | onWrite session operation failed =>
      have hoperation :
          operation < (state.queue session).outstanding.length := by
        simpa [enabled] using henabled
      have hpending : 0 < state.pendingOperations session := by
        rw [State.pendingOperations]
        omega
      have hlive := hconsistent.live_of_pending hpending
      have hunposted :
          hub (state.stepQueue session (.onWrite operation failed)) =
            hub state :=
        hub_stepQueue session state (by simp)
      rw [events, State.after, ← hunposted]
      exact run_departure (hconsistent.stepQueue hlive _)

/-- The server refines the hub. -/
def refinesHub : Machine.Simulation (machine : Machine (State Session) _)
    (PubSub.machine : Machine (Hub Session String String) _) where
  invariant := Consistent
  abstraction := hub
  events := events
  invariant_initial := consistent_initial
  invariant_step _ _ _ hconsistent hstep := consistent_step hconsistent hstep
  abstraction_initial := by
    ext session
    · simp [hub, machine, PubSub.machine, Hub.empty, Manager.empty,
        AList.notMem_empty]
    · simp [hub, machine, PubSub.machine, Hub.empty, Manager.empty]
    · simp [hub, machine, PubSub.machine, Hub.empty]
  matched _ _ _ hconsistent hstep := run_events hconsistent hstep

/-! ## The queues of the sessions -/

/-- Every queue is in a state that its own steps can reach. -/
def QueuesOrdered (state : State Session) : Prop :=
  ∀ session, ∃ written, WriteQueue.Invariant written (state.queue session)

theorem release_queue (session : Session) (state : State Session) :
    (state.release session).queue = state.queue := by
  rw [State.release]
  split
  · rfl
  · rfl

theorem QueuesOrdered.release {state : State Session}
    (hordered : QueuesOrdered state) (session : Session) :
    QueuesOrdered (state.release session) := by
  rwa [QueuesOrdered, release_queue]

theorem QueuesOrdered.setPhase {state : State Session}
    (hordered : QueuesOrdered state) (session : Session) (phase : Phase) :
    QueuesOrdered (state.setPhase session phase) := hordered

theorem QueuesOrdered.post {state : State Session}
    (hordered : QueuesOrdered state) (calls : List (Session × String)) :
    QueuesOrdered (state.post calls) := by
  induction calls generalizing state with
  | nil => exact hordered
  | cons call calls ih =>
      apply ih
      intro session
      obtain ⟨written, hinvariant⟩ := hordered session
      refine ⟨written, ?_⟩
      by_cases hsame : session = call.1
      · subst hsame
        simpa [State.sendMessage] using hinvariant.sendMessage call.2
      · simpa [State.sendMessage, hsame] using hinvariant

theorem QueuesOrdered.stepQueue {state : State Session}
    (hordered : QueuesOrdered state) (session : Session)
    (action : WriteQueue.Action String) :
    QueuesOrdered (state.stepQueue session action) := by
  intro other
  rw [State.stepQueue]
  split
  · exact hordered other
  · next queue hstep =>
      by_cases hsame : other = session
      · subst hsame
        obtain ⟨written, hinvariant⟩ := hordered other
        simpa using WriteQueue.invariant_step hinvariant hstep
      · simpa [hsame] using hordered other

theorem queuesOrdered_step {state next : State Session}
    {action : Action Session} (hordered : QueuesOrdered state)
    (hstep : step state action = some next) : QueuesOrdered next := by
  obtain ⟨-, -, rfl⟩ := step_eq_some_iff.mp hstep
  cases action with
  | upgrade session => exact hordered
  | onAccept session failed =>
      exact (hordered.setPhase session _).release session
  | closeRead session =>
      exact (hordered.setPhase session _).release session
  | registerAdapter session => exact hordered
  | relay session msg complete =>
      rw [State.after]
      split
      · exact hordered.post _
      · exact hordered
  | broadcastAll session msg => exact hordered.post _
  | setClientMode session mode date => exact hordered
  | commandAdapter session command =>
      rw [State.after]
      split
      · exact hordered.post _
      · exact hordered
  | addClientTopics session topics => exact hordered
  | broadcastToTopic topic msg => exact hordered.post _
  | runHandler session =>
      exact (hordered.stepQueue session .runHandler).release session
  | onWrite session operation failed =>
      exact (hordered.stepQueue session (.onWrite operation failed)).release
        session

theorem queuesOrdered_initial :
    QueuesOrdered (machine : Machine (State Session) _).initial :=
  fun _ => ⟨[], WriteQueue.invariant_initial⟩

theorem queuesOrdered_of_reachable {state : State Session}
    (hreach : machine.Reachable state) : QueuesOrdered state :=
  hreach.invariant queuesOrdered_initial
    fun _ _ _ hordered hstep => queuesOrdered_step hordered hstep

/-! ## What a session is sent -/

/-- The published messages and the requests of a run of the server. -/
abbrev published (actions : List (Action Session)) :
    List (Event Session String String) :=
  Machine.history machine events machine.initial actions

theorem posted_eq_heard {actions : List (Action Session)}
    {final : State Session}
    (hrun : machine.run machine.initial actions = some final)
    (session : Session) :
    (final.queue session).posted =
      View.absent.heard session (published actions) :=
  inbox_run_initial (refinesHub.run_trace_initial hrun) session

/-! ## Everything sent can be written -/

/-- A step of the strand of a session on which no write fails. -/
inductive StrandStep
  | handler
  | write
  deriving DecidableEq

namespace StrandStep

def onQueue : StrandStep → WriteQueue.Action String
  | .handler => .runHandler
  | .write => .onWrite 0 false

def onServer (session : Session) : StrandStep → Action Session
  | .handler => .runHandler session
  | .write => .onWrite session 0 false

theorem posts_nothing (step : StrandStep) (msg : String) :
    step.onQueue ≠ .sendMessage msg := by
  cases step with
  | handler => simp [onQueue]
  | write => simp [onQueue]

theorem completesWell (step : StrandStep) (queue : WriteQueue.State String) :
    WriteQueue.CompletesWell queue step.onQueue := by
  cases step with
  | handler => trivial
  | write => exact fun _ => rfl

end StrandStep

/-- What is left to do on a strand: a message is pushed and then written. -/
def remaining (queue : WriteQueue.State String) : ℕ :=
  2 * queue.handlers.length + queue.writeQueue.length

/-- Short of an error, a strand with something left to do has a step that
leaves less. -/
theorem exists_strandStep {queue : WriteQueue.State String}
    {written : List String} (hinvariant : WriteQueue.Invariant written queue)
    (hwrites : queue.writing = true → queue.outstanding ≠ [])
    (hleft : 0 < remaining queue) :
    ∃ (step : StrandStep) (next : WriteQueue.State String),
      WriteQueue.step queue step.onQueue = some next ∧
        remaining next < remaining queue := by
  cases hhandlers : queue.handlers with
  | cons msg handlers =>
      refine ⟨.handler, { queue with handlers := handlers }.push msg, ?_, ?_⟩
      · simp [StrandStep.onQueue, WriteQueue.step, hhandlers]
      · have hqueue : ({ queue with handlers := handlers }.push
            msg).writeQueue = queue.writeQueue ++ [msg] := by
          rw [WriteQueue.State.push]
          split
          · exact WriteQueue.doWrite_writeQueue _
          · rfl
        rw [remaining, WriteQueue.push_handlers, hqueue, remaining, hhandlers]
        simp only [List.length_append, List.length_cons, List.length_nil]
        omega
  | nil =>
      cases hinvariant.phase with
      | idle _ hqueue _ _ => simp [remaining, hhandlers, hqueue] at hleft
      | failed front rest hwriting _ houtstanding _ =>
          exact absurd houtstanding (hwrites hwriting)
      | writing front rest hwriting hqueue houtstanding _ =>
          refine ⟨.write, _, WriteQueue.step_onWrite houtstanding, ?_⟩
          rw [remaining, WriteQueue.onWrite_handlers, WriteQueue.State.onWrite,
            if_neg Bool.false_ne_true, WriteQueue.doWrite_writeQueue, remaining,
            hqueue]
          simp

/-- The strand can write everything that was posted. -/
theorem exists_strandRun {queue : WriteQueue.State String}
    {written : List String} (hinvariant : WriteQueue.Invariant written queue)
    (hwrites : queue.writing = true → queue.outstanding ≠ []) :
    ∃ (steps : List StrandStep) (final : WriteQueue.State String),
      WriteQueue.machine.run queue (steps.map StrandStep.onQueue) =
          some final ∧
        final.started = queue.posted ∧ final.outstanding = [] := by
  induction hleft : remaining queue using Nat.strong_induction_on
    generalizing queue written with
  | _ left ih =>
      rcases Nat.eq_zero_or_pos left with hdone | hmore
      · have hhandlers : queue.handlers = [] := by
          rw [← List.length_eq_zero_iff]
          rw [remaining] at hleft
          omega
        have hqueue : queue.writeQueue = [] := by
          rw [← List.length_eq_zero_iff]
          rw [remaining] at hleft
          omega
        refine ⟨[], queue, rfl, ?_⟩
        have hposted := hinvariant.posted
        cases hinvariant.phase with
        | idle _ _ houtstanding hstarted =>
            refine ⟨?_, houtstanding⟩
            rw [hposted, hqueue, hhandlers, hstarted]
            simp
        | writing front rest _ hfront _ _ => simp [hfront] at hqueue
        | failed front rest _ hfront _ _ => simp [hfront] at hqueue
      · obtain ⟨step, next, hstep, hless⟩ :=
          exists_strandStep hinvariant hwrites (hleft ▸ hmore)
        obtain ⟨written', hnext⟩ := WriteQueue.invariant_step hinvariant hstep
        have hwell := step.completesWell queue
        have hkept := (WriteQueue.completesWell_iff hinvariant hwrites
          step.onQueue).mp hwell next hstep
        obtain ⟨steps, final, hrun, hstarted, hdone⟩ :=
          ih (remaining next) (hleft ▸ hless) hnext hkept rfl
        refine ⟨step :: steps, final, ?_, ?_, hdone⟩
        · rw [List.map_cons, Machine.run_cons]
          change (WriteQueue.step _ _).bind _ = _
          rw [hstep, Option.bind_some, hrun]
        · rw [hstarted, posted_step step.posts_nothing hstep]

/-- A step of one strand is a step of the server that leaves the other queues
alone. -/
theorem step_onServer {state : State Session} {session : Session}
    {queue : WriteQueue.State String} (step : StrandStep)
    (hstep : WriteQueue.step (state.queue session) step.onQueue = some queue) :
    ∃ next, machine.step state (step.onServer session) = some next ∧
      next.queue = Function.update state.queue session queue := by
  have hqueue : (state.stepQueue session step.onQueue).queue =
      Function.update state.queue session queue := by
    rw [State.stepQueue, hstep]
  refine ⟨(state.stepQueue session step.onQueue).release session, ?_, ?_⟩
  · apply step_eq_some_iff.mpr
    cases step with
    | handler =>
        have hhandlers : (state.queue session).handlers ≠ [] := by
          intro hnone
          simp [StrandStep.onQueue, WriteQueue.step, hnone] at hstep
        refine ⟨?_, trivial, rfl⟩
        simpa [enabled, StrandStep.onServer] using hhandlers
    | write =>
        have hoperation : 0 < (state.queue session).outstanding.length := by
          by_contra hnone
          simp [StrandStep.onQueue, WriteQueue.step, hnone] at hstep
        refine ⟨?_, trivial, rfl⟩
        simpa [enabled, StrandStep.onServer] using hoperation
  · rw [release_queue, hqueue]

theorem run_onServer {state : State Session} {session : Session}
    {queue : WriteQueue.State String} {steps : List StrandStep}
    (hrun : WriteQueue.machine.run (state.queue session)
      (steps.map StrandStep.onQueue) = some queue) :
    ∃ final,
      machine.run state (steps.map (StrandStep.onServer session)) =
          some final ∧
        final.queue = Function.update state.queue session queue := by
  induction steps generalizing state with
  | nil =>
      obtain rfl : state.queue session = queue := by simpa using hrun
      exact ⟨state, rfl, (Function.update_eq_self _ _).symm⟩
  | cons step steps ih =>
      obtain ⟨stepped, hstep, hrest⟩ := Machine.exists_of_run_cons hrun
      obtain ⟨next, hnext, hqueue⟩ := step_onServer step hstep
      have hstepped : next.queue session = stepped := by
        rw [hqueue, Function.update_self]
      rw [← hstepped] at hrest
      obtain ⟨final, hfinal, hupdated⟩ := ih hrest
      refine ⟨final, ?_, ?_⟩
      · rw [List.map_cons, Machine.run_cons, hnext, Option.bind_some, hfinal]
      · rw [hupdated, hqueue, Function.update_idem]

/-- In every state a run of the server reaches, a session none of whose writes
failed can hand everything it was sent to `async_write`, by steps of its own
strand alone, which leave the queues of the other sessions as they are. -/
theorem run_canDeliver {actions : List (Action Session)}
    {state : State Session}
    (hrun : machine.run machine.initial actions = some state)
    (session : Session)
    (hwrites : (state.queue session).writing = true →
      (state.queue session).outstanding ≠ []) :
    ∃ (steps : List StrandStep) (final : State Session),
      machine.run state (steps.map (StrandStep.onServer session)) =
          some final ∧
        (final.queue session).started =
          View.absent.heard session (published actions) ∧
        (final.queue session).outstanding = [] ∧
        ∀ other, other ≠ session → final.queue other = state.queue other := by
  obtain ⟨written, hinvariant⟩ :=
    queuesOrdered_of_reachable ⟨actions, hrun⟩ session
  obtain ⟨steps, queue, hqueue, hstarted, hdone⟩ :=
    exists_strandRun hinvariant hwrites
  obtain ⟨final, hfinal, hupdated⟩ := run_onServer hqueue
  refine ⟨steps, final, hfinal, ?_, ?_, fun other hother => ?_⟩
  · rw [hupdated, Function.update_self, hstarted, posted_eq_heard hrun]
  · rw [hupdated, Function.update_self, hdone]
  · rw [hupdated, Function.update_of_ne hother]

/-- The second client asks for prices, after a first message. -/
def lateSubscriber : List (Action ℕ) :=
  [.upgrade 1, .upgrade 2, .onAccept 2 false,
    .broadcastToTopic "price_" "first", .addClientTopics 2 ["price_"],
    .broadcastToTopic "price_" "second"]

theorem run_canDeliver_late :
    ∃ (state : State ℕ) (steps : List StrandStep) (final : State ℕ),
      machine.run machine.initial lateSubscriber = some state ∧
      machine.run state (steps.map (StrandStep.onServer 2)) = some final ∧
      (final.queue 2).started =
        View.absent.heard 2 (published lateSubscriber) := by
  have hstate : machine.run machine.initial lateSubscriber = some _ := rfl
  obtain ⟨steps, final, hrun, hstarted, -⟩ :=
    run_canDeliver hstate 2 (by decide)
  exact ⟨_, steps, final, rfl, hrun, hstarted⟩

end Datafeed.Server
