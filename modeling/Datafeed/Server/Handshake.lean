import Datafeed.Server.Ownership

/-!
# Writes before the handshake

The constructor registers a session before `async_accept` has completed.  The
subscribers of a topic and the adapter have sent a message, so they are
accepted; `broadcast_all` reaches every registered session.
-/

namespace Datafeed.Server

open SessionManager

variable {Session : Type} [DecidableEq Session]

/-- No `async_write` was started on a session whose `async_accept` is pending or
has failed. -/
def WritesAfterAccept (state : State Session) : Prop :=
  ∀ session,
    state.phase session = .accepting ∨ state.phase session = .rejected →
      (state.queue session).started = []

/-- When `broadcast_all` runs, every registered session is accepted. -/
def BroadcastsToAccepted (state : State Session) : Action Session → Prop
  | .broadcastAll _ _ =>
      ∀ session ∈ state.manager.clients, (state.phase session).Accepted
  | _ => True

/-- Nothing was ever posted to a session that is not accepted. -/
def QueuesUntouched (state : State Session) : Prop :=
  ∀ session, (state.phase session).Accepted ∨
    state.phase session = .destroyed ∨ state.queue session = {}

omit [DecidableEq Session] in
theorem QueuesUntouched.writesAfterAccept {state : State Session}
    (huntouched : QueuesUntouched state) : WritesAfterAccept state := by
  intro session hphase
  rcases huntouched session with haccepted | hdestroyed | hempty
  · rcases hphase with hphase | hphase <;>
      · rw [hphase] at haccepted
        exact absurd haccepted (by decide)
  · rcases hphase with hphase | hphase <;>
      · rw [hphase] at hdestroyed
        cases hdestroyed
  · rw [hempty]

/-! ## The queues that a step leaves alone -/

theorem messagesFor_of_not_mem {calls : List (Session × String)}
    {session : Session} (hother : ∀ call ∈ calls, call.1 ≠ session) :
    messagesFor session calls = [] := by
  rw [messagesFor, List.filter_eq_nil_iff.mpr]
  · rfl
  · intro call hcall
    simpa using hother call hcall

theorem post_queue_of_not_mem {state : State Session}
    {calls : List (Session × String)} {session : Session}
    (hother : ∀ call ∈ calls, call.1 ≠ session) :
    (state.post calls).queue session = state.queue session := by
  rw [post_queue, messagesFor_of_not_mem hother, List.append_nil,
    List.append_nil]

theorem QueuesUntouched.post {state : State Session}
    (huntouched : QueuesUntouched state) {calls : List (Session × String)}
    (haccepted : ∀ call ∈ calls, (state.phase call.1).Accepted) :
    QueuesUntouched (state.post calls) := by
  intro session
  rw [post_phase]
  by_cases hsession : (state.phase session).Accepted
  · exact Or.inl hsession
  · rw [post_queue_of_not_mem]
    · exact huntouched session
    · rintro call hcall rfl
      exact hsession (haccepted call hcall)

theorem QueuesUntouched.release {state : State Session}
    (huntouched : QueuesUntouched state) (session : Session) :
    QueuesUntouched (state.release session) := by
  intro other
  rw [State.release]
  split
  · by_cases hsame : other = session
    · exact Or.inr (Or.inl (by simp [State.destroy, hsame]))
    · simpa [State.destroy, hsame] using huntouched other
  · exact huntouched other

/-- Entering a phase is no step of the queue. -/
theorem QueuesUntouched.setPhase {state : State Session}
    (huntouched : QueuesUntouched state) {session : Session} {phase : Phase}
    (hphase : phase.Accepted ∨ state.queue session = {}) :
    QueuesUntouched (state.setPhase session phase) := by
  intro other
  by_cases hsame : other = session
  · subst hsame
    rcases hphase with haccepted | hempty
    · exact Or.inl (by simpa [State.setPhase] using haccepted)
    · exact Or.inr (Or.inr hempty)
  · simpa [State.setPhase, hsame] using huntouched other

/-- Only an accepted session has a step of its queue. -/
theorem QueuesUntouched.stepQueue {state : State Session}
    (huntouched : QueuesUntouched state) {session : Session}
    (haccepted : (state.phase session).Accepted)
    (action : WriteQueue.Action String) :
    QueuesUntouched (state.stepQueue session action) := by
  intro other
  rw [stepQueue_phase]
  by_cases hsame : other = session
  · subst hsame
    exact Or.inl haccepted
  · rw [stepQueue_queue_of_ne hsame]
    exact huntouched other

/-- A session with a handler or an operation is accepted. -/
theorem QueuesUntouched.accepted {state : State Session}
    (huntouched : QueuesUntouched state) (hconsistent : Consistent state)
    {session : Session}
    (hqueue : (state.queue session).handlers ≠ [] ∨
      (state.queue session).outstanding ≠ []) :
    (state.phase session).Accepted := by
  have howned : state.useCount session ≠ 0 := by
    rw [State.useCount, State.pendingOperations]
    rcases hqueue with hhandlers | houtstanding
    · have hlength := List.length_pos_iff.mpr hhandlers
      omega
    · have hlength := List.length_pos_iff.mpr houtstanding
      omega
  rcases huntouched session with haccepted | hdestroyed | hempty
  · exact haccepted
  · exact absurd hdestroyed ((hconsistent.owned session).mp howned).2
  · rcases hqueue with hhandlers | houtstanding
    · exact absurd (by rw [hempty]) hhandlers
    · exact absurd (by rw [hempty]) houtstanding

theorem queuesUntouched_step {state next : State Session}
    {action : Action Session} (hconsistent : Consistent state)
    (huntouched : QueuesUntouched state)
    (hbroadcast : BroadcastsToAccepted state action)
    (hstep : step state action = some next) : QueuesUntouched next := by
  obtain ⟨henabled, -, rfl⟩ := step_eq_some_iff.mp hstep
  cases action with
  | upgrade session =>
      have habsent : state.phase session = .absent := by
        simpa [enabled] using henabled
      apply huntouched.setPhase
      rcases huntouched session with haccepted | hdestroyed | hempty
      · exact absurd habsent haccepted.live.1
      · rw [habsent] at hdestroyed
        cases hdestroyed
      · exact Or.inr hempty
  | onAccept session failed =>
      have haccepting : state.phase session = .accepting := by
        simpa [enabled] using henabled
      apply QueuesUntouched.release
      apply huntouched.setPhase
      rcases huntouched session with haccepted | hdestroyed | hempty
      · rw [haccepting] at haccepted
        exact absurd haccepted (by decide)
      · rw [haccepting] at hdestroyed
        cases hdestroyed
      · exact Or.inr hempty
  | closeRead session =>
      apply QueuesUntouched.release
      exact huntouched.setPhase (Or.inl (Or.inr rfl))
  | registerAdapter session => exact huntouched
  | relay session msg complete =>
      rw [State.after]
      split
      · exact huntouched.post fun call => hconsistent.accepted_of_relayMessages
      · exact huntouched
  | broadcastAll session msg =>
      apply huntouched.post
      intro call hcall
      obtain ⟨registered, hkey, rfl⟩ := List.mem_map.mp hcall
      exact hbroadcast registered (AList.mem_keys.mpr hkey)
  | setClientMode session mode date => exact huntouched
  | commandAdapter session command =>
      rw [State.after]
      split
      · next adapter hadapter =>
          apply huntouched.post
          intro call hcall
          rw [List.mem_singleton.mp hcall]
          exact hconsistent.adapter adapter hadapter
      · exact huntouched
  | addClientTopics session topics => exact huntouched
  | broadcastToTopic topic msg =>
      exact huntouched.post fun call =>
        hconsistent.accepted_of_broadcastToTopic
  | runHandler session =>
      have hhandlers : (state.queue session).handlers ≠ [] := by
        simpa [enabled] using henabled
      apply QueuesUntouched.release
      exact huntouched.stepQueue
        (huntouched.accepted hconsistent (Or.inl hhandlers)) _
  | onWrite session operation failed =>
      have hoperation :
          operation < (state.queue session).outstanding.length := by
        simpa [enabled] using henabled
      have houtstanding : (state.queue session).outstanding ≠ [] := by
        rintro hnone
        simp [hnone] at hoperation
      apply QueuesUntouched.release
      exact huntouched.stepQueue
        (huntouched.accepted hconsistent (Or.inr houtstanding)) _

/-! ## Runs that broadcast to accepted sessions only -/

structure Untouched (state : State Session) : Prop where
  consistent : Consistent state
  queues : QueuesUntouched state

theorem untouched_initial :
    Untouched (machine : Machine (State Session) (Action Session)).initial :=
  ⟨consistent_initial, fun _ => Or.inr (Or.inr rfl)⟩

theorem untouched_step {state next : State Session} {action : Action Session}
    (huntouched : Untouched state)
    (hbroadcast : BroadcastsToAccepted state action)
    (hstep : machine.step state action = some next) : Untouched next where
  consistent := consistent_step huntouched.consistent hstep
  queues := queuesUntouched_step huntouched.consistent huntouched.queues
    hbroadcast hstep

theorem untouched_of_along {actions : List (Action Session)}
    {state : State Session}
    (halong : machine.Along BroadcastsToAccepted machine.initial actions)
    (hrun : machine.run machine.initial actions = some state) :
    Untouched state :=
  Machine.invariant_along (fun _ _ _ => untouched_step) untouched_initial
    halong hrun

/-- The first handler of an untouched session starts a write. -/
theorem runHandler_started {state : State Session} {session : Session}
    {msg : String} {handlers posted : List String}
    (hqueue : state.queue session =
      { handlers := msg :: handlers, posted := posted }) :
    ((state.after (.runHandler session)).queue session).started = [msg] ∧
      (state.after (.runHandler session)).phase = state.phase := by
  have hstep : WriteQueue.step (state.queue session) .runHandler =
      some
        { writeQueue := [msg]
          writing := true
          handlers := handlers
          outstanding := [msg]
          posted := posted
          started := [msg] } := by
    rw [hqueue]
    rfl
  have howned : (state.stepQueue session .runHandler).useCount session ≠ 0 := by
    rw [State.useCount, pendingOperations_stepQueue hstep, List.length_singleton]
    omega
  rw [State.after, State.release, if_neg howned, stepQueue_phase]
  refine ⟨?_, rfl⟩
  simp [State.stepQueue, hstep]

/-- What `broadcast_all` posts to a session that is not accepted is written as
soon as its strand runs. -/
theorem broadcastAll_started {state : State Session} {sender session : Session}
    {msg : String} (huntouched : Untouched state)
    (henabled : enabled state (.broadcastAll sender msg) = true)
    (hregistered : session ∈ state.manager.clients)
    (hsession : ¬ (state.phase session).Accepted) :
    ∃ final, machine.run state [.broadcastAll sender msg, .runHandler session] =
        some final ∧ ¬ WritesAfterAccept final := by
  have hlive := (huntouched.consistent.registered session).mp hregistered
  have hphase : state.phase session = .accepting ∨
      state.phase session = .rejected := by
    cases hcase : state.phase session with
    | absent => exact absurd hcase hlive.1
    | accepting => exact Or.inl rfl
    | rejected => exact Or.inr rfl
    | reading => exact absurd (Or.inl hcase) hsession
    | closed => exact absurd (Or.inr hcase) hsession
    | destroyed => exact absurd hcase hlive.2
  have hempty : state.queue session = {} := by
    rcases huntouched.queues session with haccepted | hdestroyed | hempty
    · exact absurd haccepted hsession
    · exact absurd hdestroyed hlive.2
    · exact hempty
  obtain ⟨first, handlers, hmessages⟩ : ∃ first handlers,
      messagesFor session (state.manager.broadcastAll msg) =
        first :: handlers := by
    apply List.exists_cons_of_ne_nil
    rw [messagesFor, ne_eq, List.map_eq_nil_iff, List.filter_eq_nil_iff]
    intro hnone
    have hcall : (session, msg) ∈ state.manager.broadcastAll msg :=
      List.mem_map.mpr ⟨session, AList.mem_keys.mp hregistered, rfl⟩
    exact absurd (hnone _ hcall) (by simp)
  have hqueue : (state.after (.broadcastAll sender msg)).queue session =
      { handlers := first :: handlers, posted := first :: handlers } := by
    rw [State.after, post_queue, hmessages, hempty]
    rfl
  obtain ⟨hstarted, hkept⟩ := runHandler_started hqueue
  have hposted : step state (.broadcastAll sender msg) =
      some (state.after (.broadcastAll sender msg)) :=
    step_eq_some_iff.mpr ⟨henabled, trivial, rfl⟩
  have hran : step (state.after (.broadcastAll sender msg))
      (.runHandler session) =
        some ((state.after (.broadcastAll sender msg)).after
          (.runHandler session)) := by
    refine step_eq_some_iff.mpr ⟨?_, trivial, rfl⟩
    simp [enabled, hqueue]
  refine ⟨_, Machine.run_pair hposted hran, fun hwrites => ?_⟩
  have hnone := hwrites session (by
    rw [hkept, State.after, post_phase]
    exact hphase)
  rw [hstarted] at hnone
  cases hnone

/-- In every run whose `broadcast_all` calls find accepted sessions only, no
`async_write` is started on a session before its `async_accept` has succeeded;
and where such a call finds another session, a run goes on with such a write. -/
theorem run_writes_afterAccept {actions : List (Action Session)}
    (halong : machine.Along BroadcastsToAccepted machine.initial actions) :
    machine.Throughout WritesAfterAccept machine.initial actions ∧
      ∀ state sender msg, machine.run machine.initial actions = some state →
        enabled state (.broadcastAll sender msg) = true →
        ¬ BroadcastsToAccepted state (.broadcastAll sender msg) →
          ∃ session final,
            machine.run state [.broadcastAll sender msg, .runHandler session] =
                some final ∧ ¬ WritesAfterAccept final := by
  constructor
  · exact Machine.throughout_of_along (fun _ _ _ => untouched_step)
      (fun _ huntouched => huntouched.queues.writesAfterAccept)
      untouched_initial halong
  · intro state sender msg hrun henabled hbroadcast
    have huntouched := untouched_of_along halong hrun
    simp only [BroadcastsToAccepted, not_forall] at hbroadcast
    obtain ⟨session, hregistered, hsession⟩ := hbroadcast
    exact ⟨session, broadcastAll_started huntouched henabled hregistered
      hsession⟩

/-- A backtest result is broadcast while nobody is being upgraded. -/
def broadcastToOpen : List (Action ℕ) :=
  [.upgrade 1, .onAccept 1 false, .broadcastAll 1 "result", .runHandler 1]

theorem along_broadcastToOpen :
    machine.Along BroadcastsToAccepted machine.initial broadcastToOpen := by
  refine ⟨trivial, fun opened hopened => ?_⟩
  obtain rfl := Option.some.inj hopened
  refine ⟨trivial, fun accepted haccepted => ?_⟩
  obtain rfl := Option.some.inj haccepted
  refine ⟨?_, fun _ _ => ⟨trivial, fun _ _ => trivial⟩⟩
  intro session hregistered
  have hmem : session ∈ (Manager.empty.addClient 1).clients := hregistered
  rcases mem_clients_addClient.mp hmem with rfl | hnone
  · exact Or.inl rfl
  · exact absurd hnone (AList.notMem_empty session)

theorem run_writes_afterAccept_open :
    machine.Throughout WritesAfterAccept machine.initial broadcastToOpen :=
  (run_writes_afterAccept along_broadcastToOpen).1

/-- A backtest result is broadcast while session 2 is being upgraded. -/
def broadcastDuringUpgrade : List (Action ℕ) :=
  [.upgrade 1, .onAccept 1 false, .upgrade 2, .broadcastAll 1 "result",
    .runHandler 2]

theorem write_before_accept :
    ∃ state, machine.run machine.initial broadcastDuringUpgrade = some state ∧
      state.phase 2 = .accepting ∧ (state.queue 2).started = ["result"] ∧
      ¬ WritesAfterAccept state := by
  refine ⟨_, rfl, rfl, rfl, fun hwrites => ?_⟩
  have hnone := hwrites 2 (Or.inl rfl)
  cases hnone

end Datafeed.Server
