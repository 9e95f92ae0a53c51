import Datafeed.Server.Sessions

/-!
# Ownership, registration and the adapter

A session exists as long as it has an owner, and exactly the existing sessions
are registered.  Since `g_adapter_session` is an owner itself, a session whose
read loop ends while it is the adapter goes on existing: it stays the registered
adapter, and the registration of another one runs its destructor under
`g_adapter_mutex`.
-/

namespace Datafeed.Server

open SessionManager

variable {Session : Type} [DecidableEq Session]

/-! ## The invariant of the sessions -/

/-- Registration, ownership and the phase of a session belong together. -/
structure Consistent (state : State Session) : Prop where
  indexed : Indexed state.manager
  registered : ∀ session,
    session ∈ state.manager.clients ↔ (state.phase session).Live
  owned : ∀ session,
    state.useCount session ≠ 0 ↔ (state.phase session).Live
  listed : ∀ topic session, session ∈ state.manager.topicSubscribers topic →
    (state.phase session).Accepted
  adapter : ∀ session, state.adapterSession = some session →
    (state.phase session).Accepted

/-- The same while a handler of `session` ends, which may have been its last
owner. -/
structure Releasing (session : Session) (state : State Session) : Prop where
  indexed : Indexed state.manager
  registered : ∀ other,
    other ∈ state.manager.clients ↔ (state.phase other).Live
  live : (state.phase session).Live
  owned : ∀ other, other ≠ session →
    (state.useCount other ≠ 0 ↔ (state.phase other).Live)
  listed : ∀ topic other, other ∈ state.manager.topicSubscribers topic →
    (state.phase other).Accepted
  adapter : ∀ other, state.adapterSession = some other →
    (state.phase other).Accepted

theorem Phase.Accepted.live {phase : Phase} (haccepted : phase.Accepted) :
    phase.Live := by
  obtain rfl | rfl := haccepted
  · decide
  · decide

theorem consistent_initial :
    Consistent (machine : Machine (State Session) (Action Session)).initial where
  indexed := indexed_empty
  registered session := by
    simp [machine, Manager.empty, AList.notMem_empty, Phase.Live]
  owned session := by
    simp [machine, State.useCount, State.pendingOperations, Phase.operations,
      Phase.Live]
  listed topic session hlisted := by
    simp [machine, Manager.empty] at hlisted
  adapter session hadapter := by
    simp [machine] at hadapter

theorem mem_topicSubscribers_of_removeClient {manager : Manager Session}
    {session other : Session} {topic : String}
    (hlisted : other ∈ (manager.removeClient session).topicSubscribers topic) :
    other ∈ manager.topicSubscribers topic := by
  cases hlookup : manager.clients.lookup session with
  | none => simpa [Manager.removeClient, hlookup] using hlisted
  | some info => exact ((mem_topicSubscribers_removeClient hlookup).mp hlisted).1

/-- The owners of a session are its phase, its queue and the adapter. -/
theorem useCount_congr {state next : State Session} {session : Session}
    (hphase : next.phase session = state.phase session)
    (hqueue : next.queue session = state.queue session)
    (hadapter : next.adapterSession = state.adapterSession) :
    next.useCount session = state.useCount session := by
  simp only [State.useCount, State.pendingOperations, hphase, hqueue, hadapter]

theorem adapterSession_ne_of_unowned {state : State Session} {session : Session}
    (hunowned : state.useCount session = 0) :
    state.adapterSession ≠ some session := by
  intro hadapter
  simp [State.useCount, hadapter] at hunowned

theorem useCount_destroy {state : State Session} {session other : Session}
    (hadapter : state.adapterSession ≠ some session) (hother : other ≠ session) :
    (state.destroy session).useCount other = state.useCount other := by
  simp only [State.useCount, State.pendingOperations, State.destroy,
    Function.update_of_ne hother, if_neg hadapter]

theorem useCount_destroy_self {state : State Session} {session : Session}
    (hunowned : state.useCount session = 0) :
    (state.destroy session).useCount session = 0 := by
  have hadapter := adapterSession_ne_of_unowned hunowned
  simp only [State.useCount, State.pendingOperations] at hunowned
  simp only [State.useCount, State.pendingOperations, State.destroy,
    Function.update_self, if_neg hadapter, Phase.operations]
  omega

theorem Releasing.destroy {state : State Session} {session : Session}
    (hreleasing : Releasing session state)
    (hunowned : state.useCount session = 0) :
    Consistent (state.destroy session) where
  indexed := hreleasing.indexed.removeClient session
  registered other := by
    by_cases hsame : other = session
    · simp [State.destroy, hsame, Phase.Live]
    · simp [State.destroy, hsame, hreleasing.registered other]
  owned other := by
    by_cases hsame : other = session
    · rw [hsame, useCount_destroy_self hunowned]
      simp [State.destroy, Phase.Live]
    · rw [useCount_destroy (adapterSession_ne_of_unowned hunowned) hsame,
        hreleasing.owned other hsame]
      simp [State.destroy, hsame]
  listed topic other hlisted := by
    have hregistered :=
      (hreleasing.indexed.removeClient session).registered hlisted
    have hsame : other ≠ session :=
      (mem_clients_removeClient.mp hregistered).1
    simpa [State.destroy, hsame] using
      hreleasing.listed topic other (mem_topicSubscribers_of_removeClient hlisted)
  adapter other hother := by
    have hadapter := adapterSession_ne_of_unowned hunowned
    have hbefore : state.adapterSession = some other := by
      simpa [State.destroy, hadapter] using hother
    have hsame : other ≠ session := by
      rintro rfl
      exact hadapter hbefore
    simpa [State.destroy, hsame] using hreleasing.adapter other hbefore

theorem Releasing.release {state : State Session} {session : Session}
    (hreleasing : Releasing session state) :
    Consistent (state.release session) := by
  rw [State.release]
  split
  · next hunowned => exact hreleasing.destroy hunowned
  · next howned =>
      refine ⟨hreleasing.indexed, hreleasing.registered, fun other => ?_,
        hreleasing.listed, hreleasing.adapter⟩
      by_cases hsame : other = session
      · subst hsame
        exact iff_of_true howned hreleasing.live
      · exact hreleasing.owned other hsame

/-! ## Each action keeps the invariant -/

theorem Consistent.upgrade {state : State Session}
    (hconsistent : Consistent state) {session : Session}
    (habsent : state.phase session = .absent) :
    Consistent (state.upgrade session) where
  indexed := by
    apply hconsistent.indexed.addClient
    intro hmem
    exact ((hconsistent.registered session).mp hmem).1 habsent
  registered other := by
    by_cases hsame : other = session
    · simp [State.upgrade, hsame, Phase.Live]
    · simp [State.upgrade, hsame, hconsistent.registered other]
  owned other := by
    by_cases hsame : other = session
    · simp [State.upgrade, hsame, State.useCount, State.pendingOperations,
        Phase.operations, Phase.Live]
    · have hphase : (state.upgrade session).phase other = state.phase other := by
        simp [State.upgrade, hsame]
      rw [useCount_congr hphase rfl rfl, hphase]
      exact hconsistent.owned other
  listed topic other hlisted := by
    have haccepted := hconsistent.listed topic other hlisted
    have hsame : other ≠ session := by
      rintro rfl
      exact haccepted.live.1 habsent
    simpa [State.upgrade, hsame] using haccepted
  adapter other hother := by
    have haccepted := hconsistent.adapter other hother
    have hsame : other ≠ session := by
      rintro rfl
      exact haccepted.live.1 habsent
    simpa [State.upgrade, hsame] using haccepted

/-- A phase that the session may enter keeps everything but its owners. -/
theorem Consistent.setPhase {state : State Session}
    (hconsistent : Consistent state) {session : Session} {phase : Phase}
    (hbefore : (state.phase session).Live) (hlive : phase.Live)
    (haccepted : (state.phase session).Accepted → phase.Accepted) :
    Releasing session (state.setPhase session phase) where
  indexed := hconsistent.indexed
  registered other := by
    by_cases hsame : other = session
    · subst hsame
      simpa [State.setPhase, hlive] using (hconsistent.registered other).mpr hbefore
    · simpa [State.setPhase, hsame] using hconsistent.registered other
  live := by simpa [State.setPhase] using hlive
  owned other hother := by
    have hphase : (state.setPhase session phase).phase other =
        state.phase other := by
      simp [State.setPhase, hother]
    rw [useCount_congr hphase rfl rfl, hphase]
    exact hconsistent.owned other
  listed topic other hlisted := by
    have hlisted' := hconsistent.listed topic other hlisted
    by_cases hsame : other = session
    · subst hsame
      simpa [State.setPhase] using haccepted hlisted'
    · simpa [State.setPhase, hsame] using hlisted'
  adapter other hother := by
    have hadapter := hconsistent.adapter other hother
    by_cases hsame : other = session
    · subst hsame
      simpa [State.setPhase] using haccepted hadapter
    · simpa [State.setPhase, hsame] using hadapter

theorem Consistent.stepQueue {state : State Session}
    (hconsistent : Consistent state) {session : Session}
    (hlive : (state.phase session).Live) (action : WriteQueue.Action String) :
    Releasing session (state.stepQueue session action) := by
  constructor
  · simpa using hconsistent.indexed
  · simpa using hconsistent.registered
  · simpa using hlive
  · intro other hother
    rw [useCount_congr (congrFun (stepQueue_phase ..) other)
      (stepQueue_queue_of_ne hother action) (stepQueue_adapterSession ..),
      stepQueue_phase]
    exact hconsistent.owned other
  · simpa using hconsistent.listed
  · simpa using hconsistent.adapter

theorem Consistent.setAdapter {state : State Session}
    (hconsistent : Consistent state) {session : Session}
    (haccepted : (state.phase session).Accepted)
    (hpending : ReplacedIsPending state (.registerAdapter session)) :
    Consistent (state.setAdapter session) where
  indexed := hconsistent.indexed
  registered := hconsistent.registered
  owned other := by
    change _ ↔ (state.phase other).Live
    rw [← hconsistent.owned other, useCount_setAdapter, State.useCount]
    by_cases hsame : session = other
    · subst hsame
      have howned := (hconsistent.owned session).mpr haccepted.live
      rw [State.useCount] at howned
      exact iff_of_true (by simp) howned
    · by_cases hadapter : state.adapterSession = some other
      · have hother := hpending other hadapter (Ne.symm hsame)
        simp [hsame, hother]
      · simp [hsame, hadapter]
  listed := hconsistent.listed
  adapter other hother := by
    obtain rfl := Option.some.inj hother
    exact haccepted

/-- Posting to a session that exists only adds owners to it. -/
theorem Consistent.sendMessage {state : State Session}
    (hconsistent : Consistent state) {call : Session × String}
    (hlive : (state.phase call.1).Live) :
    Consistent (state.sendMessage call) where
  indexed := hconsistent.indexed
  registered := hconsistent.registered
  owned other := by
    change _ ↔ (state.phase other).Live
    by_cases hsame : other = call.1
    · subst hsame
      simp [hlive, State.sendMessage, State.useCount, State.pendingOperations,
        WriteQueue.State.sendMessage]
    · have hqueue : (state.sendMessage call).queue other = state.queue other :=
        Function.update_of_ne hsame _ _
      have howners :
          (state.sendMessage call).useCount other = state.useCount other :=
        useCount_congr rfl hqueue rfl
      rw [howners]
      exact hconsistent.owned other
  listed := hconsistent.listed
  adapter := hconsistent.adapter

theorem Consistent.post {state : State Session} (hconsistent : Consistent state)
    {calls : List (Session × String)}
    (hlive : ∀ call ∈ calls, (state.phase call.1).Live) :
    Consistent (state.post calls) := by
  induction calls generalizing state with
  | nil => exact hconsistent
  | cons call calls ih =>
      apply ih (hconsistent.sendMessage (hlive call List.mem_cons_self))
      intro other hother
      exact hlive other (List.mem_cons_of_mem _ hother)

/-- A broadcast to a topic only reaches accepted sessions. -/
theorem Consistent.accepted_of_broadcastToTopic {state : State Session}
    (hconsistent : Consistent state) {topic msg : String}
    {call : Session × String}
    (hcall : call ∈ state.manager.broadcastToTopic topic msg) :
    (state.phase call.1).Accepted :=
  hconsistent.listed topic call.1 (mem_broadcastToTopic.mp hcall).1

theorem Consistent.live_of_broadcastAll {state : State Session}
    (hconsistent : Consistent state) {msg : String} {call : Session × String}
    (hcall : call ∈ state.manager.broadcastAll msg) :
    (state.phase call.1).Live := by
  obtain ⟨session, hkey, rfl⟩ := List.mem_map.mp hcall
  exact (hconsistent.registered session).mp (AList.mem_keys.mpr hkey)

theorem Consistent.accepted_of_relayMessages {state : State Session}
    (hconsistent : Consistent state) {msg : String} {complete : Bool}
    {call : Session × String}
    (hcall : call ∈ relayMessages msg complete state.manager) :
    (state.phase call.1).Accepted := by
  obtain ⟨topic, -, htopic⟩ := List.mem_flatMap.mp hcall
  exact hconsistent.accepted_of_broadcastToTopic htopic

theorem topicSubscribers_setClientMode (manager : Manager Session)
    (session : Session) (mode date : String) :
    (manager.setClientMode session mode date).topicSubscribers =
      manager.topicSubscribers := by
  rw [Manager.setClientMode]
  split <;> rfl

theorem Consistent.setClientMode {state : State Session}
    (hconsistent : Consistent state) (session : Session) (mode date : String) :
    Consistent { state with
      manager := state.manager.setClientMode session mode date } where
  indexed := hconsistent.indexed.setClientMode session mode date
  registered other := by simpa using hconsistent.registered other
  owned := hconsistent.owned
  listed topic other hlisted := by
    apply hconsistent.listed topic other
    rwa [topicSubscribers_setClientMode] at hlisted
  adapter := hconsistent.adapter

theorem Consistent.addClientTopics {state : State Session}
    (hconsistent : Consistent state) {session : Session}
    (haccepted : (state.phase session).Accepted) (topics : List String) :
    Consistent { state with
      manager := state.manager.addClientTopics session topics } where
  indexed := hconsistent.indexed.addClientTopics session topics
  registered other := by simpa using hconsistent.registered other
  owned := hconsistent.owned
  listed topic other hlisted := by
    cases hlookup : state.manager.clients.lookup session with
    | none =>
        apply hconsistent.listed topic other
        simpa [Manager.addClientTopics, hlookup] using hlisted
    | some info =>
        rcases (mem_topicSubscribers_addClientTopics hlookup).mp hlisted with
          hbefore | ⟨-, rfl⟩
        · exact hconsistent.listed topic other hbefore
        · exact haccepted
  adapter := hconsistent.adapter

theorem consistent_step {state next : State Session} {action : Action Session}
    (hconsistent : Consistent state) (hstep : step state action = some next) :
    Consistent next := by
  obtain ⟨henabled, hpending, rfl⟩ := step_eq_some_iff.mp hstep
  have hreading : ∀ session, state.phase session = .reading →
      (state.phase session).Accepted := fun session => Or.inl
  cases action with
  | upgrade session =>
      exact hconsistent.upgrade (by simpa [enabled] using henabled)
  | onAccept session failed =>
      have hphase : state.phase session = .accepting := by
        simpa [enabled] using henabled
      apply Releasing.release
      apply hconsistent.setPhase
      · rw [hphase]
        decide
      · cases failed <;> decide
      · rw [hphase]
        rintro (hreading | hclosed)
        · cases hreading
        · cases hclosed
  | closeRead session =>
      have hphase : state.phase session = .reading := by
        simpa [enabled] using henabled
      apply Releasing.release
      apply hconsistent.setPhase
      · exact (hreading session hphase).live
      · decide
      · exact fun _ => Or.inr rfl
  | registerAdapter session =>
      exact hconsistent.setAdapter
        (hreading session (by simpa [enabled] using henabled)) hpending
  | relay session msg complete =>
      rw [State.after]
      split
      · exact hconsistent.post fun call hcall =>
          (hconsistent.accepted_of_relayMessages hcall).live
      · exact hconsistent
  | broadcastAll session msg =>
      exact hconsistent.post fun call => hconsistent.live_of_broadcastAll
  | setClientMode session mode date =>
      exact hconsistent.setClientMode session mode date
  | commandAdapter session command =>
      rw [State.after]
      split
      · next adapter hadapter =>
          apply hconsistent.post
          intro call hcall
          rw [List.mem_singleton.mp hcall]
          exact (hconsistent.adapter adapter hadapter).live
      · exact hconsistent
  | addClientTopics session topics =>
      exact hconsistent.addClientTopics
        (hreading session (by simpa [enabled] using henabled)) topics
  | broadcastToTopic topic msg =>
      exact hconsistent.post fun call hcall =>
        (hconsistent.accepted_of_broadcastToTopic hcall).live
  | runHandler session =>
      apply Releasing.release
      apply hconsistent.stepQueue
      rw [← hconsistent.owned session]
      have hhandlers : (state.queue session).handlers ≠ [] := by
        simpa [enabled] using henabled
      have hlength := List.length_pos_iff.mpr hhandlers
      rw [State.useCount, State.pendingOperations]
      omega
  | onWrite session operation failed =>
      apply Releasing.release
      apply hconsistent.stepQueue
      rw [← hconsistent.owned session]
      have hlength : operation < (state.queue session).outstanding.length := by
        simpa [enabled] using henabled
      rw [State.useCount, State.pendingOperations]
      omega

/-! ## Registrations that wait for their own mutex -/

/-- The thread of the action does not acquire `g_adapter_mutex` while it holds
it, and leaves it released. -/
def Completes (state : State Session) (action : Action Session) : Prop :=
  (call action).Completes ⟨state, false⟩

theorem completes_iff (state : State Session) (action : Action Session) :
    Completes state action ↔ ReplacedIsPending state action := by
  constructor
  · intro hcompletes
    by_contra hlast
    exact LockProgram.not_completes_of_selfDeadlock (call_selfDeadlock hlast)
      hcompletes
  · intro hpending
    exact LockProgram.completes_of_returned (call_returned hpending) rfl

theorem along_completes_iff (state : State Session)
    (actions : List (Action Session)) :
    machine.Along Completes state actions ↔
      machine.Along ReplacedIsPending state actions := by
  induction actions generalizing state with
  | nil => exact Iff.rfl
  | cons action actions ih =>
      apply and_congr (completes_iff state action)
      exact forall_congr' fun next => forall_congr' fun _ => ih next

/-- In every run, no thread acquires `g_adapter_mutex` while it holds it exactly
when each registration finds the session it replaces with a pending operation
or handler. -/
theorem run_completes_iff (actions : List (Action Session)) :
    machine.Along Completes machine.initial actions ↔
      machine.Along ReplacedIsPending machine.initial actions :=
  along_completes_iff _ actions

/-- An adapter disconnects and another one registers. -/
def replacedAdapter : List (Action ℕ) :=
  [.upgrade 1, .onAccept 1 false, .registerAdapter 1, .closeRead 1,
    .upgrade 2, .onAccept 2 false, .registerAdapter 2]

/-- The second registration of `replacedAdapter` runs the destructor of the
first adapter under the mutex. -/
theorem replacedAdapter_selfDeadlock :
    ∃ state, machine.run machine.initial (replacedAdapter.take 6) = some state ∧
      call (.registerAdapter 2) ⟨state, false⟩ = .selfDeadlock ∧
      ¬ machine.Along Completes machine.initial replacedAdapter := by
  refine ⟨_, rfl, rfl, ?_⟩
  intro halong
  have hregister := halong.2 _ rfl |>.2 _ rfl |>.2 _ rfl |>.2 _ rfl |>.2 _ rfl
    |>.2 _ rfl |>.1
  exact LockProgram.not_completes_of_selfDeadlock rfl hregister

/-! ## Sessions that have ended -/

/-- A session whose read loop has ended and that has no pending operation is
referred to by neither the adapter nor the registry. -/
def Detached (state : State Session) : Prop :=
  ∀ session,
    state.phase session = .closed ∨ state.phase session = .destroyed →
    (state.queue session).handlers = [] →
    (state.queue session).outstanding = [] →
      state.adapterSession ≠ some session ∧
        session ∉ state.manager.clients ∧
        ∀ topic, session ∉ state.manager.topicSubscribers topic

/-- The registered adapter has a pending operation or handler. -/
def AdapterPending (state : State Session) : Prop :=
  ∀ session, state.adapterSession = some session →
    state.pendingOperations session ≠ 0

/-- The action ends an operation or a handler of the session and starts no
other. -/
def EndsOperation (state : State Session) (session : Session) :
    Action Session → Prop
  | .closeRead closing => closing = session ∧ state.phase session = .reading
  | .runHandler running =>
      running = session ∧ (state.queue session).handlers ≠ [] ∧
        (state.queue session).writing = true
  | .onWrite writer operation failed =>
      writer = session ∧
        operation < (state.queue session).outstanding.length ∧
        (failed = true ∨ (state.queue session).writeQueue.length ≤ 1)
  | _ => False

/-- The action does not end the last operation of the registered adapter. -/
def KeepsAdapterPending (state : State Session) (action : Action Session) :
    Prop :=
  ∀ session, state.adapterSession = some session →
    EndsOperation state session action → state.pendingOperations session ≠ 1

theorem Consistent.detached_iff {state : State Session}
    (hconsistent : Consistent state) :
    Detached state ↔ AdapterPending state := by
  constructor
  · intro hdetached session hadapter hpending
    have haccepted := hconsistent.adapter session hadapter
    rw [State.pendingOperations, Nat.add_eq_zero_iff, Nat.add_eq_zero_iff,
      List.length_eq_zero_iff, List.length_eq_zero_iff] at hpending
    obtain ⟨⟨hoperations, hhandlers⟩, houtstanding⟩ := hpending
    rcases haccepted with hreading | hclosed
    · rw [hreading] at hoperations
      cases hoperations
    · exact (hdetached session (Or.inl hclosed) hhandlers houtstanding).1
        hadapter
  · intro hpending session hended hhandlers houtstanding
    have hnone : state.pendingOperations session = 0 := by
      rw [State.pendingOperations, hhandlers, houtstanding]
      rcases hended with hclosed | hdestroyed
      · rw [hclosed]
        rfl
      · rw [hdestroyed]
        rfl
    have hadapter : state.adapterSession ≠ some session :=
      fun hsame => hpending session hsame hnone
    have hdead : ¬ (state.phase session).Live := by
      rw [← hconsistent.owned session, State.useCount, hnone, if_neg hadapter]
      decide
    refine ⟨hadapter, fun hmem => ?_, fun topic hlisted => ?_⟩
    · exact hdead ((hconsistent.registered session).mp hmem)
    · exact hdead (hconsistent.listed topic session hlisted).live

/-! ## The operations a step leaves pending -/

omit [DecidableEq Session] in
theorem adapterPending_congr {state next : State Session}
    (hadapter : next.adapterSession = state.adapterSession)
    (hpending : ∀ session, state.adapterSession = some session →
      next.pendingOperations session = state.pendingOperations session) :
    AdapterPending next ↔ AdapterPending state := by
  rw [AdapterPending, hadapter]
  apply forall_congr'
  intro session
  apply forall_congr'
  intro hsame
  rw [hpending session hsame]

/-- A destructor does not concern the adapter, which is still owned. -/
theorem adapterPending_release_iff (state : State Session) (session : Session) :
    AdapterPending (state.release session) ↔ AdapterPending state := by
  rw [State.release]
  split
  · next hunowned =>
      have hadapter := adapterSession_ne_of_unowned hunowned
      apply adapterPending_congr
      · simp [State.destroy, hadapter]
      · intro other hother
        have hsame : other ≠ session := by
          rintro rfl
          exact hadapter hother
        simp [State.pendingOperations, State.destroy, hsame]
  · exact Iff.rfl

theorem pendingOperations_le_sendMessage (state : State Session)
    (call : Session × String) (session : Session) :
    state.pendingOperations session ≤
      (state.sendMessage call).pendingOperations session := by
  by_cases hsame : session = call.1
  · simp [State.pendingOperations, State.sendMessage, hsame,
      WriteQueue.State.sendMessage]
  · simp [State.pendingOperations, State.sendMessage, hsame]

theorem pendingOperations_le_post (state : State Session)
    (calls : List (Session × String)) (session : Session) :
    state.pendingOperations session ≤
      (state.post calls).pendingOperations session := by
  induction calls generalizing state with
  | nil => exact le_rfl
  | cons call calls ih =>
      exact (pendingOperations_le_sendMessage state call session).trans (ih _)

theorem AdapterPending.post {state : State Session}
    (hpending : AdapterPending state) (calls : List (Session × String)) :
    AdapterPending (state.post calls) := by
  intro session hadapter
  rw [post_adapterSession] at hadapter
  have hbefore := hpending session hadapter
  have hle := pendingOperations_le_post state calls session
  omega

/-- The operations of a session after a step of its queue. -/
theorem pendingOperations_stepQueue {state : State Session} {session : Session}
    {action : WriteQueue.Action String} {queue : WriteQueue.State String}
    (hstep : WriteQueue.step (state.queue session) action = some queue) :
    (state.stepQueue session action).pendingOperations session =
      (state.phase session).operations + queue.handlers.length +
        queue.outstanding.length := by
  simp [State.stepQueue, hstep, State.pendingOperations]

theorem pendingOperations_runHandler {state : State Session} {session : Session}
    (hhandlers : (state.queue session).handlers ≠ []) :
    (state.stepQueue session .runHandler).pendingOperations session + 1 =
      state.pendingOperations session +
        if (state.queue session).writing = true then 0 else 1 := by
  obtain ⟨msg, handlers, hcons⟩ := List.exists_cons_of_ne_nil hhandlers
  have hstep : WriteQueue.step (state.queue session) .runHandler =
      some ({ state.queue session with handlers := handlers }.push msg) := by
    rw [WriteQueue.step, hcons]
  rw [pendingOperations_stepQueue hstep, WriteQueue.push_handlers,
    WriteQueue.length_push_outstanding, State.pendingOperations, hcons,
    List.length_cons]
  dsimp only
  omega

theorem pendingOperations_onWrite {state : State Session} {session : Session}
    {operation : ℕ} {failed : Bool}
    (hoperation : operation < (state.queue session).outstanding.length) :
    (state.stepQueue session
        (.onWrite operation failed)).pendingOperations session + 1 =
      state.pendingOperations session +
        if failed = true ∨ (state.queue session).writeQueue.length ≤ 1 then 0
        else 1 := by
  have hstep : WriteQueue.step (state.queue session) (.onWrite operation failed) =
      some ({ state.queue session with
        outstanding :=
          (state.queue session).outstanding.eraseIdx operation }.onWrite
        failed) := by
    rw [WriteQueue.step, if_pos hoperation]
  rw [pendingOperations_stepQueue hstep, WriteQueue.onWrite_handlers,
    WriteQueue.length_onWrite_outstanding, State.pendingOperations]
  dsimp only
  rw [List.length_eraseIdx_of_lt hoperation]
  omega

/-! ## Detached sessions along a run -/

/-- The session of `step` is the only one whose operations change. -/
theorem adapterPending_stepQueue_iff {state : State Session}
    (hpending : AdapterPending state) {session : Session}
    {action : WriteQueue.Action String} :
    AdapterPending (state.stepQueue session action) ↔
      (state.adapterSession = some session →
        (state.stepQueue session action).pendingOperations session ≠ 0) := by
  constructor
  · intro hnext hadapter
    apply hnext session
    rw [stepQueue_adapterSession, hadapter]
  · intro hsession other hother
    rw [stepQueue_adapterSession] at hother
    by_cases hsame : other = session
    · subst hsame
      exact hsession hother
    · have hbefore := hpending other hother
      rwa [State.pendingOperations, stepQueue_phase,
        stepQueue_queue_of_ne hsame, ← State.pendingOperations]

theorem adapterPending_setPhase_iff {state : State Session}
    (hpending : AdapterPending state) {session : Session} {phase : Phase} :
    AdapterPending (state.setPhase session phase) ↔
      (state.adapterSession = some session →
        (state.setPhase session phase).pendingOperations session ≠ 0) := by
  constructor
  · intro hnext hadapter
    exact hnext session hadapter
  · intro hsession other hother
    by_cases hsame : other = session
    · subst hsame
      exact hsession hother
    · have hbefore := hpending other hother
      simpa [State.pendingOperations, State.setPhase, hsame] using hbefore

/-- For an action that ends no operation of the adapter it remains that the
adapter is pending afterwards. -/
theorem keepsAdapterPending_iff_of_other {state : State Session}
    {action : Action Session}
    (hother : ∀ session, state.adapterSession = some session →
      ¬ EndsOperation state session action)
    (hnext : AdapterPending (state.after action)) :
    KeepsAdapterPending state action ↔ AdapterPending (state.after action) := by
  apply iff_of_true _ hnext
  intro session hadapter hends
  exact absurd hends (hother session hadapter)

omit [DecidableEq Session] in
/-- For an action of one session, which ends one of its operations under a
condition, what remains pending is counted. -/
theorem keepsAdapterPending_iff_of_count {state next : State Session}
    (hpending : AdapterPending state) {action : Action Session}
    {session : Session} {ends : Prop} [Decidable ends]
    (hends : ∀ other,
      EndsOperation state other action ↔ session = other ∧ ends)
    (hcount : next.pendingOperations session + 1 =
      state.pendingOperations session + if ends then 0 else 1) :
    KeepsAdapterPending state action ↔
      (state.adapterSession = some session →
        next.pendingOperations session ≠ 0) := by
  constructor
  · intro hkeeps hadapter
    have hbefore := hpending session hadapter
    by_cases hlast : ends
    · have hmore := hkeeps session hadapter ((hends session).mpr ⟨rfl, hlast⟩)
      rw [if_pos hlast] at hcount
      omega
    · rw [if_neg hlast] at hcount
      omega
  · intro hnext other hadapter hother
    obtain ⟨rfl, hlast⟩ := (hends other).mp hother
    have hmore := hnext hadapter
    rw [if_pos hlast] at hcount
    omega

theorem keepsAdapterPending_closeRead_iff {state : State Session}
    (hpending : AdapterPending state) {session : Session}
    (hphase : state.phase session = .reading) :
    KeepsAdapterPending state (.closeRead session) ↔
      AdapterPending (state.after (.closeRead session)) := by
  rw [State.after, adapterPending_release_iff,
    adapterPending_setPhase_iff hpending]
  have hends (other : Session) :
      EndsOperation state other (.closeRead session) ↔
        session = other ∧ True := by
    constructor
    · rintro ⟨rfl, -⟩
      exact ⟨rfl, trivial⟩
    · rintro ⟨rfl, -⟩
      exact ⟨rfl, hphase⟩
  apply keepsAdapterPending_iff_of_count hpending hends
  simp only [State.pendingOperations, State.setPhase, hphase,
    Function.update_self, Phase.operations, if_true]
  omega

theorem keepsAdapterPending_runHandler_iff {state : State Session}
    (hpending : AdapterPending state) {session : Session}
    (hhandlers : (state.queue session).handlers ≠ []) :
    KeepsAdapterPending state (.runHandler session) ↔
      AdapterPending (state.after (.runHandler session)) := by
  rw [State.after, adapterPending_release_iff,
    adapterPending_stepQueue_iff hpending]
  apply keepsAdapterPending_iff_of_count hpending _
    (pendingOperations_runHandler hhandlers)
  intro other
  constructor
  · rintro ⟨rfl, -, hwriting⟩
    exact ⟨rfl, hwriting⟩
  · rintro ⟨rfl, hwriting⟩
    exact ⟨rfl, hhandlers, hwriting⟩

theorem keepsAdapterPending_onWrite_iff {state : State Session}
    (hpending : AdapterPending state) {session : Session} {operation : ℕ}
    {failed : Bool}
    (hoperation : operation < (state.queue session).outstanding.length) :
    KeepsAdapterPending state (.onWrite session operation failed) ↔
      AdapterPending (state.after (.onWrite session operation failed)) := by
  rw [State.after, adapterPending_release_iff,
    adapterPending_stepQueue_iff hpending]
  apply keepsAdapterPending_iff_of_count hpending _
    (pendingOperations_onWrite hoperation)
  intro other
  constructor
  · rintro ⟨rfl, -, hlast⟩
    exact ⟨rfl, hlast⟩
  · rintro ⟨rfl, hlast⟩
    exact ⟨rfl, hoperation, hlast⟩

/-- One step keeps the adapter pending exactly when it does not end its last
operation. -/
theorem Consistent.keepsAdapterPending_iff {state : State Session}
    (hconsistent : Consistent state) (hpending : AdapterPending state)
    {action : Action Session} (henabled : enabled state action = true) :
    KeepsAdapterPending state action ↔ AdapterPending (state.after action) := by
  cases action with
  | upgrade session =>
      have habsent : state.phase session = .absent := by
        simpa [enabled] using henabled
      refine keepsAdapterPending_iff_of_other (fun _ _ hends => hends) ?_
      intro other hother
      have hsame : other ≠ session := by
        rintro rfl
        exact (hconsistent.adapter other hother).live.1 habsent
      have hbefore := hpending other hother
      simpa [State.after, State.pendingOperations, State.upgrade, hsame] using
        hbefore
  | onAccept session failed =>
      have hphase : state.phase session = .accepting := by
        simpa [enabled] using henabled
      refine keepsAdapterPending_iff_of_other (fun _ _ hends => hends) ?_
      rw [State.after, adapterPending_release_iff,
        adapterPending_setPhase_iff hpending]
      intro hadapter
      have haccepted := hconsistent.adapter session hadapter
      rw [hphase] at haccepted
      exact absurd haccepted (by decide)
  | closeRead session =>
      exact keepsAdapterPending_closeRead_iff hpending
        (by simpa [enabled] using henabled)
  | registerAdapter session =>
      have hphase : state.phase session = .reading := by
        simpa [enabled] using henabled
      refine keepsAdapterPending_iff_of_other (fun _ _ hends => hends) ?_
      intro other hother
      obtain rfl := Option.some.inj hother
      simp [State.after, State.setAdapter, State.pendingOperations, hphase,
        Phase.operations]
  | relay session msg complete =>
      refine keepsAdapterPending_iff_of_other (fun _ _ hends => hends) ?_
      rw [State.after]
      split
      · exact hpending.post _
      · exact hpending
  | broadcastAll session msg =>
      refine keepsAdapterPending_iff_of_other (fun _ _ hends => hends) ?_
      exact hpending.post _
  | setClientMode session mode date =>
      refine keepsAdapterPending_iff_of_other (fun _ _ hends => hends) ?_
      exact hpending
  | commandAdapter session command =>
      refine keepsAdapterPending_iff_of_other (fun _ _ hends => hends) ?_
      rw [State.after]
      split
      · exact hpending.post _
      · exact hpending
  | addClientTopics session topics =>
      refine keepsAdapterPending_iff_of_other (fun _ _ hends => hends) ?_
      exact hpending
  | broadcastToTopic topic msg =>
      refine keepsAdapterPending_iff_of_other (fun _ _ hends => hends) ?_
      exact hpending.post _
  | runHandler session =>
      exact keepsAdapterPending_runHandler_iff hpending
        (by simpa [enabled] using henabled)
  | onWrite session operation failed =>
      exact keepsAdapterPending_onWrite_iff hpending
        (by simpa [enabled] using henabled)

omit [DecidableEq Session] in
/-- An action that ends an operation is enabled and takes no mutex for a
registration. -/
theorem enabled_of_endsOperation {state : State Session} {session : Session}
    {action : Action Session} (hends : EndsOperation state session action) :
    enabled state action = true ∧ ReplacedIsPending state action := by
  cases action with
  | closeRead closing =>
      obtain ⟨rfl, hphase⟩ := hends
      exact ⟨by simp [enabled, hphase], trivial⟩
  | runHandler running =>
      obtain ⟨rfl, hhandlers, -⟩ := hends
      exact ⟨by simp [enabled, hhandlers], trivial⟩
  | onWrite writer operation failed =>
      obtain ⟨rfl, hoperation, -⟩ := hends
      exact ⟨by simp [enabled, hoperation], trivial⟩
  | _ => exact hends.elim

theorem Consistent.step_detached_iff {state : State Session}
    (hconsistent : Consistent state) (hdetached : Detached state)
    (action : Action Session) :
    KeepsAdapterPending state action ↔
      ∀ next, step state action = some next → Detached next := by
  have hpending := hconsistent.detached_iff.mp hdetached
  constructor
  · intro hkeeps next hstep
    have hnext := consistent_step hconsistent hstep
    obtain ⟨henabled, -, rfl⟩ := step_eq_some_iff.mp hstep
    exact hnext.detached_iff.mpr
      ((hconsistent.keepsAdapterPending_iff hpending henabled).mp hkeeps)
  · intro hsteps session hadapter hends
    obtain ⟨henabled, hreplaced⟩ := enabled_of_endsOperation hends
    have hstep := step_eq_some_iff.mpr ⟨henabled, hreplaced, rfl⟩
    have hnext := (consistent_step hconsistent hstep).detached_iff.mp
      (hsteps _ hstep)
    exact (hconsistent.keepsAdapterPending_iff hpending henabled).mpr hnext
      session hadapter hends

theorem detached_initial :
    Detached (machine : Machine (State Session) (Action Session)).initial := by
  intro session hended
  simp [machine] at hended

/-- In every run, all sessions that have ended are detached in every state
exactly when no step ends the last operation of the registered adapter. -/
theorem run_detached_iff (actions : List (Action Session)) :
    machine.Throughout Detached machine.initial actions ↔
      machine.Along KeepsAdapterPending machine.initial actions :=
  Machine.throughout_iff_along
    (fun _ _ _ hconsistent hstep => consistent_step hconsistent hstep)
    (fun _ action hconsistent hdetached =>
      hconsistent.step_detached_iff hdetached action)
    consistent_initial detached_initial

/-- What a `_Backtest` message sends to the adapter. -/
def startCommand : String := "\x7b\"command\":\"start\"\x7d"

/-- An adapter disconnects, and a client asks for a backtest. -/
def commandedAdapter : List (Action ℕ) :=
  [.upgrade 1, .onAccept 1 false, .registerAdapter 1, .closeRead 1,
    .upgrade 2, .onAccept 2 false, .commandAdapter 2 startCommand]

/-- The session that has ended is still the adapter, and the command is posted
to it. -/
theorem commandedAdapter_not_detached :
    ∃ ended state,
      machine.run machine.initial (commandedAdapter.take 4) = some ended ∧
        ended.phase 1 = .closed ∧ ended.pendingOperations 1 = 0 ∧
        ended.adapterSession = some 1 ∧ ¬ Detached ended ∧
        machine.run machine.initial commandedAdapter = some state ∧
        (state.queue 1).handlers = [startCommand] ∧
        ¬ machine.Throughout Detached machine.initial commandedAdapter := by
  have hended : ∀ ended : State ℕ, ended.phase 1 = .closed →
      (ended.queue 1).handlers = [] → (ended.queue 1).outstanding = [] →
      ended.adapterSession = some 1 → ¬ Detached ended := by
    intro ended hclosed hhandlers houtstanding hadapter hdetached
    exact (hdetached 1 (Or.inl hclosed) hhandlers houtstanding).1 hadapter
  refine ⟨_, _, rfl, rfl, rfl, rfl, hended _ rfl rfl rfl rfl, rfl, rfl, ?_⟩
  intro hthroughout
  have hstate := hthroughout.2 _ rfl |>.2 _ rfl |>.2 _ rfl |>.2 _ rfl |>.1
  exact hended _ rfl rfl rfl rfl hstate

end Datafeed.Server
