import Datafeed.Session.SessionManager

/-!
# Session lifetime and broadcasts

The registry holds raw pointers, while a `websocket_session` is owned by shared
pointers.  The end of a session is two steps: releasing the last shared pointer
drops the use count to zero and enters the destructor, and later the destructor
runs `remove_client` under the registry's mutex.  Its start is two steps as
well: the constructor runs `add_client` before `make_shared` has produced the
first owner.  A broadcast is one step under the mutex and calls `send_message`,
hence `shared_from_this`, on the sessions it finds; that call throws for a
session without an owner and the exception leaves the loop.
-/

namespace Datafeed.SessionLifetime

open SessionManager

variable {Session : Type} [DecidableEq Session]

inductive Phase
  /-- Not constructed, or storage already released. -/
  | absent
  /-- Registered by its constructor, not owned yet. -/
  | constructing
  | alive
  /-- Last owner gone, destructor entered, `remove_client` still to run. -/
  | destructing
  deriving DecidableEq

structure State (Session : Type) where
  manager : Manager Session
  useCount : Session → ℕ
  phase : Session → Phase

inductive Action (Session : Type)
  /-- The constructor, which registers the session. -/
  | construct (session : Session)
  /-- `make_shared` returns the first owner. -/
  | publish (session : Session)
  /-- A handler bound with `shared_from_this()` becomes a further owner. -/
  | retain (session : Session)
  /-- An owner lets go; the last one enters the destructor. -/
  | release (session : Session)
  /-- The destructor runs `remove_client`. -/
  | removeClient (session : Session)
  | setClientMode (session : Session) (mode date : String)
  | addClientTopics (session : Session) (topics : List String)
  | broadcastToTopic (topic message : String)
  | broadcastAll (message : String)
  deriving DecidableEq

/-- What one broadcast did: the sessions on which it called `send_message`,
each with the use count `shared_from_this` found, the use counts afterwards
(each posted handler is an owner), and whether an exception left the loop. -/
structure BroadcastResult (Session : Type) where
  called : List (Session × ℕ)
  useCount : Session → ℕ
  threw : Bool

/-- The loop of a broadcast over the sessions it found. -/
def sendMessages (useCount : Session → ℕ) :
    List Session → BroadcastResult Session
  | [] => ⟨[], useCount, false⟩
  | session :: sessions =>
      if useCount session = 0 then ⟨[(session, 0)], useCount, true⟩
      else
        let rest := sendMessages
          (Function.update useCount session (useCount session + 1)) sessions
        { rest with called := (session, useCount session) :: rest.called }

/-- The sessions a broadcast action finds in the registry. -/
def targets (manager : Manager Session) : Action Session → List Session
  | .broadcastToTopic topic message =>
      (manager.broadcastToTopic topic message).map Prod.fst
  | .broadcastAll message => (manager.broadcastAll message).map Prod.fst
  | _ => []

def broadcast (state : State Session) (action : Action Session) :
    BroadcastResult Session :=
  sendMessages state.useCount (targets state.manager action)

/-- The steps of any number of sessions and broadcasts.  Only a live session
has a handler running that changes its registration. -/
def machine : Machine (State Session) (Action Session) where
  initial := ⟨Manager.empty, fun _ => 0, fun _ => .absent⟩
  step state action :=
    match action with
    | .construct session =>
        if state.phase session = .absent then
          some { state with
            manager := state.manager.addClient session
            phase := Function.update state.phase session .constructing }
        else none
    | .publish session =>
        if state.phase session = .constructing then
          some { state with
            useCount := Function.update state.useCount session 1
            phase := Function.update state.phase session .alive }
        else none
    | .retain session =>
        if state.phase session = .alive then
          some { state with
            useCount := Function.update state.useCount session
              (state.useCount session + 1) }
        else none
    | .release session =>
        if state.phase session = .alive then
          some { state with
            useCount := Function.update state.useCount session
              (state.useCount session - 1)
            phase :=
              if state.useCount session = 1 then
                Function.update state.phase session .destructing
              else state.phase }
        else none
    | .removeClient session =>
        if state.phase session = .destructing then
          some { state with
            manager := state.manager.removeClient session
            phase := Function.update state.phase session .absent }
        else none
    | .setClientMode session mode date =>
        if state.phase session = .alive then
          some { state with
            manager := state.manager.setClientMode session mode date }
        else none
    | .addClientTopics session topics =>
        if state.phase session = .alive then
          some { state with
            manager := state.manager.addClientTopics session topics }
        else none
    | .broadcastToTopic topic message =>
        some { state with
          useCount := (broadcast state
            (.broadcastToTopic topic message)).useCount }
    | .broadcastAll message =>
        some { state with
          useCount := (broadcast state (.broadcastAll message)).useCount }

/-- Every session on which the step calls `send_message` has an owner, and no
exception leaves the broadcast. -/
def SendsToOwned (state : State Session) (action : Action Session) : Prop :=
  (∀ call ∈ (broadcast state action).called, call.2 ≠ 0) ∧
    (broadcast state action).threw = false

/-- No session the step broadcasts to is in its destructor before
`remove_client`, or in its constructor after `add_client`. -/
def OutsideTransition (state : State Session) (action : Action Session) :
    Prop :=
  ∀ session ∈ targets state.manager action,
    state.phase session ≠ .destructing ∧ state.phase session ≠ .constructing

/-! ## The broadcast loop -/

theorem sendMessages_of_owned {useCount : Session → ℕ} {sessions : List Session}
    (howned : ∀ session ∈ sessions, useCount session ≠ 0) :
    (∀ call ∈ (sendMessages useCount sessions).called, call.2 ≠ 0) ∧
      (sendMessages useCount sessions).threw = false := by
  induction sessions generalizing useCount with
  | nil => simp [sendMessages]
  | cons session sessions ih =>
      have hhead : useCount session ≠ 0 := howned session List.mem_cons_self
      have htail : ∀ other ∈ sessions,
          Function.update useCount session (useCount session + 1) other ≠ 0 := by
        intro other hother
        by_cases hsame : other = session
        · subst hsame
          simp
        · rw [Function.update_of_ne hsame]
          exact howned other (List.mem_cons_of_mem _ hother)
      obtain ⟨hcalled, hthrew⟩ := ih htail
      rw [sendMessages, if_neg hhead]
      refine ⟨?_, hthrew⟩
      intro call hcall
      rcases List.mem_cons.mp hcall with rfl | hcall
      · exact hhead
      · exact hcalled call hcall

theorem owned_of_not_threw {useCount : Session → ℕ} {sessions : List Session}
    (hthrew : (sendMessages useCount sessions).threw = false) :
    ∀ session ∈ sessions, useCount session ≠ 0 := by
  induction sessions generalizing useCount with
  | nil => simp
  | cons session sessions ih =>
      rw [sendMessages] at hthrew
      split at hthrew
      · cases hthrew
      · next hhead =>
          intro other hother
          by_cases hsame : other = session
          · exact hsame ▸ hhead
          · have htail := ih hthrew other
              ((List.mem_cons.mp hother).resolve_left hsame)
            rwa [Function.update_of_ne hsame] at htail

/-- The loop only adds owners, and only to sessions that have one. -/
theorem sendMessages_useCount_eq_zero_iff {useCount : Session → ℕ}
    {sessions : List Session} {session : Session} :
    (sendMessages useCount sessions).useCount session = 0 ↔
      useCount session = 0 := by
  induction sessions generalizing useCount with
  | nil => rfl
  | cons head sessions ih =>
      rw [sendMessages]
      split
      · rfl
      · next hhead =>
          rw [ih]
          by_cases hsame : session = head
          · subst hsame
            simp [hhead]
          · rw [Function.update_of_ne hsame]

/-! ## Ownership and registration along a run -/

/-- A session is registered from its constructor to `remove_client`, and it has
an owner exactly while it is alive. -/
structure Consistent (state : State Session) : Prop where
  indexed : Indexed state.manager
  registered : ∀ session,
    session ∈ state.manager.clients ↔ state.phase session ≠ .absent
  owned : ∀ session,
    state.useCount session ≠ 0 ↔ state.phase session = .alive

theorem consistent_initial :
    Consistent (machine : Machine (State Session) (Action Session)).initial where
  indexed := indexed_empty
  registered session := by
    simp [machine, Manager.empty, AList.notMem_empty]
  owned session := by simp [machine]

theorem Consistent.construct {state : State Session}
    (hconsistent : Consistent state) {session : Session}
    (habsent : state.phase session = .absent) :
    Consistent { state with
      manager := state.manager.addClient session
      phase := Function.update state.phase session .constructing } where
  indexed := by
    apply hconsistent.indexed.addClient
    intro hmem
    exact (hconsistent.registered session).mp hmem habsent
  registered other := by
    by_cases hsame : other = session
    · simp [hsame]
    · simp [hsame, hconsistent.registered other]
  owned other := by
    by_cases hsame : other = session
    · have hunowned : ¬ state.useCount session ≠ 0 := by
        rw [hconsistent.owned session, habsent]
        decide
      simpa [hsame] using hunowned
    · simpa [hsame] using hconsistent.owned other

theorem Consistent.publish {state : State Session}
    (hconsistent : Consistent state) {session : Session}
    (hconstructing : state.phase session = .constructing) :
    Consistent { state with
      useCount := Function.update state.useCount session 1
      phase := Function.update state.phase session .alive } where
  indexed := hconsistent.indexed
  registered other := by
    have hbefore := hconsistent.registered other
    by_cases hsame : other = session
    · subst hsame
      simpa [hconstructing] using hbefore
    · simpa [hsame] using hbefore
  owned other := by
    by_cases hsame : other = session
    · simp [hsame]
    · simpa [hsame] using hconsistent.owned other

theorem Consistent.retain {state : State Session}
    (hconsistent : Consistent state) {session : Session}
    (halive : state.phase session = .alive) :
    Consistent { state with
      useCount := Function.update state.useCount session
        (state.useCount session + 1) } where
  indexed := hconsistent.indexed
  registered := hconsistent.registered
  owned other := by
    by_cases hsame : other = session
    · simp [hsame, halive]
    · simpa [hsame] using hconsistent.owned other

theorem Consistent.release {state : State Session}
    (hconsistent : Consistent state) {session : Session}
    (halive : state.phase session = .alive) :
    Consistent { state with
      useCount := Function.update state.useCount session
        (state.useCount session - 1)
      phase :=
        if state.useCount session = 1 then
          Function.update state.phase session .destructing
        else state.phase } where
  indexed := hconsistent.indexed
  registered other := by
    have hbefore := hconsistent.registered other
    by_cases hlast : state.useCount session = 1
    · by_cases hsame : other = session
      · subst hsame
        simpa [hlast, halive] using hbefore
      · simpa [hlast, hsame] using hbefore
    · simpa [hlast] using hbefore
  owned other := by
    have hbefore := hconsistent.owned other
    have howned := (hconsistent.owned session).mpr halive
    by_cases hsame : other = session
    · subst hsame
      by_cases hlast : state.useCount other = 1
      · simp [hlast]
      · have hmore : state.useCount other - 1 ≠ 0 := by omega
        simpa [hlast, halive] using hmore
    · by_cases hlast : state.useCount session = 1
      · simpa [hlast, hsame] using hbefore
      · simpa [hlast, hsame] using hbefore

theorem Consistent.removeClient {state : State Session}
    (hconsistent : Consistent state) {session : Session}
    (hdestructing : state.phase session = .destructing) :
    Consistent { state with
      manager := state.manager.removeClient session
      phase := Function.update state.phase session .absent } where
  indexed := hconsistent.indexed.removeClient session
  registered other := by
    by_cases hsame : other = session
    · simp [hsame]
    · simpa [hsame] using hconsistent.registered other
  owned other := by
    by_cases hsame : other = session
    · have hunowned : ¬ state.useCount session ≠ 0 := by
        rw [hconsistent.owned session, hdestructing]
        decide
      simpa [hsame] using hunowned
    · simpa [hsame] using hconsistent.owned other

theorem Consistent.broadcast {state : State Session}
    (hconsistent : Consistent state) (action : Action Session) :
    Consistent { state with
      useCount := (broadcast state action).useCount } where
  indexed := hconsistent.indexed
  registered := hconsistent.registered
  owned session := by
    rw [← hconsistent.owned session]
    exact not_congr sendMessages_useCount_eq_zero_iff

theorem consistent_step {state next : State Session} {action : Action Session}
    (hconsistent : Consistent state)
    (hstep : machine.step state action = some next) : Consistent next := by
  cases action with
  | construct session =>
      simp only [machine] at hstep
      split at hstep
      · next habsent =>
          obtain rfl := Option.some.inj hstep
          exact hconsistent.construct habsent
      · cases hstep
  | publish session =>
      simp only [machine] at hstep
      split at hstep
      · next hconstructing =>
          obtain rfl := Option.some.inj hstep
          exact hconsistent.publish hconstructing
      · cases hstep
  | retain session =>
      simp only [machine] at hstep
      split at hstep
      · next halive =>
          obtain rfl := Option.some.inj hstep
          exact hconsistent.retain halive
      · cases hstep
  | release session =>
      simp only [machine] at hstep
      split at hstep
      · next halive =>
          obtain rfl := Option.some.inj hstep
          exact hconsistent.release halive
      · cases hstep
  | removeClient session =>
      simp only [machine] at hstep
      split at hstep
      · next hdestructing =>
          obtain rfl := Option.some.inj hstep
          exact hconsistent.removeClient hdestructing
      · cases hstep
  | setClientMode session mode date =>
      simp only [machine] at hstep
      split at hstep
      · obtain rfl := Option.some.inj hstep
        exact ⟨hconsistent.indexed.setClientMode session mode date,
          fun other => by simpa using hconsistent.registered other,
          hconsistent.owned⟩
      · cases hstep
  | addClientTopics session topics =>
      simp only [machine] at hstep
      split at hstep
      · obtain rfl := Option.some.inj hstep
        exact ⟨hconsistent.indexed.addClientTopics session topics,
          fun other => by simpa using hconsistent.registered other,
          hconsistent.owned⟩
      · cases hstep
  | broadcastToTopic topic message =>
      obtain rfl := Option.some.inj hstep
      exact hconsistent.broadcast _
  | broadcastAll message =>
      obtain rfl := Option.some.inj hstep
      exact hconsistent.broadcast _

/-! ## When a broadcast reaches only owned sessions -/

/-- A session that a broadcast finds in the registry is registered. -/
theorem Consistent.registered_of_mem_targets {state : State Session}
    (hconsistent : Consistent state) {action : Action Session}
    {session : Session}
    (htarget : session ∈ targets state.manager action) :
    state.phase session ≠ .absent := by
  apply (hconsistent.registered session).mp
  cases action with
  | broadcastToTopic topic message =>
      have hlisted : session ∈ state.manager.topicSubscribers topic := by
        simpa [targets, Manager.broadcastToTopic] using htarget
      exact hconsistent.indexed.registered hlisted
  | broadcastAll message =>
      have hkey : session ∈ state.manager.clients.keys := by
        simpa [targets, Manager.broadcastAll] using htarget
      exact AList.mem_keys.mpr hkey
  | _ => simp [targets] at htarget

theorem Consistent.sendsToOwned_iff {state : State Session}
    (hconsistent : Consistent state) (action : Action Session) :
    SendsToOwned state action ↔ OutsideTransition state action := by
  constructor
  · intro hsends session htarget
    have halive := (hconsistent.owned session).mp
      (owned_of_not_threw hsends.2 session htarget)
    rw [halive]
    decide
  · intro houtside
    apply sendMessages_of_owned
    intro session htarget
    apply (hconsistent.owned session).mpr
    have hregistered := hconsistent.registered_of_mem_targets htarget
    have hphase := houtside session htarget
    cases hcase : state.phase session with
    | absent => exact absurd hcase hregistered
    | constructing => exact absurd hcase hphase.2
    | alive => rfl
    | destructing => exact absurd hcase hphase.1

theorem along_sendsToOwned_iff {state : State Session}
    (hconsistent : Consistent state) (actions : List (Action Session)) :
    machine.Along SendsToOwned state actions ↔
      machine.Along OutsideTransition state actions := by
  induction actions generalizing state with
  | nil => exact Iff.rfl
  | cons action actions ih =>
      apply and_congr (hconsistent.sendsToOwned_iff action)
      apply forall_congr'
      intro next
      apply forall_congr'
      intro hstep
      exact ih (consistent_step hconsistent hstep)

/-- In every interleaving, the broadcasts call `send_message` on owned sessions
only, and none of them throws, exactly when no broadcast finds a session in its
destructor before `remove_client` or in its constructor after `add_client`. -/
theorem run_sendsToOwned_iff (actions : List (Action Session)) :
    machine.Along SendsToOwned machine.initial actions ↔
      machine.Along OutsideTransition machine.initial actions :=
  along_sendsToOwned_iff consistent_initial actions

/-- One subscribed client disconnects; a tick is broadcast after its last owner
has let go and before its destructor has removed it. -/
def disconnectDuringBroadcast : List (Action ℕ) :=
  [.construct 1, .publish 1, .addClientTopics 1 ["ticker_"], .release 1,
    .broadcastToTopic "ticker_" "tick", .removeClient 1]

/-- The broadcast of `disconnectDuringBroadcast` calls `send_message` on a
session with use count zero and throws. -/
theorem broadcast_throws_during_disconnect :
    ∃ state,
      machine.run machine.initial (disconnectDuringBroadcast.take 4) =
          some state ∧
        state.phase 1 = .destructing ∧
        (broadcast state (.broadcastToTopic "ticker_" "tick")).called =
          [(1, 0)] ∧
        (broadcast state (.broadcastToTopic "ticker_" "tick")).threw = true ∧
        ¬ machine.Along SendsToOwned machine.initial
          disconnectDuringBroadcast := by
  refine ⟨_, rfl, rfl, rfl, rfl, ?_⟩
  intro halong
  have hbroadcast := halong.2 _ rfl |>.2 _ rfl |>.2 _ rfl |>.2 _ rfl |>.1
  exact absurd hbroadcast.2 (by decide)

end Datafeed.SessionLifetime
