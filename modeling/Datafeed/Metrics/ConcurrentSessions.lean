import Datafeed.Metrics.ConcurrentDepth

/-!
# Active counters under concurrent calls

The counters of `SessionMonitor` are atomics too.  A removal loads its counter and
subtracts in a step of its own, as a decrement of a depth does; only the map of
the connections of each client has a mutex, and what is done under it is one step.
-/

namespace Datafeed.SessionMonitor

open Interleaving (Program Counter Effect)

/-- The counters that go up and down. -/
inductive ActiveCounter
  | clients
  | sessions
  | subscriptions
  deriving DecidableEq

def ActiveCounter.get (monitor : SessionMonitor) : ActiveCounter → UInt64
  | .clients => monitor.activeClients
  | .sessions => monitor.activeSessions
  | .subscriptions => monitor.activeSubscriptions

def ActiveCounter.set (value : UInt64) (monitor : SessionMonitor) :
    ActiveCounter → SessionMonitor
  | .clients => { monitor with activeClients := value }
  | .sessions => { monitor with activeSessions := value }
  | .subscriptions => { monitor with activeSubscriptions := value }

namespace ActiveCounter

@[simp]
theorem get_set_self (counter : ActiveCounter) (value : UInt64)
    (monitor : SessionMonitor) : counter.get (counter.set value monitor) = value := by
  cases counter <;> rfl

theorem get_set_of_ne {counter other : ActiveCounter} (hne : counter ≠ other)
    (value : UInt64) (monitor : SessionMonitor) :
    counter.get (other.set value monitor) = counter.get monitor := by
  cases counter <;> cases other <;> first | rfl | exact absurd rfl hne

theorem set_get_self (counter : ActiveCounter) (monitor : SessionMonitor) :
    counter.set (counter.get monitor) monitor = monitor := by
  cases counter <;> rfl

end ActiveCounter

/-- Where a call stands. -/
inductive CallPoint
  | start
  /-- A removal that has loaded a counter above zero. -/
  | subtract
  | countTotal
  | countClient
  /-- A reset that has stored to so many members. -/
  | storing (stored : ℕ)
  | returned
  deriving DecidableEq

/-- `fetch_add`. -/
def add (counter : ActiveCounter) (monitor : SessionMonitor) : SessionMonitor :=
  counter.set (counter.get monitor + 1) monitor

/-- `fetch_sub`. -/
def subtract (counter : ActiveCounter) (monitor : SessionMonitor) :
    SessionMonitor :=
  counter.set (counter.get monitor - 1) monitor

/-- The test `if (current > 0)`, and where the call goes on otherwise. -/
def ifPositive (counter : ActiveCounter) (monitor : SessionMonitor)
    (otherwise : CallPoint) : CallPoint :=
  if counter.get monitor > 0 then .subtract else otherwise

/-- `connections_per_client_[client_id]++`, under the mutex of the map. -/
def countClient (clientId : String) (monitor : SessionMonitor) : SessionMonitor :=
  let connections := monitor.connectionsPerClient
  { monitor with
    connectionsPerClient := connections.insert clientId
      ((connections.lookup clientId).getD 0 + 1) }

/-- What `reset` does one after the other; the map is cleared under its mutex. -/
def resetStores : List (SessionMonitor → SessionMonitor) :=
  [({ · with activeClients := 0 }),
    ({ · with activeSessions := 0 }),
    ({ · with activeSubscriptions := 0 }),
    ({ · with totalConnections := 0 }),
    ({ · with totalDisconnections := 0 }),
    ({ · with authenticationFailures := 0 }),
    ({ · with reconnectCount := 0 }),
    ({ · with averageSessionDurationMs := 0 }),
    ({ · with longestSessionDurationMs := 0 }),
    ({ · with connectionsPerClient := ∅ })]

/-- The next access of a call. -/
def sessionStep (monitor : SessionMonitor) :
    Operation → CallPoint → Option (SessionMonitor × CallPoint)
  | .onClientConnected _, .start => some (add .clients monitor, .countTotal)
  | .onClientConnected clientId, .countTotal =>
      some ({ monitor with totalConnections := monitor.totalConnections + 1 },
        if clientId = "" then .returned else .countClient)
  | .onClientConnected clientId, .countClient =>
      some (countClient clientId monitor, .returned)
  | .onClientDisconnected _, .start =>
      some (monitor, ifPositive .clients monitor .countTotal)
  | .onClientDisconnected _, .subtract =>
      some (subtract .clients monitor, .countTotal)
  | .onClientDisconnected _, .countTotal =>
      some ({ monitor with
        totalDisconnections := monitor.totalDisconnections + 1 }, .returned)
  | .onSessionCreated, .start => some (add .sessions monitor, .returned)
  | .onSessionRemoved, .start =>
      some (monitor, ifPositive .sessions monitor .returned)
  | .onSessionRemoved, .subtract =>
      some (subtract .sessions monitor, .returned)
  | .onSubscriptionCreated, .start => some (add .subscriptions monitor, .returned)
  | .onSubscriptionRemoved, .start =>
      some (monitor, ifPositive .subscriptions monitor .returned)
  | .onSubscriptionRemoved, .subtract =>
      some (subtract .subscriptions monitor, .returned)
  | .onAuthenticationFailure _, .start =>
      some ({ monitor with
        authenticationFailures := monitor.authenticationFailures + 1 }, .returned)
  | .onReconnect _, .start =>
      some ({ monitor with reconnectCount := monitor.reconnectCount + 1 },
        .returned)
  | .reset, .storing stored =>
      resetStores[stored]?.map fun store =>
        (store monitor,
          if stored + 1 < resetStores.length then .storing (stored + 1)
          else .returned)
  | _, _ => none

def Operation.enter : Operation → CallPoint
  | .reset => .storing 0
  | _ => .start

def sessionProgram : Program SessionMonitor Operation CallPoint Unit where
  enter := Operation.enter
  step monitor operation point _ := sessionStep monitor operation point

/-- Any number of calls on a new monitor. -/
def sessions : Machine (Interleaving.State SessionMonitor Operation CallPoint)
    (Interleaving.Action Operation Unit) :=
  sessionProgram.machine {}

/-! ## A call without another in between -/

theorem alone_removal {operation : Operation} {monitor : SessionMonitor}
    (counter : ActiveCounter) {otherwise : CallPoint}
    (hstart : sessionStep monitor operation .start =
      some (monitor, ifPositive counter monitor otherwise))
    (hsubtract : sessionStep monitor operation .subtract =
      some (subtract counter monitor, otherwise)) :
    sessionProgram.Alone operation monitor .start
      (counter.set (decrement (counter.get monitor)) monitor) otherwise := by
  by_cases hpositive : counter.get monitor > 0
  · rw [show decrement (counter.get monitor) = counter.get monitor - 1 from
      if_pos hpositive]
    refine .goesOn () hstart ?_
    rw [ifPositive, if_pos hpositive]
    exact .goesOn () hsubtract (.here _ _)
  · rw [show decrement (counter.get monitor) = counter.get monitor from
      if_neg hpositive, ActiveCounter.set_get_self]
    refine .goesOn () hstart ?_
    rw [ifPositive, if_neg hpositive]
    exact .here _ _

/-- A call that no other one comes between does what the operation does. -/
theorem alone_apply (monitor : SessionMonitor) (operation : Operation) :
    sessionProgram.Alone operation monitor operation.enter
      (monitor.apply operation) .returned := by
  cases operation with
  | onClientConnected clientId =>
      refine .goesOn () rfl (.goesOn () rfl ?_)
      rw [apply, onClientConnected]
      by_cases hempty : clientId = ""
      · rw [if_pos hempty, if_pos hempty]
        exact .here _ _
      · rw [if_neg hempty, if_neg hempty]
        exact .goesOn () rfl (.here _ _)
  | onClientDisconnected clientId =>
      exact (alone_removal .clients rfl rfl).trans (.goesOn () rfl (.here _ _))
  | onSessionRemoved => exact alone_removal .sessions rfl rfl
  | onSubscriptionRemoved => exact alone_removal .subscriptions rfl rfl
  | onSessionCreated | onSubscriptionCreated | onAuthenticationFailure clientId
  | onReconnect clientId =>
      exact .goesOn () rfl (.here _ _)
  | reset =>
      refine .goesOn () rfl (.goesOn () rfl (.goesOn () rfl (.goesOn () rfl ?_)))
      refine .goesOn () rfl (.goesOn () rfl (.goesOn () rfl (.goesOn () rfl ?_)))
      exact .goesOn () rfl (.goesOn () rfl (.here _ _))

/-- So it does from any state of the calls. -/
theorem exists_run_apply
    (state : Interleaving.State SessionMonitor Operation CallPoint)
    (operation : Operation) :
    ∃ actions, sessions.run state actions =
      some ⟨state.shared.apply operation,
        state.calls ++ [⟨operation, .returned⟩]⟩ := by
  obtain ⟨choices, hrun⟩ :=
    (alone_apply state.shared operation).exists_run state.calls
  exact ⟨.call operation :: choices.map (.step state.calls.length), hrun⟩

/-! ## What an access does -/

/-- The counter that a call of an operation adds to. -/
def Operation.added : Operation → Option ActiveCounter
  | .onClientConnected _ => some .clients
  | .onSessionCreated => some .sessions
  | .onSubscriptionCreated => some .subscriptions
  | _ => none

/-- The counter that a call of an operation may subtract from. -/
def Operation.removed : Operation → Option ActiveCounter
  | .onClientDisconnected _ => some .clients
  | .onSessionRemoved => some .sessions
  | .onSubscriptionRemoved => some .subscriptions
  | _ => none

namespace ActiveCounter

def adding (counter : ActiveCounter) (operation : Operation)
    (point : CallPoint) : Bool :=
  operation.added = some counter ∧ point = .start

def subtracting (counter : ActiveCounter) (operation : Operation)
    (point : CallPoint) : Bool :=
  operation.removed = some counter ∧ point = .subtract

/-- What an access does to each of the counters. -/
structure Affects (operation : Operation) (monitor : SessionMonitor)
    (point : CallPoint) (next : SessionMonitor) (pointNext : CallPoint) : Prop where
  effect : ∀ counter : ActiveCounter,
    Effect (counter.get monitor) (counter.get next) 0
      (counter.adding operation point) (counter.adding operation pointNext)
      (counter.subtracting operation point)
  tested : ∀ counter : ActiveCounter,
    counter.subtracting operation pointNext = true → counter.get next ≠ 0

variable {operation : Operation} {other : ActiveCounter}
  {monitor next : SessionMonitor} {point pointNext : CallPoint}

theorem affects_add (hadded : operation.added = some other)
    (hnext : pointNext ≠ .start ∧ pointNext ≠ .subtract) :
    Affects operation monitor .start (add other monitor) pointNext where
  effect counter := by
    by_cases hsame : counter = other
    · subst hsame
      exact .adds (by rw [add, get_set_self]) (by simp [adding, hadded])
        (by simp [adding, hnext]) (by simp [subtracting])
    · have hnot : operation.added ≠ some counter := by
        rw [hadded]
        exact fun h => hsame (Option.some.inj h).symm
      exact .keeps (by rw [add, get_set_of_ne hsame]) (by simp [adding, hnot])
        (by simp [subtracting])
  tested counter := by simp [subtracting, hnext]

theorem affects_subtract (hremoved : operation.removed = some other)
    (hnext : pointNext ≠ .start ∧ pointNext ≠ .subtract) :
    Affects operation monitor .subtract (subtract other monitor) pointNext where
  effect counter := by
    by_cases hsame : counter = other
    · subst hsame
      exact .subtracts (by rw [subtract, get_set_self]) (by simp [adding, hnext])
        (by simp [subtracting, hremoved])
    · have hnot : operation.removed ≠ some counter := by
        rw [hremoved]
        exact fun h => hsame (Option.some.inj h).symm
      exact .keeps (by rw [subtract, get_set_of_ne hsame])
        (by simp [adding, hnext]) (by simp [subtracting, hnot])
  tested counter := by simp [subtracting, hnext]

theorem affects_load (hadded : operation.added = none)
    (hremoved : operation.removed = some other) {otherwise : CallPoint}
    (hotherwise : otherwise ≠ .subtract) :
    Affects operation monitor .start monitor
      (ifPositive other monitor otherwise) where
  effect counter :=
    .keeps rfl (by simp [adding, hadded]) (by simp [subtracting])
  tested counter hsubtracting := by
    obtain ⟨hcounter, hpoint⟩ := of_decide_eq_true hsubtracting
    obtain rfl : other = counter :=
      Option.some.inj (hremoved.symm.trans hcounter)
    rw [ifPositive] at hpoint
    split at hpoint
    · exact UInt64.pos_iff_ne_zero.mp ‹_›
    · exact absurd hpoint hotherwise

/-- An access to another member. -/
theorem affects_of_kept
    (hkept : ∀ counter : ActiveCounter, counter.get next = counter.get monitor)
    (hstart : point = .start → operation.added = none)
    (hsubtract : point ≠ .subtract)
    (hnext : pointNext ≠ .start ∧ pointNext ≠ .subtract) :
    Affects operation monitor point next pointNext where
  effect counter := by
    refine .keeps (hkept counter) ?_ (by simp [subtracting, hsubtract])
    by_cases hpoint : point = .start
    · simp [adding, hstart hpoint]
    · simp [adding, hnext, hpoint]
  tested counter := by simp [subtracting, hnext]

end ActiveCounter

/-- A member that `reset` has stored to is zero, the others are as they were. -/
theorem get_of_mem_resetStores {store : SessionMonitor → SessionMonitor}
    (hmem : store ∈ resetStores) (counter : ActiveCounter)
    (monitor : SessionMonitor) :
    counter.get (store monitor) = counter.get monitor ∨
      counter.get (store monitor) = 0 := by
  simp only [resetStores, List.mem_cons, List.not_mem_nil, or_false] at hmem
  rcases hmem with rfl | rfl | rfl | rfl | rfl | rfl | rfl | rfl | rfl | rfl <;>
    cases counter <;> first | exact Or.inl rfl | exact Or.inr rfl

open ActiveCounter in
theorem affects_of_sessionStep {monitor next : SessionMonitor}
    {operation : Operation} {point pointNext : CallPoint}
    (hstep : sessionStep monitor operation point = some (next, pointNext)) :
    Affects operation monitor point next pointNext := by
  cases operation with
  | onClientConnected clientId =>
      cases point with
      | start =>
          obtain ⟨rfl, rfl⟩ := Option.some.inj hstep
          exact affects_add rfl (by simp)
      | countTotal =>
          obtain ⟨rfl, rfl⟩ := Option.some.inj hstep
          refine affects_of_kept (by rintro ⟨⟩ <;> rfl) (by simp) (by simp) ?_
          split <;> simp
      | countClient =>
          obtain ⟨rfl, rfl⟩ := Option.some.inj hstep
          exact affects_of_kept (by rintro ⟨⟩ <;> rfl) (by simp) (by simp)
            (by simp)
      | _ => cases hstep
  | onClientDisconnected clientId =>
      cases point with
      | start =>
          obtain ⟨rfl, rfl⟩ := Option.some.inj hstep
          exact affects_load rfl rfl (by simp)
      | subtract =>
          obtain ⟨rfl, rfl⟩ := Option.some.inj hstep
          exact affects_subtract rfl (by simp)
      | countTotal =>
          obtain ⟨rfl, rfl⟩ := Option.some.inj hstep
          exact affects_of_kept (by rintro ⟨⟩ <;> rfl) (by simp) (by simp)
            (by simp)
      | _ => cases hstep
  | onSessionCreated | onSubscriptionCreated =>
      cases point with
      | start =>
          obtain ⟨rfl, rfl⟩ := Option.some.inj hstep
          exact affects_add rfl (by simp)
      | _ => cases hstep
  | onSessionRemoved | onSubscriptionRemoved =>
      cases point with
      | start =>
          obtain ⟨rfl, rfl⟩ := Option.some.inj hstep
          exact affects_load rfl rfl (by simp)
      | subtract =>
          obtain ⟨rfl, rfl⟩ := Option.some.inj hstep
          exact affects_subtract rfl (by simp)
      | _ => cases hstep
  | onAuthenticationFailure clientId | onReconnect clientId =>
      cases point with
      | start =>
          obtain ⟨rfl, rfl⟩ := Option.some.inj hstep
          exact affects_of_kept (by rintro ⟨⟩ <;> rfl) (fun _ => rfl) (by simp)
            (by simp)
      | _ => cases hstep
  | reset =>
      cases point with
      | storing stored =>
          obtain ⟨store, hstore, hresult⟩ := Option.map_eq_some_iff.mp hstep
          obtain ⟨rfl, rfl⟩ := hresult
          have hmem : store ∈ resetStores := List.mem_of_getElem? hstore
          refine ⟨fun counter => ?_, fun _ hsubtracting => ?_⟩
          · rcases get_of_mem_resetStores hmem counter monitor with hkept | hzero
            · exact .keeps hkept rfl rfl
            · refine .stores ?_ rfl rfl
              rw [hzero]
              exact Nat.le_refl 0
          · cases hsubtracting
      | _ => cases hstep

/-- A counter, as the calls count it. -/
def activeCounter (counter : ActiveCounter) : Counter sessionProgram where
  value := counter.get
  increments operation := operation.added = some counter
  assigned _ := 0
  adding := counter.adding
  subtracting := counter.subtracting
  adding_enter operation := by
    cases operation <;> simp [ActiveCounter.adding, sessionProgram,
      Operation.enter, Operation.added]
  effect hstep := (affects_of_sessionStep hstep).effect counter
  enabled monitor operation point choice hsubtracting := by
    obtain ⟨hremoved, rfl⟩ := of_decide_eq_true hsubtracting
    cases operation with
    | onClientDisconnected clientId | onSessionRemoved | onSubscriptionRemoved =>
        rfl
    | _ => cases hremoved
  subtracting_enter operation := by
    cases operation <;> simp [ActiveCounter.subtracting, sessionProgram,
      Operation.enter]
  tested hstep := (affects_of_sessionStep hstep).tested counter

/-! ## Throughout a run -/

open QueueMonitor (DepthCall Queue depthCounter depths)

theorem throughout_bounded {counter : ActiveCounter}
    {actions : List (Interleaving.Action Operation Unit)}
    (halong : sessions.Along (activeCounter counter).Finds sessions.initial
      actions) :
    sessions.Throughout (activeCounter counter).Bounded sessions.initial actions :=
  Counter.throughout_bounded (by cases counter <;> rfl) halong

/-- So it is if nothing lowers the counter while a removal is about to subtract. -/
theorem throughout_bounded_of_undisturbed {counter : ActiveCounter}
    {actions : List (Interleaving.Action Operation Unit)}
    (halong : sessions.Along (activeCounter counter).Undisturbed
      sessions.initial actions) :
    sessions.Throughout (activeCounter counter).Bounded sessions.initial actions :=
  throughout_bounded (Counter.finds_of_undisturbed halong)

/-- A depth and an active counter never wrap, and the maximum keeps up, in every
run in which each call that subtracts finds its counter above zero; and in no
other run, if it has so few calls that a counter that wraps passes its bound. -/
theorem neverWraps_iff (queue : Queue) (counter : ActiveCounter)
    (depthActions : List (Interleaving.Action DepthCall Bool))
    (actions : List (Interleaving.Action Operation Unit)) :
    ((depths.Along (depthCounter queue).Finds depths.initial depthActions →
        depths.Throughout (QueueMonitor.Right queue) depths.initial
          depthActions) ∧
      (depths.Along (depthCounter queue).Few depths.initial depthActions →
        (depths.Throughout (QueueMonitor.Right queue) depths.initial
            depthActions ↔
          depths.Along (depthCounter queue).Finds depths.initial
            depthActions))) ∧
    (sessions.Along (activeCounter counter).Finds sessions.initial actions →
        sessions.Throughout (activeCounter counter).Bounded sessions.initial
          actions) ∧
      (sessions.Along (activeCounter counter).Few sessions.initial actions →
        (sessions.Throughout (activeCounter counter).Bounded sessions.initial
            actions ↔
          sessions.Along (activeCounter counter).Finds sessions.initial
            actions)) := by
  refine ⟨⟨QueueMonitor.throughout_right, fun hfew => ?_⟩,
    throughout_bounded, fun hfew => ?_⟩
  · exact ⟨QueueMonitor.along_finds hfew, QueueMonitor.throughout_right⟩
  · refine ⟨fun hthroughout => ?_, throughout_bounded⟩
    refine Machine.along_of_throughout ?_ hfew hthroughout
    intro state action _ hfew hnext
    exact Counter.finds_of_bounded hfew hnext

/-- An increment between the load and the subtraction of a decrement does no
harm; a second decrement there does. -/
theorem neverWraps_iff_overlapping :
    (depths.Throughout (QueueMonitor.Right .incoming) depths.initial
        [.call (.setDepth .incoming 1), .call (.decrement .incoming),
          .call (.increment .incoming), .step 0 false, .step 1 false,
          .step 2 false, .step 1 false, .step 2 false] ∧
      ¬ depths.Throughout (QueueMonitor.Right .incoming) depths.initial
        [.call (.setDepth .incoming 1), .call (.decrement .incoming),
          .call (.decrement .incoming), .step 0 false, .step 1 false,
          .step 2 false, .step 1 false, .step 2 false]) ∧
    sessions.Throughout (activeCounter .clients).Bounded sessions.initial
        [.call (.onClientConnected ""), .call (.onClientDisconnected ""),
          .call (.onClientConnected ""), .step 0 (), .step 1 (), .step 2 (),
          .step 1 (), .step 2 ()] ∧
      ¬ sessions.Throughout (activeCounter .clients).Bounded sessions.initial
        [.call (.onClientConnected ""), .call (.onClientDisconnected ""),
          .call (.onClientDisconnected ""), .step 0 (), .step 1 (), .step 2 (),
          .step 1 (), .step 2 ()] := by
  have hiff := neverWraps_iff .incoming .clients
  refine ⟨⟨(hiff _ []).1.1 (by decide), ?_⟩,
    (hiff [] _).2.1 (by decide), ?_⟩
  · rw [(hiff _ []).1.2 (by decide)]
    decide
  · rw [(hiff [] _).2.2 (by decide)]
    decide

/-- Two decrements both load the depth of one, and both subtract. -/
theorem second_decrement_wraps :
    (∃ state, depths.run depths.initial
        [.call (.increment .incoming), .step 0 false, .step 0 false,
          .step 0 false, .step 0 false, .call (.decrement .incoming),
          .call (.decrement .incoming), .step 1 false, .step 2 false,
          .step 1 false, .step 2 false] = some state ∧
      (∀ call ∈ state.calls, call.point = .returned) ∧
      state.shared .incoming = { depth := 18446744073709551615, max := 1 } ∧
      ¬ (depthCounter .incoming).Bounded state ∧
      ¬ QueueMonitor.Right .incoming state) ∧
    ∃ state, sessions.run sessions.initial
        [.call (.onClientConnected "dashboard"), .step 0 (), .step 0 (),
          .step 0 (), .call (.onClientDisconnected "dashboard"),
          .call (.onClientDisconnected "dashboard"), .step 1 (), .step 2 (),
          .step 1 (), .step 2 (), .step 1 (), .step 2 ()] = some state ∧
      (∀ call ∈ state.calls, call.point = .returned) ∧
      state.shared.activeClients = 18446744073709551615 ∧
      ¬ (activeCounter .clients).Bounded state := by
  refine ⟨⟨_, rfl, by decide, by decide, ?_, ?_⟩, ⟨_, rfl, by decide, by decide, ?_⟩⟩
  · rw [Counter.Bounded]
    decide
  · intro hright
    have hbounded := hright.bounded
    rw [Counter.Bounded] at hbounded
    revert hbounded
    decide
  · rw [Counter.Bounded]
    decide

end Datafeed.SessionMonitor
