import Datafeed.Core.Machine
import Datafeed.Core.Mutex
import Mathlib.Data.List.AList
import Mathlib.Data.Rat.Defs

/-!
# Per-exchange monitoring under one mutex

`ExchangeMonitor` keeps a map from exchange names to counters and time points.
Every public operation takes `mutex_` with a scope guard.  The model runs each
operation as a program over the map and the mutex, so a nested acquisition is
an outcome of the call.  Clock readings are arguments: `steady_clock` values
are nanoseconds since its epoch, and a default time point is zero.  Counters
are 64-bit and wrap; the two gauges of type `double` are rationals.
-/

namespace Datafeed.ExchangeMonitor

open LockProgram

/-- A `steady_clock` time point, in nanoseconds. -/
abbrev TimePoint := ℤ

structure ExchangeData where
  connected : Bool := false
  reconnectCount : UInt64 := 0
  messagesReceived : UInt64 := 0
  messagesDropped : UInt64 := 0
  parseErrors : UInt64 := 0
  websocketDisconnects : UInt64 := 0
  heartbeatFailures : UInt64 := 0
  feedLagMs : ℚ := 0
  exchangeLatencyMs : ℚ := 0
  lastHeartbeat : TimePoint := 0
  lastMessage : TimePoint := 0
  connectedSince : TimePoint := 0
  disconnectedSince : TimePoint := 0
  deriving DecidableEq

structure ExchangeStats where
  connected : Bool := false
  uptimeSeconds : ℚ := 0
  reconnectCount : UInt64 := 0
  lastHeartbeat : TimePoint := 0
  lastMessage : TimePoint := 0
  feedLagMs : ℚ := 0
  exchangeLatencyMs : ℚ := 0
  messagesReceived : UInt64 := 0
  messagesDropped : UInt64 := 0
  parseErrors : UInt64 := 0
  websocketDisconnects : UInt64 := 0
  heartbeatFailures : UInt64 := 0
  stale : Bool := false
  connectedSince : TimePoint := 0
  deriving DecidableEq

/-- The map `exchanges_`; an association list carries the distinctness of its
keys. -/
abbrev Exchanges := AList fun _ : String => ExchangeData

/-- `duration_cast<milliseconds>`, which truncates toward zero. -/
def toMilliseconds (nanoseconds : ℤ) : ℤ := nanoseconds.tdiv 1000000

/-! ## The operations -/

/-- `auto& data = exchanges_[exchange]` followed by assignments to `data`: a
missing entry is created with its default members. -/
def modifyEntry (exchange : String) (assign : ExchangeData → ExchangeData) :
    LockProgram Exchanges Unit :=
  withLock do
    let exchanges ← get
    set (exchanges.insert exchange
      (assign ((exchanges.lookup exchange).getD {})))

/-- `exchanges_.find(exchange)` followed by assignments when it is present. -/
def modifyKnown (exchange : String) (assign : ExchangeData → ExchangeData) :
    LockProgram Exchanges Unit :=
  withLock do
    let exchanges ← get
    match exchanges.lookup exchange with
    | none => return ()
    | some data => set (exchanges.insert exchange (assign data))

def onConnected (exchange : String) (since heartbeat message : TimePoint) :
    LockProgram Exchanges Unit :=
  modifyEntry exchange fun data =>
    { data with
      connected := true
      connectedSince := since
      lastHeartbeat := heartbeat
      lastMessage := message }

def onDisconnected (exchange : String) (now : TimePoint) :
    LockProgram Exchanges Unit :=
  modifyKnown exchange fun data =>
    { data with connected := false, disconnectedSince := now }

def onHeartbeat (exchange : String) (now : TimePoint) :
    LockProgram Exchanges Unit :=
  modifyEntry exchange fun data => { data with lastHeartbeat := now }

def onHeartbeatFailure (exchange : String) : LockProgram Exchanges Unit :=
  modifyEntry exchange fun data =>
    { data with heartbeatFailures := data.heartbeatFailures + 1 }

def onMessageReceived (exchange : String) (now : TimePoint) :
    LockProgram Exchanges Unit :=
  modifyEntry exchange fun data =>
    { data with
      messagesReceived := data.messagesReceived + 1
      lastMessage := now }

def onMessageDropped (exchange : String) : LockProgram Exchanges Unit :=
  modifyEntry exchange fun data =>
    { data with messagesDropped := data.messagesDropped + 1 }

def onParseError (exchange : String) : LockProgram Exchanges Unit :=
  modifyEntry exchange fun data =>
    { data with parseErrors := data.parseErrors + 1 }

def onWebSocketDisconnect (exchange : String) : LockProgram Exchanges Unit :=
  modifyEntry exchange fun data =>
    { data with websocketDisconnects := data.websocketDisconnects + 1 }

def onReconnect (exchange : String) : LockProgram Exchanges Unit :=
  modifyEntry exchange fun data =>
    { data with reconnectCount := data.reconnectCount + 1 }

def updateFeedLag (exchange : String) (lagMs : ℚ) :
    LockProgram Exchanges Unit :=
  modifyEntry exchange fun data => { data with feedLagMs := lagMs }

def updateExchangeLatency (exchange : String) (latencyMs : ℚ) :
    LockProgram Exchanges Unit :=
  modifyEntry exchange fun data => { data with exchangeLatencyMs := latencyMs }

/-- The statistics of one known exchange at a clock reading.  Uptime and
staleness keep their defaults while the exchange is not connected. -/
def entryStats (data : ExchangeData) (now : TimePoint) : ExchangeStats where
  connected := data.connected
  reconnectCount := data.reconnectCount
  messagesReceived := data.messagesReceived
  messagesDropped := data.messagesDropped
  parseErrors := data.parseErrors
  websocketDisconnects := data.websocketDisconnects
  heartbeatFailures := data.heartbeatFailures
  feedLagMs := data.feedLagMs
  exchangeLatencyMs := data.exchangeLatencyMs
  lastHeartbeat := data.lastHeartbeat
  lastMessage := data.lastMessage
  uptimeSeconds :=
    if data.connected then ((now - data.connectedSince : ℤ) : ℚ) / 1000000000
    else 0
  stale :=
    data.connected && decide (5000 < toMilliseconds (now - data.lastHeartbeat))
  connectedSince := data.connectedSince

def getStats (exchange : String) (now : TimePoint) :
    LockProgram Exchanges ExchangeStats :=
  withLock do
    let exchanges ← get
    match exchanges.lookup exchange with
    | none => return {}
    | some data => return entryStats data now

/-- The map built by `getAllStats`. -/
abbrev AllStats := AList fun _ : String => ExchangeStats

/-- `clock name` is the reading taken inside the call of `getStats` for
`name`. -/
def getAllStats (clock : String → TimePoint) : LockProgram Exchanges AllStats :=
  withLock do
    let exchanges ← get
    exchanges.entries.foldlM
      (fun result pair => do
        let stats ← getStats pair.1 (clock pair.1)
        return result.insert pair.1 stats)
      ∅

/-- Staleness test shared by the two checks: still connected when the last
heartbeat is younger than the timeout. -/
def markStale (timeoutMs : ℤ) (now : TimePoint) (data : ExchangeData) :
    ExchangeData :=
  { data with
    connected := decide (toMilliseconds (now - data.lastHeartbeat) < timeoutMs) }

def checkStale (exchange : String) (timeoutMs : ℤ) (now : TimePoint) :
    LockProgram Exchanges Unit :=
  modifyKnown exchange (markStale timeoutMs now)

/-- Applies `assign` to every entry, in place. -/
def mapEntries (assign : ExchangeData → ExchangeData)
    (exchanges : Exchanges) : Exchanges where
  entries := exchanges.entries.map (Sigma.map id fun _ => assign)
  nodupKeys := List.NodupKeys.map₂ (fun _ => assign) _ exchanges.nodupKeys

def checkAllStale (timeoutMs : ℤ) (now : TimePoint) :
    LockProgram Exchanges Unit :=
  withLock do
    let exchanges ← get
    set (mapEntries (markStale timeoutMs now) exchanges)

def reset (exchange : String) : LockProgram Exchanges Unit :=
  withLock do
    let exchanges ← get
    set (exchanges.erase exchange)

def resetAll : LockProgram Exchanges Unit :=
  withLock (set ∅)

/-! ## The public interface as a machine -/

/-- A call of a public operation, with its arguments and clock readings. -/
inductive Operation
  | onConnected (exchange : String) (since heartbeat message : TimePoint)
  | onDisconnected (exchange : String) (now : TimePoint)
  | onHeartbeat (exchange : String) (now : TimePoint)
  | onHeartbeatFailure (exchange : String)
  | onMessageReceived (exchange : String) (now : TimePoint)
  | onMessageDropped (exchange : String)
  | onParseError (exchange : String)
  | onWebSocketDisconnect (exchange : String)
  | onReconnect (exchange : String)
  | updateFeedLag (exchange : String) (lagMs : ℚ)
  | updateExchangeLatency (exchange : String) (latencyMs : ℚ)
  | getStats (exchange : String) (now : TimePoint)
  | getAllStats (clock : String → TimePoint)
  | checkStale (exchange : String) (timeoutMs : ℤ) (now : TimePoint)
  | checkAllStale (timeoutMs : ℤ) (now : TimePoint)
  | reset (exchange : String)
  | resetAll

/-- The call as a program; returned values are dropped. -/
def Operation.call : Operation → LockProgram Exchanges Unit
  | .onConnected exchange since heartbeat message =>
      ExchangeMonitor.onConnected exchange since heartbeat message
  | .onDisconnected exchange now => ExchangeMonitor.onDisconnected exchange now
  | .onHeartbeat exchange now => ExchangeMonitor.onHeartbeat exchange now
  | .onHeartbeatFailure exchange => ExchangeMonitor.onHeartbeatFailure exchange
  | .onMessageReceived exchange now =>
      ExchangeMonitor.onMessageReceived exchange now
  | .onMessageDropped exchange => ExchangeMonitor.onMessageDropped exchange
  | .onParseError exchange => ExchangeMonitor.onParseError exchange
  | .onWebSocketDisconnect exchange =>
      ExchangeMonitor.onWebSocketDisconnect exchange
  | .onReconnect exchange => ExchangeMonitor.onReconnect exchange
  | .updateFeedLag exchange lagMs => ExchangeMonitor.updateFeedLag exchange lagMs
  | .updateExchangeLatency exchange latencyMs =>
      ExchangeMonitor.updateExchangeLatency exchange latencyMs
  | .getStats exchange now => do
      let _ ← ExchangeMonitor.getStats exchange now
      return ()
  | .getAllStats clock => do
      let _ ← ExchangeMonitor.getAllStats clock
      return ()
  | .checkStale exchange timeoutMs now =>
      ExchangeMonitor.checkStale exchange timeoutMs now
  | .checkAllStale timeoutMs now => ExchangeMonitor.checkAllStale timeoutMs now
  | .reset exchange => ExchangeMonitor.reset exchange
  | .resetAll => ExchangeMonitor.resetAll

/-- The monitor between calls: each action is a call that starts with the mutex
free, and it has a successor when the call returns. -/
def machine : Machine Exchanges Operation where
  initial := ∅
  step exchanges operation :=
    match operation.call ⟨exchanges, false⟩ with
    | .returned _ after => some after.data
    | .selfDeadlock => none

/-! ## Which calls return -/

theorem modifyKnown_apply (exchange : String)
    (assign : ExchangeData → ExchangeData) (exchanges : Exchanges) :
    modifyKnown exchange assign ⟨exchanges, false⟩ =
      .returned ()
        ⟨match exchanges.lookup exchange with
          | none => exchanges
          | some data => exchanges.insert exchange (assign data), false⟩ := by
  rw [modifyKnown, withLock_free, get_bind_apply]
  cases exchanges.lookup exchange with
  | none => rfl
  | some data => rfl

/-- `getStats` on its own always returns: the default statistics for an
unknown exchange, those of its entry for a known one. -/
theorem getStats_apply (exchange : String) (now : TimePoint)
    (exchanges : Exchanges) :
    getStats exchange now ⟨exchanges, false⟩ =
      .returned
        (match exchanges.lookup exchange with
          | none => {}
          | some data => entryStats data now)
        ⟨exchanges, false⟩ := by
  rw [getStats, withLock_free, get_bind_apply]
  cases exchanges.lookup exchange with
  | none => rfl
  | some data => rfl

theorem getAllStats_empty (clock : String → TimePoint) :
    getAllStats clock ⟨∅, false⟩ = .returned ∅ ⟨∅, false⟩ := rfl

/-- With a known exchange the loop body calls `getStats` under the lock, and
the call never returns. -/
theorem getAllStats_of_ne_empty (clock : String → TimePoint)
    {exchanges : Exchanges} (hne : exchanges ≠ ∅) :
    getAllStats clock ⟨exchanges, false⟩ = .selfDeadlock := by
  obtain ⟨entries, hkeys⟩ := exchanges
  cases entries with
  | nil => exact absurd rfl hne
  | cons pair entries => rfl

/-- Every operation but `getAllStats` returns with the mutex released. -/
theorem call_completes (exchanges : Exchanges) (operation : Operation)
    (hother : ∀ clock, operation ≠ .getAllStats clock) :
    operation.call.Completes ⟨exchanges, false⟩ := by
  cases operation with
  | onDisconnected exchange now =>
      exact completes_of_returned (modifyKnown_apply exchange _ exchanges) rfl
  | checkStale exchange timeoutMs now =>
      exact completes_of_returned (modifyKnown_apply exchange _ exchanges) rfl
  | getStats exchange now =>
      have hstats := getStats_apply exchange now exchanges
      exact ⟨(), ⟨exchanges, false⟩,
        by simp [Operation.call, bind_apply, hstats], rfl⟩
  | getAllStats clock => exact absurd rfl (hother clock)
  | _ => exact completes_of_returned rfl rfl

theorem call_getAllStats_of_ne_empty (clock : String → TimePoint)
    {exchanges : Exchanges} (hne : exchanges ≠ ∅) :
    (Operation.getAllStats clock).call ⟨exchanges, false⟩ =
      .selfDeadlock := by
  have hblocked := getAllStats_of_ne_empty clock hne
  simp [Operation.call, bind_apply, hblocked]

theorem call_getAllStats_completes_iff (exchanges : Exchanges)
    (clock : String → TimePoint) :
    (Operation.getAllStats clock).call.Completes ⟨exchanges, false⟩ ↔
      exchanges = ∅ := by
  constructor
  · intro hcompletes
    by_contra hne
    exact not_completes_of_selfDeadlock
      (call_getAllStats_of_ne_empty clock hne) hcompletes
  · rintro rfl
    exact completes_of_returned rfl rfl

/-! ## Safety of calls and of runs -/

/-- The exchange section of `MetricsCollector::getSnapshot`,
`snapshot.exchange_stats = exchange_monitor_.getAllStats()`. -/
def snapshotExchangeSection (clock : String → TimePoint) :
    LockProgram Exchanges AllStats :=
  getAllStats clock

/-- A call is safe when it returns with the mutex released and, for
`getAllStats`, when its map sends exactly the known exchanges to what
`getStats` returns for them. -/
structure CallSafe (exchanges : Exchanges) (operation : Operation) : Prop where
  completes : operation.call.Completes ⟨exchanges, false⟩
  allStats : ∀ clock, operation = .getAllStats clock →
    ∃ result after,
      getAllStats clock ⟨exchanges, false⟩ = .returned result after ∧
        ∀ name,
          (name ∉ exchanges → result.lookup name = none) ∧
          (name ∈ exchanges → ∃ stats final,
            getStats name (clock name) ⟨exchanges, false⟩ =
                .returned stats final ∧
              result.lookup name = some stats)

/-- `getAllStats` is only called while no exchange is known. -/
def AllStatsOnEmpty (exchanges : Exchanges) (operation : Operation) : Prop :=
  ∀ clock, operation = .getAllStats clock → exchanges = ∅

theorem callSafe_iff (exchanges : Exchanges) (operation : Operation) :
    CallSafe exchanges operation ↔ AllStatsOnEmpty exchanges operation := by
  constructor
  · rintro hsafe clock rfl
    exact (call_getAllStats_completes_iff exchanges clock).mp hsafe.completes
  · intro hempty
    refine ⟨?_, ?_⟩
    · by_cases hother : ∀ clock, operation ≠ .getAllStats clock
      · exact call_completes exchanges operation hother
      · obtain ⟨clock, rfl⟩ : ∃ clock, operation = .getAllStats clock := by
          simpa using hother
        exact (call_getAllStats_completes_iff exchanges clock).mpr
          (hempty clock rfl)
    · intro clock hcall
      obtain rfl := hempty clock hcall
      refine ⟨∅, ⟨∅, false⟩, getAllStats_empty clock, fun name => ⟨?_, ?_⟩⟩
      · intro _
        exact AList.lookup_empty name
      · intro hmem
        exact absurd hmem (AList.notMem_empty name)

/-- A call has a successor state exactly when it is safe. -/
theorem exists_step_iff (exchanges : Exchanges) (operation : Operation) :
    (∃ next, machine.step exchanges operation = some next) ↔
      AllStatsOnEmpty exchanges operation := by
  constructor
  · rintro ⟨next, hstep⟩ clock rfl
    by_contra hne
    simp [machine, call_getAllStats_of_ne_empty clock hne] at hstep
  · intro hempty
    obtain ⟨value, after, hrun, -⟩ :=
      ((callSafe_iff exchanges operation).mpr hempty).completes
    exact ⟨after.data, by simp [machine, hrun]⟩

/-- A sequence of calls returns to the end exactly when each of its calls of
`getAllStats` finds the map empty. -/
theorem run_returns_iff (exchanges : Exchanges) (operations : List Operation) :
    (∃ final, machine.run exchanges operations = some final) ↔
      machine.Along AllStatsOnEmpty exchanges operations := by
  induction operations generalizing exchanges with
  | nil => simp [Machine.Along]
  | cons operation operations ih =>
      rw [Machine.run_cons, Machine.Along, ← exists_step_iff]
      cases hstep : machine.step exchanges operation with
      | none => simp
      | some next => simpa using ih next

/-- In every state a call is safe exactly when it is not a call of `getAllStats`
on a non-empty map; a sequence of calls from there returns to the end exactly
when all its calls are of that kind; and the exchange section of `getSnapshot`
gets past the monitor exactly while no exchange is known. -/
theorem calls_return_iff (exchanges : Exchanges) :
    (∀ operation,
      CallSafe exchanges operation ↔ AllStatsOnEmpty exchanges operation) ∧
    (∀ operations,
      (∃ final, machine.run exchanges operations = some final) ↔
        machine.Along AllStatsOnEmpty exchanges operations) ∧
    (∀ clock,
      (snapshotExchangeSection clock).Completes ⟨exchanges, false⟩ ↔
        exchanges = ∅) := by
  refine ⟨callSafe_iff exchanges, run_returns_iff exchanges, fun clock => ?_⟩
  constructor
  · intro hcompletes
    by_contra hne
    exact not_completes_of_selfDeadlock
      (getAllStats_of_ne_empty clock hne) hcompletes
  · rintro rfl
    exact completes_of_returned (getAllStats_empty clock) rfl

/-- The monitor after the first `onConnected("BINANCE")`. -/
def binanceConnected : Exchanges :=
  (∅ : Exchanges).insert "BINANCE" { connected := true }

theorem reachable_binanceConnected : machine.Reachable binanceConnected :=
  ⟨[.onConnected "BINANCE" 0 0 0], rfl⟩

/-- After one exchange has connected, `getAllStats` and with it the exchange
section of `getSnapshot` wait for a mutex their own call holds. -/
theorem getAllStats_blocks_after_onConnected :
    machine.Reachable binanceConnected ∧
      ¬ CallSafe binanceConnected (.getAllStats fun _ => 0) ∧
      getAllStats (fun _ => 0) ⟨binanceConnected, false⟩ = .selfDeadlock ∧
      ¬ (snapshotExchangeSection fun _ => 0).Completes
        ⟨binanceConnected, false⟩ := by
  have hne : binanceConnected ≠ ∅ := by
    intro hempty
    have hmem : "BINANCE" ∈ binanceConnected :=
      (AList.mem_insert _).mpr (Or.inl rfl)
    rw [hempty] at hmem
    exact AList.notMem_empty _ hmem
  refine ⟨reachable_binanceConnected, ?_, getAllStats_of_ne_empty _ hne,
    not_completes_of_selfDeadlock (getAllStats_of_ne_empty _ hne)⟩
  intro hsafe
  exact hne ((callSafe_iff _ _).mp hsafe _ rfl)

end Datafeed.ExchangeMonitor
