import Datafeed.Metrics.MetricsCollector

/-!
# A reset collector and a new one

The run of a collector that was used and reset is compared with the run of a
new one that is fed what follows the reset.  The new one may have been made at
another time: all its clock readings are later by one shift, so elapsed times
are equal, and its readings of the operating system may differ.  The snapshots
agree in every field that does not come from the operating system, and in those
as well if the readings are the same.
-/

namespace Datafeed.MetricsCollector

open ExchangeMonitor (ExchangeData ExchangeStats Exchanges TimePoint entryStats
  markStale mapEntries)
open MetricAggregator (FeedMetricsSnapshot)

/-! ## The exchange map, name by name -/

/-- What an operation of the exchange monitor makes of the entry of a name. -/
def entryEffect (operation : ExchangeMonitor.Operation) (name : String)
    (entry : Option ExchangeData) : Option ExchangeData :=
  let assign (exchange : String) (update : ExchangeData → ExchangeData) :=
    if name = exchange then some (update (entry.getD {})) else entry
  let assignKnown (exchange : String) (update : ExchangeData → ExchangeData) :=
    if name = exchange then entry.map update else entry
  match operation with
  | .onConnected exchange since heartbeat message =>
      assign exchange fun data =>
        { data with
          connected := true
          connectedSince := since
          lastHeartbeat := heartbeat
          lastMessage := message }
  | .onDisconnected exchange now =>
      assignKnown exchange fun data =>
        { data with connected := false, disconnectedSince := now }
  | .onHeartbeat exchange now =>
      assign exchange fun data => { data with lastHeartbeat := now }
  | .onHeartbeatFailure exchange =>
      assign exchange fun data =>
        { data with heartbeatFailures := data.heartbeatFailures + 1 }
  | .onMessageReceived exchange now =>
      assign exchange fun data =>
        { data with
          messagesReceived := data.messagesReceived + 1
          lastMessage := now }
  | .onMessageDropped exchange =>
      assign exchange fun data =>
        { data with messagesDropped := data.messagesDropped + 1 }
  | .onParseError exchange =>
      assign exchange fun data => { data with parseErrors := data.parseErrors + 1 }
  | .onWebSocketDisconnect exchange =>
      assign exchange fun data =>
        { data with websocketDisconnects := data.websocketDisconnects + 1 }
  | .onReconnect exchange =>
      assign exchange fun data =>
        { data with reconnectCount := data.reconnectCount + 1 }
  | .updateFeedLag exchange lagMs =>
      assign exchange fun data => { data with feedLagMs := lagMs }
  | .updateExchangeLatency exchange latencyMs =>
      assign exchange fun data => { data with exchangeLatencyMs := latencyMs }
  | .getStats _ _ | .getAllStats _ => entry
  | .checkStale exchange timeoutMs now =>
      assignKnown exchange (markStale timeoutMs now)
  | .checkAllStale timeoutMs now => entry.map (markStale timeoutMs now)
  | .reset exchange => if name = exchange then none else entry
  | .resetAll => none

theorem lookup_insert (exchanges : Exchanges) (exchange name : String)
    (data : ExchangeData) :
    (exchanges.insert exchange data).lookup name =
      if name = exchange then some data else exchanges.lookup name := by
  by_cases hsame : name = exchange
  · subst hsame
    rw [if_pos rfl, AList.lookup_insert]
  · rw [if_neg hsame, AList.lookup_insert_ne hsame]

theorem modifyEntry_apply (exchange : String)
    (assign : ExchangeData → ExchangeData) (exchanges : Exchanges) :
    ExchangeMonitor.modifyEntry exchange assign ⟨exchanges, false⟩ =
      .returned ()
        ⟨exchanges.insert exchange
          (assign ((exchanges.lookup exchange).getD {})), false⟩ := rfl

theorem exchangeStep_modifyKnown {exchanges : Exchanges}
    {operation : ExchangeMonitor.Operation} {exchange : String}
    {update : ExchangeData → ExchangeData}
    (hcall : operation.call = ExchangeMonitor.modifyKnown exchange update)
    (name : String) :
    (exchangeStep exchanges operation).lookup name =
      if name = exchange then (exchanges.lookup name).map update
      else exchanges.lookup name := by
  rw [exchangeStep, hcall, ExchangeMonitor.modifyKnown_apply]
  cases hlookup : exchanges.lookup exchange with
  | none =>
      simp only
      by_cases hsame : name = exchange
      · rw [if_pos hsame, hsame, hlookup, Option.map_none]
      · rw [if_neg hsame]
  | some data =>
      simp only [lookup_insert]
      by_cases hsame : name = exchange
      · rw [if_pos hsame, if_pos hsame, hsame, hlookup, Option.map_some]
      · rw [if_neg hsame, if_neg hsame]

theorem lookup_mapEntries (update : ExchangeData → ExchangeData)
    (exchanges : Exchanges) (name : String) :
    (mapEntries update exchanges).lookup name =
      (exchanges.lookup name).map update :=
  List.dlookup_map₂ name

theorem exchangeStep_getAllStats (clock : String → TimePoint)
    (exchanges : Exchanges) :
    exchangeStep exchanges (.getAllStats clock) = exchanges := by
  by_cases hempty : exchanges = ∅
  · subst hempty
    rfl
  · rw [exchangeStep,
      ExchangeMonitor.call_getAllStats_of_ne_empty clock hempty]

theorem exchangeStep_getStats (exchange : String) (now : TimePoint)
    (exchanges : Exchanges) :
    exchangeStep exchanges (.getStats exchange now) = exchanges := by
  have hstats := ExchangeMonitor.getStats_apply exchange now exchanges
  simp [exchangeStep, ExchangeMonitor.Operation.call, LockProgram.bind_apply,
    hstats]

theorem lookup_exchangeStep (exchanges : Exchanges)
    (operation : ExchangeMonitor.Operation) (name : String) :
    (exchangeStep exchanges operation).lookup name =
      entryEffect operation name (exchanges.lookup name) := by
  cases operation with
  | onDisconnected exchange now => exact exchangeStep_modifyKnown rfl name
  | checkStale exchange timeoutMs now => exact exchangeStep_modifyKnown rfl name
  | getStats exchange now => rw [exchangeStep_getStats]; rfl
  | getAllStats clock => rw [exchangeStep_getAllStats]; rfl
  | checkAllStale timeoutMs now => exact lookup_mapEntries _ exchanges name
  | reset exchange =>
      by_cases hsame : name = exchange
      · subst hsame
        exact (AList.lookup_erase name exchanges).trans (if_pos rfl).symm
      · exact (AList.lookup_erase_ne hsame).trans (if_neg hsame).symm
  | resetAll => rfl
  | _ =>
      simp only [exchangeStep, ExchangeMonitor.Operation.call,
        ExchangeMonitor.onConnected, ExchangeMonitor.onHeartbeat,
        ExchangeMonitor.onHeartbeatFailure, ExchangeMonitor.onMessageReceived,
        ExchangeMonitor.onMessageDropped, ExchangeMonitor.onParseError,
        ExchangeMonitor.onWebSocketDisconnect, ExchangeMonitor.onReconnect,
        ExchangeMonitor.updateFeedLag, ExchangeMonitor.updateExchangeLatency,
        modifyEntry_apply, lookup_insert, entryEffect]
      exact ite_congr rfl (fun hsame => by rw [hsame]) fun _ => rfl

/-! ## The same entry by a shifted clock -/

variable (shift : ℤ)

/-- A time point is later by the shift, or both are the default. -/
def SameTime (time other : TimePoint) : Prop :=
  other = time + shift ∨ (time = 0 ∧ other = 0)

/-- The entries agree but for their time points; the two that the statistics of
a connected exchange are computed from were both read off the clock. -/
structure SameData (data other : ExchangeData) : Prop where
  rest : other =
    { data with
      lastHeartbeat := other.lastHeartbeat
      lastMessage := other.lastMessage
      connectedSince := other.connectedSince
      disconnectedSince := other.disconnectedSince }
  lastHeartbeat : SameTime shift data.lastHeartbeat other.lastHeartbeat
  lastMessage : SameTime shift data.lastMessage other.lastMessage
  connectedSince : SameTime shift data.connectedSince other.connectedSince
  disconnectedSince :
    SameTime shift data.disconnectedSince other.disconnectedSince
  connected : data.connected = true →
    other.lastHeartbeat = data.lastHeartbeat + shift ∧
      other.connectedSince = data.connectedSince + shift

variable {shift}

theorem SameTime.shifted (time : TimePoint) :
    SameTime shift time (time + shift) :=
  Or.inl rfl

theorem SameTime.eq_of_zero {time other : TimePoint}
    (hsame : SameTime 0 time other) : other = time := by
  rcases hsame with hshift | ⟨hzero, hother⟩
  · rw [hshift, add_zero]
  · rw [hzero, hother]

theorem SameData.default : SameData shift {} {} where
  rest := rfl
  lastHeartbeat := Or.inr ⟨rfl, rfl⟩
  lastMessage := Or.inr ⟨rfl, rfl⟩
  connectedSince := Or.inr ⟨rfl, rfl⟩
  disconnectedSince := Or.inr ⟨rfl, rfl⟩
  connected hconnected := by cases hconnected

/-- With the clocks together, the entries are the same. -/
theorem SameData.eq_of_zero {data other : ExchangeData}
    (hsame : SameData 0 data other) : other = data := by
  rw [hsame.rest, hsame.lastHeartbeat.eq_of_zero, hsame.lastMessage.eq_of_zero,
    hsame.connectedSince.eq_of_zero, hsame.disconnectedSince.eq_of_zero]

/-- With the clocks together, an entry is the same as itself. -/
theorem SameData.of_eq {data : ExchangeData} : SameData 0 data data where
  rest := rfl
  lastHeartbeat := Or.inl (add_zero _).symm
  lastMessage := Or.inl (add_zero _).symm
  connectedSince := Or.inl (add_zero _).symm
  disconnectedSince := Or.inl (add_zero _).symm
  connected _ := ⟨(add_zero _).symm, (add_zero _).symm⟩

/-- The call at the shifted clock. -/
def shiftOperation (shift : ℤ) :
    ExchangeMonitor.Operation → ExchangeMonitor.Operation
  | .onConnected exchange since heartbeat message =>
      .onConnected exchange (since + shift) (heartbeat + shift)
        (message + shift)
  | .onDisconnected exchange now => .onDisconnected exchange (now + shift)
  | .onHeartbeat exchange now => .onHeartbeat exchange (now + shift)
  | .onMessageReceived exchange now => .onMessageReceived exchange (now + shift)
  | .getStats exchange now => .getStats exchange (now + shift)
  | .getAllStats clock => .getAllStats fun name => clock name + shift
  | .checkStale exchange timeoutMs now =>
      .checkStale exchange timeoutMs (now + shift)
  | .checkAllStale timeoutMs now => .checkAllStale timeoutMs (now + shift)
  | operation => operation

/-- The two calls that compare the clock with a heartbeat there may never have
been. -/
def ChecksStale : ExchangeMonitor.Operation → Prop
  | .checkStale _ _ _ | .checkAllStale _ _ => True
  | _ => False

/-- The entries of a name in the two maps. -/
def SameEntry (shift : ℤ) : Option ExchangeData → Option ExchangeData → Prop
  | none, none => True
  | some data, some other => SameData shift data other
  | _, _ => False

theorem SameEntry.getD {entry other : Option ExchangeData}
    (hsame : SameEntry shift entry other) :
    SameData shift (entry.getD {}) (other.getD {}) := by
  cases entry <;> cases other
  · exact SameData.default
  · exact absurd hsame id
  · exact absurd hsame id
  · exact hsame

theorem SameEntry.eq_of_zero {entry other : Option ExchangeData}
    (hsame : SameEntry 0 entry other) : other = entry := by
  cases entry <;> cases other
  · rfl
  · exact absurd hsame id
  · exact absurd hsame id
  · exact congrArg some (SameData.eq_of_zero hsame)

theorem SameEntry.of_eq (entry : Option ExchangeData) :
    SameEntry 0 entry entry := by
  cases entry
  · trivial
  · exact SameData.of_eq

/-- An update that both maps make to the entry of one name, if it is there. -/
theorem SameEntry.map {entry other : Option ExchangeData}
    (hsame : SameEntry shift entry other)
    {update otherUpdate : ExchangeData → ExchangeData}
    (hupdate : ∀ data other, SameData shift data other →
      SameData shift (update data) (otherUpdate other)) :
    SameEntry shift (entry.map update) (other.map otherUpdate) := by
  cases entry <;> cases other
  · trivial
  · exact absurd hsame id
  · exact absurd hsame id
  · exact hupdate _ _ hsame

/-- The maps keep the same entries under a call and the call at the shifted
clock. -/
theorem SameEntry.entryEffect {operation : ExchangeMonitor.Operation}
    (hstale : ChecksStale operation → shift = 0) {name : String}
    {entry other : Option ExchangeData} (hsame : SameEntry shift entry other) :
    SameEntry shift (entryEffect operation name entry)
      (entryEffect (shiftOperation shift operation) name other) := by
  have hdata := hsame.getD
  cases operation with
  | onConnected exchange since heartbeat message =>
      simp only [MetricsCollector.entryEffect, shiftOperation]
      split
      · exact ⟨by rw [hdata.rest], .shifted _, .shifted _, .shifted _,
          hdata.disconnectedSince, fun _ => ⟨rfl, rfl⟩⟩
      · exact hsame
  | onDisconnected exchange now =>
      simp only [MetricsCollector.entryEffect, shiftOperation]
      split
      · refine hsame.map fun data other hdata => ?_
        exact ⟨by rw [hdata.rest], hdata.lastHeartbeat, hdata.lastMessage,
          hdata.connectedSince, .shifted _, fun hconnected => by
            cases hconnected⟩
      · exact hsame
  | onHeartbeat exchange now =>
      simp only [MetricsCollector.entryEffect, shiftOperation]
      split
      · exact ⟨by rw [hdata.rest], .shifted _, hdata.lastMessage,
          hdata.connectedSince, hdata.disconnectedSince,
          fun hconnected => ⟨rfl, (hdata.connected hconnected).2⟩⟩
      · exact hsame
  | onMessageReceived exchange now =>
      simp only [MetricsCollector.entryEffect, shiftOperation]
      split
      · exact ⟨by rw [hdata.rest], hdata.lastHeartbeat, .shifted _,
          hdata.connectedSince, hdata.disconnectedSince, hdata.connected⟩
      · exact hsame
  | onHeartbeatFailure exchange
  | onMessageDropped exchange
  | onParseError exchange
  | onWebSocketDisconnect exchange
  | onReconnect exchange
  | updateFeedLag exchange lagMs
  | updateExchangeLatency exchange latencyMs =>
      simp only [MetricsCollector.entryEffect, shiftOperation]
      split
      · exact ⟨by rw [hdata.rest], hdata.lastHeartbeat, hdata.lastMessage,
          hdata.connectedSince, hdata.disconnectedSince, hdata.connected⟩
      · exact hsame
  | getStats exchange now => exact hsame
  | getAllStats clock => exact hsame
  | checkStale exchange timeoutMs now =>
      obtain rfl := hstale trivial
      rw [hsame.eq_of_zero, shiftOperation, add_zero]
      exact .of_eq _
  | checkAllStale timeoutMs now =>
      obtain rfl := hstale trivial
      rw [hsame.eq_of_zero, shiftOperation, add_zero]
      exact .of_eq _
  | reset exchange =>
      simp only [MetricsCollector.entryEffect, shiftOperation]
      split
      · trivial
      · exact hsame
  | resetAll => trivial

/-! ## Two collectors at a shifted clock -/

/-- Statistics that agree but for raw time points, which are shifted. -/
structure SameStats (shift : ℤ) (stats other : ExchangeStats) : Prop where
  rest : other =
    { stats with
      lastHeartbeat := other.lastHeartbeat
      lastMessage := other.lastMessage
      connectedSince := other.connectedSince }
  lastHeartbeat : SameTime shift stats.lastHeartbeat other.lastHeartbeat
  lastMessage : SameTime shift stats.lastMessage other.lastMessage
  connectedSince : SameTime shift stats.connectedSince other.connectedSince

/-- Uptime and staleness are elapsed times, which the shift leaves alone. -/
theorem SameData.entryStats {data other : ExchangeData}
    (hsame : SameData shift data other) (now : TimePoint) :
    SameStats shift (entryStats data now) (entryStats other (now + shift)) where
  rest := by
    have hconnected : other.connected = data.connected := by rw [hsame.rest]
    cases hflag : data.connected with
    | false =>
        rw [hflag] at hconnected
        simp only [ExchangeMonitor.entryStats, hflag, hconnected,
          Bool.false_eq_true, if_false, Bool.false_and]
        rw [hsame.rest]
    | true =>
        rw [hflag] at hconnected
        obtain ⟨hheartbeat, hsince⟩ := hsame.connected hflag
        simp only [ExchangeMonitor.entryStats, hflag, hconnected, if_true,
          hheartbeat, hsince, add_sub_add_right_eq_sub]
        rw [hsame.rest]
  lastHeartbeat := hsame.lastHeartbeat
  lastMessage := hsame.lastMessage
  connectedSince := hsame.connectedSince

variable (shift) (sameOs : Prop)

def movedThroughput (tracker : ThroughputTracker.Tracker) :
    ThroughputTracker.Tracker :=
  { tracker with lastUpdateTime := tracker.lastUpdateTime + shift }

def movedSystem (monitor : SystemMonitor) : SystemMonitor :=
  { monitor with
    startTime := monitor.startTime + shift
    lastCpuUpdate := monitor.lastCpuUpdate + shift }

/-- The second collector is the first at the shifted clock; its system monitor
is so only if the two read the same of the operating system. -/
structure Related (collector other : Collector) : Prop where
  latencyTracker : other.latencyTracker = collector.latencyTracker
  throughputTracker : other.throughputTracker =
    movedThroughput shift collector.throughputTracker
  startTime : other.systemMonitor.startTime =
    collector.systemMonitor.startTime + shift
  system : sameOs →
    other.systemMonitor = movedSystem shift collector.systemMonitor
  exchangeMonitor : ∀ name, SameEntry shift
    (collector.exchangeMonitor.lookup name) (other.exchangeMonitor.lookup name)
  queueMonitor : other.queueMonitor = collector.queueMonitor
  feedHealthMonitor : other.feedHealthMonitor = collector.feedHealthMonitor
  sessionMonitor : other.sessionMonitor = collector.sessionMonitor
  networkMonitor : other.networkMonitor = collector.networkMonitor
  databaseMonitor : other.databaseMonitor = collector.databaseMonitor
  parseErrors : other.parseErrors = collector.parseErrors
  reconnectCount : other.reconnectCount = collector.reconnectCount

/-- Readings for a start and for a snapshot at the shifted clock. -/
def StartReading.moved (reading : StartReading) : StartReading where
  throughput := reading.throughput + shift
  systemStart := reading.systemStart + shift
  systemCpu := reading.systemCpu + shift

def SnapshotReading.moved (os : OsReading) (reading : SnapshotReading) :
    SnapshotReading where
  throughput := reading.throughput + shift
  system := reading.system + shift
  systemCpu := reading.systemCpu + shift
  os := os
  exchange name := reading.exchange name + shift

def movedLatency : LatencyTracker.Operation → LatencyTracker.Operation
  | .endLatencyMeasurement start now category =>
      .endLatencyMeasurement (start + shift) (now + shift) category
  | .clear category => .clear category
  | .clearAll => .clearAll

/-- The second event is the first at the shifted clock, with its own reading of
the operating system.  Comparing the clock with a heartbeat that may never have
been is an elapsed time only if the clocks are together. -/
inductive Matches : Event → Event → Prop
  | onMessageReceived (bytes : UInt64) :
      Matches (.onMessageReceived bytes) (.onMessageReceived bytes)
  | onMessageSent (bytes : UInt64) :
      Matches (.onMessageSent bytes) (.onMessageSent bytes)
  | onParseError : Matches .onParseError .onParseError
  | onReconnect : Matches .onReconnect .onReconnect
  | updateCpuUsage (now : TimePoint) (os other : OsReading)
      (hos : sameOs → other = os) :
      Matches (.updateCpuUsage now os) (.updateCpuUsage (now + shift) other)
  | latency (operation : LatencyTracker.Operation) :
      Matches (.latency operation) (.latency (movedLatency shift operation))
  | throughput (event : ThroughputTracker.Event) :
      Matches (.throughput event) (.throughput event)
  | exchange (operation : ExchangeMonitor.Operation)
      (hstale : ChecksStale operation → shift = 0) :
      Matches (.exchange operation) (.exchange (shiftOperation shift operation))
  | queue (operation : QueueMonitor.Operation) :
      Matches (.queue operation) (.queue operation)
  | feedHealth (operation : FeedHealthMonitor.Operation) :
      Matches (.feedHealth operation) (.feedHealth operation)
  | session (operation : SessionMonitor.Operation) :
      Matches (.session operation) (.session operation)
  | network (operation : NetworkMonitor.Operation) :
      Matches (.network operation) (.network operation)
  | database (operation : DatabaseMonitor.Operation) :
      Matches (.database operation) (.database operation)
  | getSnapshot (reading : SnapshotReading) (other : OsReading)
      (hos : sameOs → other = reading.os) :
      Matches (.getSnapshot reading) (.getSnapshot (reading.moved shift other))
  | reset (reading : StartReading) :
      Matches (.reset reading) (.reset (reading.moved shift))

variable {shift} {sameOs}

theorem related_new (reading : StartReading) :
    Related shift sameOs (new reading) (new (reading.moved shift)) where
  latencyTracker := rfl
  throughputTracker := rfl
  startTime := rfl
  system _ := rfl
  exchangeMonitor _ := trivial
  queueMonitor := rfl
  feedHealthMonitor := rfl
  sessionMonitor := rfl
  networkMonitor := rfl
  databaseMonitor := rfl
  parseErrors := rfl
  reconnectCount := rfl

/-! ### One component at a time -/

theorem apply_movedLatency {size : ℕ} [NeZero size]
    (tracker : LatencyTracker.Tracker size)
    (operation : LatencyTracker.Operation) :
    tracker.apply (movedLatency shift operation) = tracker.apply operation := by
  cases operation with
  | endLatencyMeasurement start now category =>
      simp only [movedLatency, LatencyTracker.Tracker.apply,
        LatencyTracker.Tracker.endLatencyMeasurement, LatencyTracker.latencyMs,
        add_sub_add_right_eq_sub]
  | clear category => rfl
  | clearAll => rfl

theorem foldl_fetchAdd_moved (increments : List (MetricAggregator.Rate × UInt64))
    (tracker : ThroughputTracker.Tracker) :
    increments.foldl ThroughputTracker.Tracker.fetchAdd
        (movedThroughput shift tracker) =
      movedThroughput shift
        (increments.foldl ThroughputTracker.Tracker.fetchAdd tracker) := by
  induction increments generalizing tracker with
  | nil => rfl
  | cons increment increments ih => exact ih (tracker.fetchAdd increment)

theorem onEvent_moved (event : ThroughputTracker.Event)
    (tracker : ThroughputTracker.Tracker) :
    (movedThroughput shift tracker).onEvent event =
      movedThroughput shift (tracker.onEvent event) :=
  foldl_fetchAdd_moved event.increments tracker

/-- Rates are gains over elapsed times. -/
theorem getAndUpdateStats_moved (now : TimePoint)
    (tracker : ThroughputTracker.Tracker) :
    (movedThroughput shift tracker).getAndUpdateStats (now + shift) =
      ((tracker.getAndUpdateStats now).1,
        movedThroughput shift (tracker.getAndUpdateStats now).2) := by
  simp only [ThroughputTracker.Tracker.getAndUpdateStats,
    ThroughputTracker.Tracker.updateStats, ThroughputTracker.elapsedSec,
    movedThroughput, add_sub_add_right_eq_sub]

theorem startTime_updateCpuUsage (now : TimePoint) (os : OsReading)
    (monitor : SystemMonitor) :
    (monitor.updateCpuUsage now os).startTime = monitor.startTime := by
  rw [SystemMonitor.updateCpuUsage]
  split <;> rfl

theorem seconds_moved (earlier later : TimePoint) :
    SystemMonitor.seconds (earlier + shift) (later + shift) =
      SystemMonitor.seconds earlier later := by
  simp only [SystemMonitor.seconds, add_sub_add_right_eq_sub]

theorem updateCpuUsage_moved (now : TimePoint) (os : OsReading)
    (monitor : SystemMonitor) :
    (movedSystem shift monitor).updateCpuUsage (now + shift) os =
      movedSystem shift (monitor.updateCpuUsage now os) := by
  have helapsed : SystemMonitor.seconds (movedSystem shift monitor).lastCpuUpdate
      (now + shift) = SystemMonitor.seconds monitor.lastCpuUpdate now :=
    seconds_moved _ _
  rw [SystemMonitor.updateCpuUsage, SystemMonitor.updateCpuUsage, helapsed]
  by_cases hsoon : SystemMonitor.seconds monitor.lastCpuUpdate now < 1 / 10
  · rw [if_pos hsoon, if_pos hsoon]
  · rw [if_neg hsoon, if_neg hsoon]
    rfl

theorem uptimeSeconds_getSystemMetrics (now cpuNow : TimePoint) (os : OsReading)
    (monitor : SystemMonitor) :
    (monitor.getSystemMetrics now cpuNow os).1.uptimeSeconds =
      SystemMonitor.seconds monitor.startTime now := by
  rw [SystemMonitor.getSystemMetrics]
  cases os.statm <;> rfl

theorem startTime_getSystemMetrics (now cpuNow : TimePoint) (os : OsReading)
    (monitor : SystemMonitor) :
    (monitor.getSystemMetrics now cpuNow os).2.startTime =
      monitor.startTime := by
  rw [SystemMonitor.getSystemMetrics]
  cases os.statm <;> exact startTime_updateCpuUsage cpuNow os monitor

theorem raiseRss_moved (currentRss : UInt64) (monitor : SystemMonitor) :
    (movedSystem shift monitor).raiseRss currentRss =
      movedSystem shift (monitor.raiseRss currentRss) := rfl

theorem memoryGrowth_moved (now : TimePoint) (currentRss : UInt64)
    (monitor : SystemMonitor) :
    (movedSystem shift monitor).memoryGrowth (now + shift) currentRss =
      monitor.memoryGrowth now currentRss := by
  have helapsed : SystemMonitor.seconds (movedSystem shift monitor).lastCpuUpdate
      (now + shift) = SystemMonitor.seconds monitor.lastCpuUpdate now :=
    seconds_moved _ _
  rw [SystemMonitor.memoryGrowth, SystemMonitor.memoryGrowth, helapsed]
  rfl

theorem getSystemMetrics_moved (now cpuNow : TimePoint) (os : OsReading)
    (monitor : SystemMonitor) :
    (movedSystem shift monitor).getSystemMetrics (now + shift) (cpuNow + shift)
        os =
      ((monitor.getSystemMetrics now cpuNow os).1,
        movedSystem shift (monitor.getSystemMetrics now cpuNow os).2) := by
  have huptime : SystemMonitor.seconds (movedSystem shift monitor).startTime
      (now + shift) = SystemMonitor.seconds monitor.startTime now :=
    seconds_moved _ _
  simp only [SystemMonitor.getSystemMetrics, updateCpuUsage_moved, huptime]
  cases os.statm with
  | none => rfl
  | some pages =>
      simp only [raiseRss_moved, memoryGrowth_moved]
      rfl

/-! ### Steps and runs -/

/-- The snapshots agree: every field that is not read from the operating
system, and those as well if both collectors read the same. -/
structure Agrees (shift : ℤ) (sameOs : Prop)
    (used fresh : FeedMetricsSnapshot) : Prop where
  latencyStats : fresh.latencyStats = used.latencyStats
  rates : fresh.rates = used.rates
  counters : fresh.counters = used.counters
  gauges : ∀ gauge,
    (gauge = .cpuUsagePercent ∨ gauge = .memoryGrowthRate → sameOs) →
      fresh.gauges gauge = used.gauges gauge
  levels : ∀ level, (level.group = .system → sameOs) →
    fresh.levels level = used.levels level
  queueBackpressure : fresh.queueBackpressure = used.queueBackpressure
  staleFeed : fresh.staleFeed = used.staleFeed
  feedHealthScore : fresh.feedHealthScore = used.feedHealthScore
  feedHealthStatus : fresh.feedHealthStatus = used.feedHealthStatus
  exchangeStats : ∀ name,
    Option.Rel (SameStats shift) (used.exchangeStats name)
      (fresh.exchangeStats name)

theorem Related.getSnapshot {used fresh : Collector}
    (hrelated : Related shift sameOs used fresh) (reading : SnapshotReading)
    (other : OsReading) (hos : sameOs → other = reading.os) :
    Related shift sameOs (getSnapshot reading used).2
      (getSnapshot (reading.moved shift other) fresh).2 := by
  refine { hrelated with throughputTracker := ?_, startTime := ?_, system := ?_ }
  · simp only [MetricsCollector.getSnapshot, hrelated.throughputTracker,
      SnapshotReading.moved, getAndUpdateStats_moved]
  · simp only [MetricsCollector.getSnapshot, startTime_getSystemMetrics]
    exact hrelated.startTime
  · intro hsame
    simp only [MetricsCollector.getSnapshot, SnapshotReading.moved,
      hrelated.system hsame, hos hsame, getSystemMetrics_moved]

theorem Related.apply {used fresh : Collector}
    (hrelated : Related shift sameOs used fresh) {event other : Event}
    (hmatches : Matches shift sameOs event other) :
    Related shift sameOs (used.apply event) (fresh.apply other) := by
  cases hmatches with
  | onMessageReceived bytes =>
      refine { hrelated with throughputTracker := ?_ }
      simp only [Collector.apply, hrelated.throughputTracker,
        onEvent_moved]
  | onMessageSent bytes =>
      refine { hrelated with throughputTracker := ?_ }
      simp only [Collector.apply, hrelated.throughputTracker, onEvent_moved]
  | onParseError =>
      refine { hrelated with feedHealthMonitor := ?_, parseErrors := ?_ }
      · simp only [Collector.apply, hrelated.feedHealthMonitor]
      · simp only [Collector.apply, hrelated.parseErrors]
  | onReconnect =>
      refine { hrelated with reconnectCount := ?_ }
      simp only [Collector.apply, hrelated.reconnectCount]
  | updateCpuUsage now os other hos =>
      refine { hrelated with startTime := ?_, system := ?_ }
      · simp only [Collector.apply, startTime_updateCpuUsage]
        exact hrelated.startTime
      · intro hsame
        simp only [Collector.apply, hrelated.system hsame, hos hsame,
          updateCpuUsage_moved]
  | latency operation =>
      refine { hrelated with latencyTracker := ?_ }
      simp only [Collector.apply, hrelated.latencyTracker, apply_movedLatency]
  | throughput event =>
      refine { hrelated with throughputTracker := ?_ }
      simp only [Collector.apply, hrelated.throughputTracker, onEvent_moved]
  | exchange operation hstale =>
      refine { hrelated with exchangeMonitor := fun name => ?_ }
      simp only [Collector.apply, lookup_exchangeStep]
      exact (hrelated.exchangeMonitor name).entryEffect hstale
  | queue operation =>
      refine { hrelated with queueMonitor := ?_ }
      simp only [Collector.apply, hrelated.queueMonitor]
  | feedHealth operation =>
      refine { hrelated with feedHealthMonitor := ?_ }
      simp only [Collector.apply, hrelated.feedHealthMonitor]
  | session operation =>
      refine { hrelated with sessionMonitor := ?_ }
      simp only [Collector.apply, hrelated.sessionMonitor]
  | network operation =>
      refine { hrelated with networkMonitor := ?_ }
      simp only [Collector.apply, hrelated.networkMonitor]
  | database operation =>
      refine { hrelated with databaseMonitor := ?_ }
      simp only [Collector.apply, hrelated.databaseMonitor]
  | getSnapshot reading other hos => exact hrelated.getSnapshot reading other hos
  | reset reading =>
      simp only [Collector.apply, reset_eq_new]
      exact related_new reading

theorem Related.runEvents {used fresh : Collector}
    (hrelated : Related shift sameOs used fresh) {events others : List Event}
    (hmatches : List.Forall₂ (Matches shift sameOs) events others) :
    Related shift sameOs (runEvents used events) (runEvents fresh others) := by
  induction hmatches generalizing used fresh with
  | nil => exact hrelated
  | cons hhead _ ih => exact ih (hrelated.apply hhead)

theorem SameEntry.snapshot {entry other : Option ExchangeData}
    (hsame : SameEntry shift entry other) (now : TimePoint) :
    Option.Rel (SameStats shift) (entry.map (entryStats · now))
      (other.map (entryStats · (now + shift))) := by
  cases entry <;> cases other
  · exact .none
  · exact absurd hsame id
  · exact absurd hsame id
  · exact .some (SameData.entryStats hsame now)

theorem Related.agrees {used fresh : Collector}
    (hrelated : Related shift sameOs used fresh) (reading : SnapshotReading)
    (other : OsReading) (hos : sameOs → other = reading.os) :
    Agrees shift sameOs (MetricsCollector.getSnapshot reading used).1
      (MetricsCollector.getSnapshot (reading.moved shift other) fresh).1 := by
  have hthroughput : (fresh.throughputTracker.getAndUpdateStats
      (reading.throughput + shift)).1 =
        (used.throughputTracker.getAndUpdateStats reading.throughput).1 := by
    rw [hrelated.throughputTracker, getAndUpdateStats_moved]
  have hsystem : sameOs → (fresh.systemMonitor.getSystemMetrics
      (reading.system + shift) (reading.systemCpu + shift) other).1 =
        (used.systemMonitor.getSystemMetrics reading.system reading.systemCpu
          reading.os).1 := by
    intro hsame
    rw [hrelated.system hsame, hos hsame, getSystemMetrics_moved]
  constructor
  · simp only [MetricsCollector.getSnapshot, hrelated.latencyTracker]
  · simp only [MetricsCollector.getSnapshot, SnapshotReading.moved, hthroughput]
  · funext counter
    simp only [MetricsCollector.getSnapshot, SnapshotReading.moved, hthroughput]
    cases counter <;>
      simp only [snapshotCounters, hrelated.feedHealthMonitor,
        hrelated.sessionMonitor, hrelated.networkMonitor,
        hrelated.databaseMonitor]
  · intro gauge hgauge
    simp only [MetricsCollector.getSnapshot, SnapshotReading.moved]
    cases gauge with
    | cpuUsagePercent =>
        simp only [snapshotGauges, hsystem (hgauge (Or.inl rfl))]
    | memoryGrowthRate =>
        simp only [snapshotGauges, hsystem (hgauge (Or.inr rfl))]
    | uptimeSeconds =>
        simp only [snapshotGauges, uptimeSeconds_getSystemMetrics,
          SystemMonitor.seconds, hrelated.startTime, add_sub_add_right_eq_sub]
    | _ =>
        simp only [snapshotGauges, hrelated.queueMonitor,
          hrelated.sessionMonitor, hrelated.networkMonitor,
          hrelated.databaseMonitor]
  · intro level hlevel
    simp only [MetricsCollector.getSnapshot, SnapshotReading.moved]
    cases level with
    | memoryRss | peakRss | virtualMemory | heapUsage | threadCount =>
        simp only [snapshotLevels, hsystem (hlevel rfl)]
    | _ =>
        simp only [snapshotLevels, hrelated.queueMonitor,
          hrelated.sessionMonitor, hrelated.databaseMonitor]
  · simp only [MetricsCollector.getSnapshot, hrelated.queueMonitor]
  · simp only [MetricsCollector.getSnapshot, hrelated.feedHealthMonitor]
  · simp only [MetricsCollector.getSnapshot, hrelated.feedHealthMonitor]
  · simp only [MetricsCollector.getSnapshot, hrelated.feedHealthMonitor]
  · exact fun name => (hrelated.exchangeMonitor name).snapshot
      (reading.exchange name)

/-- After a reset, the snapshots are those of a new collector: for all events
before and after, whenever the new collector is made, and whatever the two
read of the operating system, what happened before the reset is gone. -/
theorem snapshot_after_reset (start restart : StartReading)
    (before : List Event) {events others : List Event}
    (hevents : List.Forall₂ (Matches shift sameOs) events others)
    (reading : SnapshotReading) {os : OsReading}
    (hos : sameOs → os = reading.os) :
    Agrees shift sameOs
      (getSnapshot reading
        (runEvents (new start) (before ++ .reset restart :: events))).1
      (getSnapshot (reading.moved shift os)
        (runEvents (new (restart.moved shift)) others)).1 := by
  have hreset : runEvents (new start) (before ++ .reset restart :: events) =
      runEvents (new restart) events := by
    simp only [runEvents, List.foldl_append, List.foldl_cons, Collector.apply,
      reset_eq_new]
  rw [hreset]
  exact ((related_new restart).runEvents hevents).agrees reading os hos

def idleOs : OsReading := ⟨0, 0, none, 4096, 0, 1⟩

def busyOs : OsReading := ⟨900, 4000, some (80, 20), 4096, 1000, 8⟩

/-- A tick, a queue overflow and a connection before the reset; a message and a
second connection after it, five seconds later on another machine. -/
theorem snapshot_after_reset_oneMessage :
    Agrees 5000000000 False
      (getSnapshot ⟨9, 9, 9, idleOs, fun _ => 9⟩
        (runEvents (new ⟨0, 0, 0⟩)
          ([.throughput .onTick, .queue .onOverflow,
              .exchange (.onConnected "BINANCE" 1 1 1)] ++
            .reset ⟨2, 2, 2⟩ ::
              [.onMessageReceived 10,
                .exchange (.onConnected "JUPITER" 3 3 3)]))).1
      (getSnapshot
        (SnapshotReading.moved 5000000000 busyOs
          ⟨9, 9, 9, idleOs, fun _ => 9⟩)
        (runEvents (new (StartReading.moved 5000000000 ⟨2, 2, 2⟩))
          [.onMessageReceived 10,
            .exchange (.onConnected "JUPITER" (3 + 5000000000)
              (3 + 5000000000) (3 + 5000000000))])).1 := by
  refine snapshot_after_reset ⟨0, 0, 0⟩ ⟨2, 2, 2⟩ _ ?_ _ fun hsame => hsame.elim
  refine .cons (.onMessageReceived 10) (.cons ?_ .nil)
  exact .exchange (.onConnected "JUPITER" 3 3 3) fun hstale => hstale.elim

end Datafeed.MetricsCollector
