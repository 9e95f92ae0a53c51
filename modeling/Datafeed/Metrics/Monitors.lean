import Datafeed.Metrics.MetricAggregator
import Mathlib.Data.List.AList
import Mathlib.Data.Rat.Defs

/-!
# The monitors

Five monitors keep atomic counters, flags and gauges: queues, feed health,
sessions, network and database.  Each operation here is one call without
another in between.  Counters are 64-bit and wrap; gauges of type `double` are
rationals.  The defaults of the members are what the constructors leave, and
`reset` assigns the members one by one as in the source.  The system monitor
has no `reset`: it is replaced by a new one.  Its readings of the process and
the machine are arguments, in the form the Linux branch takes them.
-/

namespace Datafeed

open ExchangeMonitor (TimePoint)

/-! ## Queues -/

/-- `…_depth_` and `max_…_depth_` of one queue. -/
structure QueueDepth where
  depth : UInt64 := 0
  max : UInt64 := 0
  deriving DecidableEq

namespace QueueDepth

/-- Raises the maximum to a value above it. -/
def raise (value : UInt64) (queue : QueueDepth) : QueueDepth :=
  if value > queue.max then { queue with max := value } else queue

def increment (queue : QueueDepth) : QueueDepth :=
  raise (queue.depth + 1) { queue with depth := queue.depth + 1 }

def decrement (queue : QueueDepth) : QueueDepth :=
  if queue.depth > 0 then { queue with depth := queue.depth - 1 } else queue

def setDepth (depth : UInt64) (queue : QueueDepth) : QueueDepth :=
  raise depth { queue with depth := depth }

end QueueDepth

structure QueueMonitor where
  incoming : QueueDepth := {}
  outgoing : QueueDepth := {}
  serialization : QueueDepth := {}
  overflowCount : UInt64 := 0
  backpressure : Bool := false
  queueWaitTimeMs : ℚ := 0
  queueProcessingTimeMs : ℚ := 0
  deriving DecidableEq

namespace QueueMonitor

inductive Operation
  | incrementIncoming
  | decrementIncoming
  | setIncomingDepth (depth : UInt64)
  | incrementOutgoing
  | decrementOutgoing
  | setOutgoingDepth (depth : UInt64)
  | incrementSerialization
  | decrementSerialization
  | setSerializationDepth (depth : UInt64)
  | onOverflow
  | setBackpressure (active : Bool)
  | recordWaitTime (ms : ℚ)
  | recordProcessingTime (ms : ℚ)
  | reset

def reset (_monitor : QueueMonitor) : QueueMonitor where
  incoming := { depth := 0, max := 0 }
  outgoing := { depth := 0, max := 0 }
  serialization := { depth := 0, max := 0 }
  overflowCount := 0
  backpressure := false
  queueWaitTimeMs := 0
  queueProcessingTimeMs := 0

def apply (monitor : QueueMonitor) : Operation → QueueMonitor
  | .incrementIncoming =>
      { monitor with incoming := monitor.incoming.increment }
  | .decrementIncoming =>
      { monitor with incoming := monitor.incoming.decrement }
  | .setIncomingDepth depth =>
      { monitor with incoming := monitor.incoming.setDepth depth }
  | .incrementOutgoing =>
      { monitor with outgoing := monitor.outgoing.increment }
  | .decrementOutgoing =>
      { monitor with outgoing := monitor.outgoing.decrement }
  | .setOutgoingDepth depth =>
      { monitor with outgoing := monitor.outgoing.setDepth depth }
  | .incrementSerialization =>
      { monitor with serialization := monitor.serialization.increment }
  | .decrementSerialization =>
      { monitor with serialization := monitor.serialization.decrement }
  | .setSerializationDepth depth =>
      { monitor with serialization := monitor.serialization.setDepth depth }
  | .onOverflow => { monitor with overflowCount := monitor.overflowCount + 1 }
  | .setBackpressure active => { monitor with backpressure := active }
  | .recordWaitTime ms => { monitor with queueWaitTimeMs := ms }
  | .recordProcessingTime ms => { monitor with queueProcessingTimeMs := ms }
  | .reset => monitor.reset

theorem reset_eq (monitor : QueueMonitor) : monitor.reset = {} := rfl

end QueueMonitor

/-! ## Feed health -/

structure FeedHealthMonitor where
  packetDrops : UInt64 := 0
  duplicatePackets : UInt64 := 0
  outOfOrderPackets : UInt64 := 0
  sequenceGaps : UInt64 := 0
  missingTicks : UInt64 := 0
  invalidMessages : UInt64 := 0
  corruptedPackets : UInt64 := 0
  parseFailures : UInt64 := 0
  staleFeed : Bool := false
  deriving DecidableEq

namespace FeedHealthMonitor

open MetricAggregator (HealthStatus)

inductive Operation
  | onPacketDrop
  | onDuplicatePacket
  | onOutOfOrderPacket
  | onSequenceGap
  | onMissingTick
  | onInvalidMessage
  | onCorruptedPacket
  | onParseFailure
  | markStale (stale : Bool)
  | reset

def reset (_monitor : FeedHealthMonitor) : FeedHealthMonitor where
  packetDrops := 0
  duplicatePackets := 0
  outOfOrderPackets := 0
  sequenceGaps := 0
  missingTicks := 0
  invalidMessages := 0
  corruptedPackets := 0
  parseFailures := 0
  staleFeed := false

def apply (monitor : FeedHealthMonitor) : Operation → FeedHealthMonitor
  | .onPacketDrop => { monitor with packetDrops := monitor.packetDrops + 1 }
  | .onDuplicatePacket =>
      { monitor with duplicatePackets := monitor.duplicatePackets + 1 }
  | .onOutOfOrderPacket =>
      { monitor with outOfOrderPackets := monitor.outOfOrderPackets + 1 }
  | .onSequenceGap => { monitor with sequenceGaps := monitor.sequenceGaps + 1 }
  | .onMissingTick => { monitor with missingTicks := monitor.missingTicks + 1 }
  | .onInvalidMessage =>
      { monitor with invalidMessages := monitor.invalidMessages + 1 }
  | .onCorruptedPacket =>
      { monitor with corruptedPackets := monitor.corruptedPackets + 1 }
  | .onParseFailure =>
      { monitor with parseFailures := monitor.parseFailures + 1 }
  | .markStale stale => { monitor with staleFeed := stale }
  | .reset => monitor.reset

def calculateHealthScore (monitor : FeedHealthMonitor) : UInt32 :=
  let totalIssues := monitor.packetDrops + monitor.duplicatePackets +
    monitor.outOfOrderPackets + monitor.sequenceGaps + monitor.missingTicks +
    monitor.invalidMessages + monitor.corruptedPackets + monitor.parseFailures
  if monitor.staleFeed then 0
  else if totalIssues > 1000 then 0
  else if totalIssues > 100 then 25
  else if totalIssues > 50 then 50
  else if totalIssues > 10 then 75
  else 100

def getHealthStatus (monitor : FeedHealthMonitor) : HealthStatus :=
  if monitor.staleFeed then .critical
  else if monitor.calculateHealthScore ≥ 75 then .healthy
  else if monitor.calculateHealthScore ≥ 25 then .degraded
  else .critical

theorem reset_eq (monitor : FeedHealthMonitor) : monitor.reset = {} := rfl

end FeedHealthMonitor

/-! ## Sessions -/

structure SessionMonitor where
  activeClients : UInt64 := 0
  activeSessions : UInt64 := 0
  activeSubscriptions : UInt64 := 0
  totalConnections : UInt64 := 0
  totalDisconnections : UInt64 := 0
  authenticationFailures : UInt64 := 0
  reconnectCount : UInt64 := 0
  averageSessionDurationMs : ℚ := 0
  longestSessionDurationMs : ℚ := 0
  connectionsPerClient : AList fun _ : String => UInt64 := ∅

namespace SessionMonitor

inductive Operation
  | onClientConnected (clientId : String)
  | onClientDisconnected (clientId : String)
  | onSessionCreated
  | onSessionRemoved
  | onSubscriptionCreated
  | onSubscriptionRemoved
  | onAuthenticationFailure (clientId : String)
  | onReconnect (clientId : String)
  | reset

/-- `if (current > 0) counter.fetch_sub(1)`. -/
def decrement (current : UInt64) : UInt64 :=
  if current > 0 then current - 1 else current

def reset (_monitor : SessionMonitor) : SessionMonitor where
  activeClients := 0
  activeSessions := 0
  activeSubscriptions := 0
  totalConnections := 0
  totalDisconnections := 0
  authenticationFailures := 0
  reconnectCount := 0
  averageSessionDurationMs := 0
  longestSessionDurationMs := 0
  connectionsPerClient := ∅

def onClientConnected (clientId : String) (monitor : SessionMonitor) :
    SessionMonitor :=
  let connections := monitor.connectionsPerClient
  { monitor with
    activeClients := monitor.activeClients + 1
    totalConnections := monitor.totalConnections + 1
    connectionsPerClient :=
      if clientId = "" then connections
      else connections.insert clientId
        ((connections.lookup clientId).getD 0 + 1) }

/-- The map of the connections of each client is not touched. -/
def onClientDisconnected (monitor : SessionMonitor) : SessionMonitor :=
  { monitor with
    activeClients := decrement monitor.activeClients
    totalDisconnections := monitor.totalDisconnections + 1 }

def apply (monitor : SessionMonitor) : Operation → SessionMonitor
  | .onClientConnected clientId => monitor.onClientConnected clientId
  | .onClientDisconnected _ => monitor.onClientDisconnected
  | .onSessionCreated =>
      { monitor with activeSessions := monitor.activeSessions + 1 }
  | .onSessionRemoved =>
      { monitor with activeSessions := decrement monitor.activeSessions }
  | .onSubscriptionCreated =>
      { monitor with activeSubscriptions := monitor.activeSubscriptions + 1 }
  | .onSubscriptionRemoved =>
      { monitor with
        activeSubscriptions := decrement monitor.activeSubscriptions }
  | .onAuthenticationFailure _ =>
      { monitor with
        authenticationFailures := monitor.authenticationFailures + 1 }
  | .onReconnect _ =>
      { monitor with reconnectCount := monitor.reconnectCount + 1 }
  | .reset => monitor.reset

theorem reset_eq (monitor : SessionMonitor) : monitor.reset = {} := rfl

end SessionMonitor

/-! ## Network -/

structure NetworkMonitor where
  tcpReconnects : UInt64 := 0
  socketErrors : UInt64 := 0
  readErrors : UInt64 := 0
  writeErrors : UInt64 := 0
  tlsHandshakeFailures : UInt64 := 0
  bytesTransmitted : UInt64 := 0
  bytesReceived : UInt64 := 0
  socketRttMs : ℚ := 0
  networkBandwidthBps : ℚ := 0
  connectionFailures : UInt64 := 0
  deriving DecidableEq

namespace NetworkMonitor

inductive Operation
  | onTcpReconnect
  | onSocketError
  | onReadError
  | onWriteError
  | onTlsHandshakeFailure
  | onBytesTransmitted (bytes : UInt64)
  | onBytesReceived (bytes : UInt64)
  | updateSocketRtt (rttMs : ℚ)
  | updateNetworkBandwidth (bps : ℚ)
  | onConnectionFailure
  | reset

def reset (_monitor : NetworkMonitor) : NetworkMonitor where
  tcpReconnects := 0
  socketErrors := 0
  readErrors := 0
  writeErrors := 0
  tlsHandshakeFailures := 0
  bytesTransmitted := 0
  bytesReceived := 0
  socketRttMs := 0
  networkBandwidthBps := 0
  connectionFailures := 0

def apply (monitor : NetworkMonitor) : Operation → NetworkMonitor
  | .onTcpReconnect =>
      { monitor with tcpReconnects := monitor.tcpReconnects + 1 }
  | .onSocketError => { monitor with socketErrors := monitor.socketErrors + 1 }
  | .onReadError => { monitor with readErrors := monitor.readErrors + 1 }
  | .onWriteError => { monitor with writeErrors := monitor.writeErrors + 1 }
  | .onTlsHandshakeFailure =>
      { monitor with tlsHandshakeFailures := monitor.tlsHandshakeFailures + 1 }
  | .onBytesTransmitted bytes =>
      { monitor with bytesTransmitted := monitor.bytesTransmitted + bytes }
  | .onBytesReceived bytes =>
      { monitor with bytesReceived := monitor.bytesReceived + bytes }
  | .updateSocketRtt rttMs => { monitor with socketRttMs := rttMs }
  | .updateNetworkBandwidth bps => { monitor with networkBandwidthBps := bps }
  | .onConnectionFailure =>
      { monitor with connectionFailures := monitor.connectionFailures + 1 }
  | .reset => monitor.reset

theorem reset_eq (monitor : NetworkMonitor) : monitor.reset = {} := rfl

end NetworkMonitor

/-! ## Database -/

structure DatabaseMonitor where
  successfulWrites : UInt64 := 0
  failedWrites : UInt64 := 0
  insertLatencyMs : ℚ := 0
  queryLatencyMs : ℚ := 0
  activeConnections : UInt64 := 0
  connectionFailures : UInt64 := 0
  transactionCount : UInt64 := 0
  writesPerSec : ℚ := 0
  readsPerSec : ℚ := 0
  queueWaiting : UInt64 := 0
  deriving DecidableEq

namespace DatabaseMonitor

inductive Operation
  | onSuccessfulWrite
  | onFailedWrite
  | recordInsertLatency (ms : ℚ)
  | recordQueryLatency (ms : ℚ)
  | setActiveConnections (count : UInt64)
  | onConnectionFailure
  | onTransaction
  | setWritesPerSec (rate : ℚ)
  | setReadsPerSec (rate : ℚ)
  | setQueueWaiting (count : UInt64)
  | reset

def reset (_monitor : DatabaseMonitor) : DatabaseMonitor where
  successfulWrites := 0
  failedWrites := 0
  insertLatencyMs := 0
  queryLatencyMs := 0
  activeConnections := 0
  connectionFailures := 0
  transactionCount := 0
  writesPerSec := 0
  readsPerSec := 0
  queueWaiting := 0

def apply (monitor : DatabaseMonitor) : Operation → DatabaseMonitor
  | .onSuccessfulWrite =>
      { monitor with successfulWrites := monitor.successfulWrites + 1 }
  | .onFailedWrite => { monitor with failedWrites := monitor.failedWrites + 1 }
  | .recordInsertLatency ms => { monitor with insertLatencyMs := ms }
  | .recordQueryLatency ms => { monitor with queryLatencyMs := ms }
  | .setActiveConnections count => { monitor with activeConnections := count }
  | .onConnectionFailure =>
      { monitor with connectionFailures := monitor.connectionFailures + 1 }
  | .onTransaction =>
      { monitor with transactionCount := monitor.transactionCount + 1 }
  | .setWritesPerSec rate => { monitor with writesPerSec := rate }
  | .setReadsPerSec rate => { monitor with readsPerSec := rate }
  | .setQueueWaiting count => { monitor with queueWaiting := count }
  | .reset => monitor.reset

theorem reset_eq (monitor : DatabaseMonitor) : monitor.reset = {} := rfl

end DatabaseMonitor

/-! ## System -/

/-- What one look at the operating system yields: the CPU times, the pages in
`/proc/self/statm` if it opens, the heap in use and the number of threads. -/
structure OsReading where
  processTime : UInt64
  systemTime : UInt64
  statm : Option (UInt64 × UInt64)
  pageSize : UInt64
  heap : UInt64
  threads : UInt32
  deriving DecidableEq

structure SystemMonitor where
  startTime : TimePoint
  lastCpuUpdate : TimePoint
  lastRss : UInt64
  cpuUsagePercent : ℚ
  lastProcessTime : UInt64
  lastSystemTime : UInt64
  deriving DecidableEq

structure SystemMetrics where
  cpuUsagePercent : ℚ := 0
  memoryRss : UInt64 := 0
  peakRss : UInt64 := 0
  virtualMemory : UInt64 := 0
  heapUsage : UInt64 := 0
  memoryGrowthRate : ℚ := 0
  threadCount : UInt32 := 0
  uptimeSeconds : ℚ := 0
  deriving DecidableEq

namespace SystemMonitor

/-- The constructor, with its two clock readings. -/
def new (start update : TimePoint) : SystemMonitor where
  startTime := start
  lastCpuUpdate := update
  lastRss := 0
  cpuUsagePercent := 0
  lastProcessTime := 0
  lastSystemTime := 0

/-- `duration<double>` between two readings. -/
def seconds (earlier later : TimePoint) : ℚ :=
  ((later - earlier : ℤ) : ℚ) / 1000000000

/-- The share of the system's time that the process has used since the last
update, if there was one and the system's time has moved. -/
def cpuUsage (os : OsReading) (monitor : SystemMonitor) : ℚ :=
  if monitor.lastProcessTime > 0 ∧ monitor.lastSystemTime > 0 then
    let processTimeDiff := os.processTime - monitor.lastProcessTime
    let systemTimeDiff := os.systemTime - monitor.lastSystemTime
    if systemTimeDiff > 0 then
      (processTimeDiff.toNat : ℚ) / systemTimeDiff.toNat * 100
    else monitor.cpuUsagePercent
  else monitor.cpuUsagePercent

def updateCpuUsage (now : TimePoint) (os : OsReading)
    (monitor : SystemMonitor) : SystemMonitor :=
  if seconds monitor.lastCpuUpdate now < 1 / 10 then monitor
  else
    { monitor with
      cpuUsagePercent := monitor.cpuUsage os
      lastProcessTime := os.processTime
      lastSystemTime := os.systemTime
      lastCpuUpdate := now }

/-- `last_rss_` is a peak. -/
def raiseRss (currentRss : UInt64) (monitor : SystemMonitor) : SystemMonitor :=
  { monitor with
    lastRss :=
      if currentRss > monitor.lastRss then currentRss else monitor.lastRss }

/-- The growth since the peak, which `last_rss_` is by then; the difference is
one of unsigned numbers. -/
def memoryGrowth (now : TimePoint) (currentRss : UInt64)
    (monitor : SystemMonitor) : ℚ :=
  let elapsedSec := seconds monitor.lastCpuUpdate now
  if elapsedSec > 0 ∧ monitor.lastRss > 0 then
    ((currentRss - monitor.lastRss).toNat : ℚ) / elapsedSec
  else 0

/-- `now` is the reading for the uptime, `cpuNow` the one that
`updateCpuUsage` takes. -/
def getSystemMetrics (now cpuNow : TimePoint) (os : OsReading)
    (monitor : SystemMonitor) : SystemMetrics × SystemMonitor :=
  let updated := monitor.updateCpuUsage cpuNow os
  match os.statm with
  | some (size, resident) =>
      let currentRss := resident * os.pageSize
      let grown := updated.raiseRss currentRss
      ({ cpuUsagePercent := updated.cpuUsagePercent
         memoryRss := currentRss
         peakRss := grown.lastRss
         virtualMemory := size * os.pageSize
         heapUsage := os.heap
         memoryGrowthRate := grown.memoryGrowth now currentRss
         threadCount := os.threads
         uptimeSeconds := seconds monitor.startTime now }, grown)
  | none =>
      ({ cpuUsagePercent := updated.cpuUsagePercent
         threadCount := os.threads
         uptimeSeconds := seconds monitor.startTime now }, updated)

end SystemMonitor

end Datafeed
