import Datafeed.Metrics.LatencyTracker
import Datafeed.Metrics.Monitors
import Datafeed.Metrics.ThroughputTracker

/-!
# The collector and its reset

`MetricsCollector` owns nine monitors and two counters of its own.  An event is
a call of one of its methods, most of which forward to a monitor, or of a
monitor that it hands out.  Locks are left aside: an event is one step.  Clock
readings and readings of the operating system are part of the event that takes
them.  `reset` calls the nine monitors' own way of starting anew.
-/

namespace Datafeed.MetricsCollector

open ExchangeMonitor (ExchangeData ExchangeStats Exchanges TimePoint entryStats)
open MetricAggregator (Counter FeedMetricsSnapshot Gauge Level)

/-- The window of the collector's latency tracker. -/
abbrev windowSize : ℕ := 1000

instance : NeZero windowSize := ⟨by decide⟩

structure Collector where
  latencyTracker : LatencyTracker.Tracker windowSize
  throughputTracker : ThroughputTracker.Tracker
  systemMonitor : SystemMonitor
  exchangeMonitor : Exchanges
  queueMonitor : QueueMonitor
  feedHealthMonitor : FeedHealthMonitor
  sessionMonitor : SessionMonitor
  networkMonitor : NetworkMonitor
  databaseMonitor : DatabaseMonitor
  parseErrors : UInt64
  reconnectCount : UInt64

/-- The clock readings that the constructor takes, and `reset` again. -/
structure StartReading where
  throughput : TimePoint
  systemStart : TimePoint
  systemCpu : TimePoint

def new (reading : StartReading) : Collector where
  latencyTracker := LatencyTracker.Tracker.new
  throughputTracker := ThroughputTracker.Tracker.new reading.throughput
  systemMonitor := SystemMonitor.new reading.systemStart reading.systemCpu
  exchangeMonitor := ∅
  queueMonitor := {}
  feedHealthMonitor := {}
  sessionMonitor := {}
  networkMonitor := {}
  databaseMonitor := {}
  parseErrors := 0
  reconnectCount := 0

/-! ## Snapshots -/

/-- The readings of one snapshot. -/
structure SnapshotReading where
  throughput : TimePoint
  system : TimePoint
  systemCpu : TimePoint
  os : OsReading
  exchange : String → TimePoint

def snapshotCounters (throughput : ThroughputTracker.ThroughputStats)
    (collector : Collector) : Counter → UInt64
  | .totalMessagesReceived => throughput.counters .messagesReceived
  | .totalMessagesSent => throughput.counters .messagesSent
  | .totalBytesReceived => throughput.counters .bytesReceived
  | .totalBytesSent => throughput.counters .bytesSent
  | .totalPacketsReceived => throughput.counters .packetsReceived
  | .totalPacketsSent => throughput.counters .packetsSent
  | .totalTicks => throughput.counters .ticks
  | .totalTrades => throughput.counters .trades
  | .totalOrderbookUpdates => throughput.counters .orderbookUpdates
  | .totalSubscriptions => throughput.counters .subscriptions
  | .totalBroadcasts => throughput.counters .broadcasts
  | .totalDatabaseWrites => throughput.counters .databaseWrites
  | .totalDatabaseReads => throughput.counters .databaseReads
  | .packetDrops => collector.feedHealthMonitor.packetDrops
  | .duplicatePackets => collector.feedHealthMonitor.duplicatePackets
  | .outOfOrderPackets => collector.feedHealthMonitor.outOfOrderPackets
  | .sequenceGaps => collector.feedHealthMonitor.sequenceGaps
  | .missingTicks => collector.feedHealthMonitor.missingTicks
  | .invalidMessages => collector.feedHealthMonitor.invalidMessages
  | .corruptedPackets => collector.feedHealthMonitor.corruptedPackets
  | .parseFailures => collector.feedHealthMonitor.parseFailures
  | .totalConnections => collector.sessionMonitor.totalConnections
  | .totalDisconnections => collector.sessionMonitor.totalDisconnections
  | .authenticationFailures => collector.sessionMonitor.authenticationFailures
  | .reconnectCount => collector.sessionMonitor.reconnectCount
  | .tcpReconnects => collector.networkMonitor.tcpReconnects
  | .socketErrors => collector.networkMonitor.socketErrors
  | .readErrors => collector.networkMonitor.readErrors
  | .writeErrors => collector.networkMonitor.writeErrors
  | .tlsHandshakeFailures => collector.networkMonitor.tlsHandshakeFailures
  | .bytesTransmitted => collector.networkMonitor.bytesTransmitted
  | .networkBytesReceived => collector.networkMonitor.bytesReceived
  | .connectionFailures => collector.networkMonitor.connectionFailures
  | .successfulWrites => collector.databaseMonitor.successfulWrites
  | .failedWrites => collector.databaseMonitor.failedWrites
  | .dbConnectionFailures => collector.databaseMonitor.connectionFailures
  | .transactionCount => collector.databaseMonitor.transactionCount

def snapshotGauges (system : SystemMetrics) (collector : Collector) : Gauge → ℚ
  | .cpuUsagePercent => system.cpuUsagePercent
  | .memoryGrowthRate => system.memoryGrowthRate
  | .uptimeSeconds => system.uptimeSeconds
  | .queueWaitTimeMs => collector.queueMonitor.queueWaitTimeMs
  | .queueProcessingTimeMs => collector.queueMonitor.queueProcessingTimeMs
  | .averageSessionDurationMs =>
      collector.sessionMonitor.averageSessionDurationMs
  | .longestSessionDurationMs =>
      collector.sessionMonitor.longestSessionDurationMs
  | .socketRttMs => collector.networkMonitor.socketRttMs
  | .networkBandwidthBps => collector.networkMonitor.networkBandwidthBps
  | .insertLatencyMs => collector.databaseMonitor.insertLatencyMs
  | .queryLatencyMs => collector.databaseMonitor.queryLatencyMs
  | .writesPerSec => collector.databaseMonitor.writesPerSec
  | .readsPerSec => collector.databaseMonitor.readsPerSec

def snapshotLevels (system : SystemMetrics) (collector : Collector) :
    Level → UInt64
  | .memoryRss => system.memoryRss
  | .peakRss => system.peakRss
  | .virtualMemory => system.virtualMemory
  | .heapUsage => system.heapUsage
  | .threadCount => system.threadCount.toUInt64
  | .incomingQueueDepth => collector.queueMonitor.incoming.depth
  | .outgoingQueueDepth => collector.queueMonitor.outgoing.depth
  | .serializationQueueDepth => collector.queueMonitor.serialization.depth
  | .maxIncomingQueueDepth => collector.queueMonitor.incoming.max
  | .maxOutgoingQueueDepth => collector.queueMonitor.outgoing.max
  | .maxSerializationQueueDepth => collector.queueMonitor.serialization.max
  | .queueOverflowCount => collector.queueMonitor.overflowCount
  | .activeClients => collector.sessionMonitor.activeClients
  | .activeSessions => collector.sessionMonitor.activeSessions
  | .activeSubscriptions => collector.sessionMonitor.activeSubscriptions
  | .activeDbConnections => collector.databaseMonitor.activeConnections
  | .dbQueueWaiting => collector.databaseMonitor.queueWaiting

/-- The entry of `exchange_stats` for a name. -/
def snapshotExchange (clock : String → TimePoint) (exchanges : Exchanges)
    (name : String) : Option ExchangeStats :=
  (exchanges.lookup name).map (entryStats · (clock name))

/-- The snapshot, and the collector with the last values it has updated. -/
def getSnapshot (reading : SnapshotReading) (collector : Collector) :
    FeedMetricsSnapshot × Collector :=
  let throughput :=
    collector.throughputTracker.getAndUpdateStats reading.throughput
  let system := collector.systemMonitor.getSystemMetrics reading.system
    reading.systemCpu reading.os
  ({ latencyStats := collector.latencyTracker.getAllLatencyStats
     rates := throughput.1.rates
     counters := snapshotCounters throughput.1 collector
     gauges := snapshotGauges system.1 collector
     levels := snapshotLevels system.1 collector
     queueBackpressure := collector.queueMonitor.backpressure
     staleFeed := collector.feedHealthMonitor.staleFeed
     feedHealthScore := collector.feedHealthMonitor.calculateHealthScore
     feedHealthStatus := collector.feedHealthMonitor.getHealthStatus
     exchangeStats :=
       snapshotExchange reading.exchange collector.exchangeMonitor },
    { collector with
      throughputTracker := throughput.2
      systemMonitor := system.2 })

/-! ## Events -/

inductive Event
  /-- `onMessageReceived` and `onMessageSent` count one packet. -/
  | onMessageReceived (bytes : UInt64)
  | onMessageSent (bytes : UInt64)
  | onParseError
  | onReconnect
  | updateCpuUsage (now : TimePoint) (os : OsReading)
  | latency (operation : LatencyTracker.Operation)
  | throughput (event : ThroughputTracker.Event)
  | exchange (operation : ExchangeMonitor.Operation)
  | queue (operation : QueueMonitor.Operation)
  | feedHealth (operation : FeedHealthMonitor.Operation)
  | session (operation : SessionMonitor.Operation)
  | network (operation : NetworkMonitor.Operation)
  | database (operation : DatabaseMonitor.Operation)
  | getSnapshot (reading : SnapshotReading)
  | reset (reading : StartReading)

/-- What a call does to the map; with locks left aside, the calls that only
read leave it as it is. -/
def exchangeStep (exchanges : Exchanges)
    (operation : ExchangeMonitor.Operation) : Exchanges :=
  match operation.call ⟨exchanges, false⟩ with
  | .returned _ after => after.data
  | .selfDeadlock => exchanges

def reset (reading : StartReading) (collector : Collector) : Collector where
  latencyTracker := collector.latencyTracker.clearAll
  throughputTracker := collector.throughputTracker.reset reading.throughput
  systemMonitor := SystemMonitor.new reading.systemStart reading.systemCpu
  exchangeMonitor := exchangeStep collector.exchangeMonitor .resetAll
  queueMonitor := collector.queueMonitor.reset
  feedHealthMonitor := collector.feedHealthMonitor.reset
  sessionMonitor := collector.sessionMonitor.reset
  networkMonitor := collector.networkMonitor.reset
  databaseMonitor := collector.databaseMonitor.reset
  parseErrors := 0
  reconnectCount := 0

def Collector.apply (collector : Collector) : Event → Collector
  | .onMessageReceived bytes =>
      { collector with
        throughputTracker := collector.throughputTracker.onEvent
          (.onMessageReceived bytes 1) }
  | .onMessageSent bytes =>
      { collector with
        throughputTracker := collector.throughputTracker.onEvent
          (.onMessageSent bytes 1) }
  | .onParseError =>
      { collector with
        parseErrors := collector.parseErrors + 1
        feedHealthMonitor :=
          collector.feedHealthMonitor.apply .onParseFailure }
  | .onReconnect =>
      { collector with reconnectCount := collector.reconnectCount + 1 }
  | .updateCpuUsage now os =>
      { collector with
        systemMonitor := collector.systemMonitor.updateCpuUsage now os }
  | .latency operation =>
      { collector with
        latencyTracker := collector.latencyTracker.apply operation }
  | .throughput event =>
      { collector with
        throughputTracker := collector.throughputTracker.onEvent event }
  | .exchange operation =>
      { collector with
        exchangeMonitor := exchangeStep collector.exchangeMonitor operation }
  | .queue operation =>
      { collector with queueMonitor := collector.queueMonitor.apply operation }
  | .feedHealth operation =>
      { collector with
        feedHealthMonitor := collector.feedHealthMonitor.apply operation }
  | .session operation =>
      { collector with
        sessionMonitor := collector.sessionMonitor.apply operation }
  | .network operation =>
      { collector with
        networkMonitor := collector.networkMonitor.apply operation }
  | .database operation =>
      { collector with
        databaseMonitor := collector.databaseMonitor.apply operation }
  | .getSnapshot reading => (getSnapshot reading collector).2
  | .reset reading => reset reading collector

/-- The collector after a list of events. -/
def runEvents (collector : Collector) (events : List Event) : Collector :=
  events.foldl Collector.apply collector

/-- A reset leaves nothing: every component is the one of a new collector. -/
theorem reset_eq_new (reading : StartReading) (collector : Collector) :
    reset reading collector = new reading := rfl

end Datafeed.MetricsCollector
