import Datafeed.Metrics.MetricAggregator
import Datafeed.Storage.FeedMetrics
import Datafeed.Storage.History

/-!
# From summaries to rows

`snapshot_converter` makes the records of six tables from one summary.  Numbers
without a sign become signed ones of the same width; a counter that the process
keeps in two directions is added up.
-/

namespace Datafeed.SnapshotConverter

open MetricAggregator Storage

/-- `static_cast<int64_t>` of an unsigned number. -/
def int64 (value : UInt64) : ℤ := value.toInt64.toInt

/-- `static_cast<int64_t>` of a double. -/
def truncated (value : ℚ) : ℤ := value.num.tdiv value.den

def healthStatusToString : HealthStatus → String
  | .healthy => "healthy"
  | .degraded => "degraded"
  | .critical => "critical"

def categoryName : LatencyCategory → String
  | .exchange => "exchange"
  | .parsing => "parsing"
  | .normalization => "normalization"
  | .processing => "processing"
  | .broadcast => "broadcast"
  | .serialization => "serialization"
  | .socketSend => "socket_send"
  | .general => "general"

/-- The categories in the order of the keys of a JSON object. -/
def categories : List LatencyCategory :=
  [.broadcast, .exchange, .general, .normalization, .parsing, .processing,
    .serialization, .socketSend]

/-- The object of the latency statistics before it is printed. -/
def latencyJson (summary : MetricAggregator.FeedMetricsSnapshot) :
    List (String × LatencyStats) :=
  categories.filterMap fun category =>
    (summary.latencyStats category).map fun stats =>
      (categoryName category, stats)

/-- The metrics of `to_db_snapshot`; three of them are not set.  `dump` prints
the object of the latency statistics. -/
def metrics (dump : List (String × LatencyStats) → String)
    (summary : MetricAggregator.FeedMetricsSnapshot) : Metrics
  | .p50LatencyMs => (summary.latencyStats .general).map LatencyStats.p50
  | .p95LatencyMs => (summary.latencyStats .general).map LatencyStats.p95
  | .p99LatencyMs => (summary.latencyStats .general).map LatencyStats.p99
  | .avgLatencyMs => (summary.latencyStats .general).map LatencyStats.average
  | .dropRate | .packetLossRate | .eventLoopLagMs => none
  | .exchangeP50Ms => (summary.latencyStats .exchange).map LatencyStats.p50
  | .exchangeP95Ms => (summary.latencyStats .exchange).map LatencyStats.p95
  | .exchangeP99Ms => (summary.latencyStats .exchange).map LatencyStats.p99
  | .parsingP50Ms => (summary.latencyStats .parsing).map LatencyStats.p50
  | .parsingP95Ms => (summary.latencyStats .parsing).map LatencyStats.p95
  | .parsingP99Ms => (summary.latencyStats .parsing).map LatencyStats.p99
  | .normalizationP50Ms =>
      (summary.latencyStats .normalization).map LatencyStats.p50
  | .normalizationP95Ms =>
      (summary.latencyStats .normalization).map LatencyStats.p95
  | .normalizationP99Ms =>
      (summary.latencyStats .normalization).map LatencyStats.p99
  | .processingP50Ms =>
      (summary.latencyStats .processing).map LatencyStats.p50
  | .processingP95Ms =>
      (summary.latencyStats .processing).map LatencyStats.p95
  | .processingP99Ms =>
      (summary.latencyStats .processing).map LatencyStats.p99
  | .broadcastP50Ms => (summary.latencyStats .broadcast).map LatencyStats.p50
  | .broadcastP95Ms => (summary.latencyStats .broadcast).map LatencyStats.p95
  | .broadcastP99Ms => (summary.latencyStats .broadcast).map LatencyStats.p99
  | .serializationP50Ms =>
      (summary.latencyStats .serialization).map LatencyStats.p50
  | .serializationP95Ms =>
      (summary.latencyStats .serialization).map LatencyStats.p95
  | .serializationP99Ms =>
      (summary.latencyStats .serialization).map LatencyStats.p99
  | .socketSendP50Ms =>
      (summary.latencyStats .socketSend).map LatencyStats.p50
  | .socketSendP95Ms =>
      (summary.latencyStats .socketSend).map LatencyStats.p95
  | .socketSendP99Ms =>
      (summary.latencyStats .socketSend).map LatencyStats.p99
  | .latencyStatsJsonb => some (dump (latencyJson summary))
  | .messagesPerSec =>
      some (summary.rates .messagesReceived + summary.rates .messagesSent)
  | .packetsPerSec =>
      some (summary.rates .packetsReceived + summary.rates .packetsSent)
  | .bytesPerSec =>
      some (summary.rates .bytesReceived + summary.rates .bytesSent)
  | .ticksPerSec => some (summary.rates .ticks)
  | .tradesPerSec => some (summary.rates .trades)
  | .orderbookUpdatesPerSec => some (summary.rates .orderbookUpdates)
  | .broadcastsPerSec => some (summary.rates .broadcasts)
  | .subscriptionsPerSec => some (summary.rates .subscriptions)
  | .databaseWritesPerSec => some (summary.rates .databaseWrites)
  | .databaseReadsPerSec => some (summary.rates .databaseReads)
  | .totalMessages =>
      some (int64 (summary.counters .totalMessagesReceived +
        summary.counters .totalMessagesSent))
  | .totalPackets =>
      some (int64 (summary.counters .totalPacketsReceived +
        summary.counters .totalPacketsSent))
  | .totalBytes =>
      some (int64 (summary.counters .totalBytesReceived +
        summary.counters .totalBytesSent))
  | .totalTicks => some (int64 (summary.counters .totalTicks))
  | .totalTrades => some (int64 (summary.counters .totalTrades))
  | .totalOrderbookUpdates =>
      some (int64 (summary.counters .totalOrderbookUpdates))
  | .totalBroadcasts => some (int64 (summary.counters .totalBroadcasts))
  | .totalSubscriptions => some (int64 (summary.counters .totalSubscriptions))
  | .totalDatabaseWrites => some (int64 (summary.counters .totalDatabaseWrites))
  | .totalDatabaseReads => some (int64 (summary.counters .totalDatabaseReads))
  | .msgsSent => some (int64 (summary.counters .totalMessagesSent))
  | .msgsReceived => some (int64 (summary.counters .totalMessagesReceived))
  | .bytesSent => some (int64 (summary.counters .totalBytesSent))
  | .bytesReceived => some (int64 (summary.counters .totalBytesReceived))
  | .cpuUsage => some (summary.gauges .cpuUsagePercent)
  | .memoryUsage => some (int64 (summary.levels .memoryRss))
  | .threadCount => some (int64 (summary.levels .threadCount))
  | .uptimeSeconds => some (truncated (summary.gauges .uptimeSeconds))
  | .peakRss => some (int64 (summary.levels .peakRss))
  | .virtualMemory => some (int64 (summary.levels .virtualMemory))
  | .heapUsage => some (int64 (summary.levels .heapUsage))
  | .memoryGrowthRate => some (summary.gauges .memoryGrowthRate)
  | .incomingQueueDepth => some (int64 (summary.levels .incomingQueueDepth))
  | .outgoingQueueDepth => some (int64 (summary.levels .outgoingQueueDepth))
  | .serializationQueueDepth =>
      some (int64 (summary.levels .serializationQueueDepth))
  | .maxIncomingQueueDepth =>
      some (int64 (summary.levels .maxIncomingQueueDepth))
  | .maxOutgoingQueueDepth =>
      some (int64 (summary.levels .maxOutgoingQueueDepth))
  | .maxSerializationQueueDepth =>
      some (int64 (summary.levels .maxSerializationQueueDepth))
  | .queueOverflowCount => some (int64 (summary.levels .queueOverflowCount))
  | .queueWaitTimeMs => some (summary.gauges .queueWaitTimeMs)
  | .queueProcessingTimeMs => some (summary.gauges .queueProcessingTimeMs)
  | .queueBackpressure => some summary.queueBackpressure
  | .packetDrops => some (int64 (summary.counters .packetDrops))
  | .duplicatePackets => some (int64 (summary.counters .duplicatePackets))
  | .outOfOrderPackets => some (int64 (summary.counters .outOfOrderPackets))
  | .sequenceGaps => some (int64 (summary.counters .sequenceGaps))
  | .missingTicks => some (int64 (summary.counters .missingTicks))
  | .invalidMessages => some (int64 (summary.counters .invalidMessages))
  | .corruptedPackets => some (int64 (summary.counters .corruptedPackets))
  | .parseFailures => some (int64 (summary.counters .parseFailures))
  | .staleFeed => some summary.staleFeed
  | .feedHealthScore => some (summary.feedHealthScore.toNat : ℤ)
  | .feedHealthStatus => some (healthStatusToString summary.feedHealthStatus)
  | .activeClients => some (int64 (summary.levels .activeClients))
  | .activeSessions => some (int64 (summary.levels .activeSessions))
  | .activeSubscriptions => some (int64 (summary.levels .activeSubscriptions))
  | .totalConnections => some (int64 (summary.counters .totalConnections))
  | .totalDisconnections => some (int64 (summary.counters .totalDisconnections))
  | .reconnectCount => some (int64 (summary.counters .reconnectCount))
  | .authenticationFailures =>
      some (int64 (summary.counters .authenticationFailures))
  | .avgSessionDurationMs => some (summary.gauges .averageSessionDurationMs)
  | .longestSessionDurationMs => some (summary.gauges .longestSessionDurationMs)
  | .tcpReconnects => some (int64 (summary.counters .tcpReconnects))
  | .socketErrors => some (int64 (summary.counters .socketErrors))
  | .readErrors => some (int64 (summary.counters .readErrors))
  | .writeErrors => some (int64 (summary.counters .writeErrors))
  | .tlsHandshakeFailures =>
      some (int64 (summary.counters .tlsHandshakeFailures))
  | .networkBytesTransmitted => some (int64 (summary.counters .bytesTransmitted))
  | .networkBytesReceived =>
      some (int64 (summary.counters .networkBytesReceived))
  | .socketRttMs => some (summary.gauges .socketRttMs)
  | .networkBandwidthBps => some (summary.gauges .networkBandwidthBps)
  | .networkConnectionFailures =>
      some (int64 (summary.counters .connectionFailures))
  | .dbSuccessfulWrites => some (int64 (summary.counters .successfulWrites))
  | .dbFailedWrites => some (int64 (summary.counters .failedWrites))
  | .dbInsertLatencyMs => some (summary.gauges .insertLatencyMs)
  | .dbQueryLatencyMs => some (summary.gauges .queryLatencyMs)
  | .dbActiveConnections => some (int64 (summary.levels .activeDbConnections))
  | .dbConnectionFailures =>
      some (int64 (summary.counters .dbConnectionFailures))
  | .dbTransactionCount => some (int64 (summary.counters .transactionCount))
  | .dbWritesPerSec => some (summary.gauges .writesPerSec)
  | .dbReadsPerSec => some (summary.gauges .readsPerSec)
  | .dbQueueWaiting => some (int64 (summary.levels .dbQueueWaiting))

def toDbSnapshot (dump : List (String × LatencyStats) → String)
    (summary : MetricAggregator.FeedMetricsSnapshot) (instanceId : String)
    (measuredAt : ℕ) : Storage.FeedMetricsSnapshot where
  id := 0
  instanceId := instanceId
  measuredAt := measuredAt
  metrics := metrics dump summary

/-- The loop body of `to_exchange_entries`. -/
def toExchangeEntry (instanceId : String) (measuredAt : ℕ) (name : String)
    (stats : ExchangeMonitor.ExchangeStats) : ExchangeMetricsEntry where
  id := 0
  instanceId := instanceId
  exchangeName := name
  snapshotTime := measuredAt
  connected := stats.connected
  uptimeSeconds := stats.uptimeSeconds
  reconnectCount := int64 stats.reconnectCount
  heartbeatFailures := int64 stats.heartbeatFailures
  websocketDisconnects := int64 stats.websocketDisconnects
  messagesReceived := int64 stats.messagesReceived
  messagesDropped := int64 stats.messagesDropped
  parseErrors := int64 stats.parseErrors
  feedLagMs := stats.feedLagMs
  exchangeLatencyMs := stats.exchangeLatencyMs
  stale := stats.stale

section

variable (summary : MetricAggregator.FeedMetricsSnapshot)
  (instanceId : String) (measuredAt : ℕ)

def toQueueEntry : QueueEntry where
  id := 0
  instanceId := instanceId
  measuredAt := measuredAt
  incomingDepth := int64 (summary.levels .incomingQueueDepth)
  outgoingDepth := int64 (summary.levels .outgoingQueueDepth)
  serializationDepth := int64 (summary.levels .serializationQueueDepth)
  maxIncomingDepth := int64 (summary.levels .maxIncomingQueueDepth)
  maxOutgoingDepth := int64 (summary.levels .maxOutgoingQueueDepth)
  maxSerializationDepth := int64 (summary.levels .maxSerializationQueueDepth)
  overflowCount := int64 (summary.levels .queueOverflowCount)
  backpressure := summary.queueBackpressure
  waitTimeMs := summary.gauges .queueWaitTimeMs
  processingTimeMs := summary.gauges .queueProcessingTimeMs

def toSystemEntry : SystemMetricsEntry where
  id := 0
  instanceId := instanceId
  measuredAt := measuredAt
  cpuUsagePercent := summary.gauges .cpuUsagePercent
  memoryRss := int64 (summary.levels .memoryRss)
  peakRss := int64 (summary.levels .peakRss)
  virtualMemory := int64 (summary.levels .virtualMemory)
  heapUsage := int64 (summary.levels .heapUsage)
  memoryGrowthRate := summary.gauges .memoryGrowthRate
  threadCount := int64 (summary.levels .threadCount)
  uptimeSeconds := summary.gauges .uptimeSeconds

def toNetworkEntry : NetworkMetricsEntry where
  id := 0
  instanceId := instanceId
  measuredAt := measuredAt
  tcpReconnects := int64 (summary.counters .tcpReconnects)
  socketErrors := int64 (summary.counters .socketErrors)
  readErrors := int64 (summary.counters .readErrors)
  writeErrors := int64 (summary.counters .writeErrors)
  tlsHandshakeFailures := int64 (summary.counters .tlsHandshakeFailures)
  bytesTransmitted := int64 (summary.counters .bytesTransmitted)
  bytesReceived := int64 (summary.counters .networkBytesReceived)
  socketRttMs := summary.gauges .socketRttMs
  bandwidthBps := summary.gauges .networkBandwidthBps
  connectionFailures := int64 (summary.counters .connectionFailures)

def toDatabaseEntry : DatabaseMetricsEntry where
  id := 0
  instanceId := instanceId
  measuredAt := measuredAt
  successfulWrites := int64 (summary.counters .successfulWrites)
  failedWrites := int64 (summary.counters .failedWrites)
  insertLatencyMs := summary.gauges .insertLatencyMs
  queryLatencyMs := summary.gauges .queryLatencyMs
  activeConnections := int64 (summary.levels .activeDbConnections)
  connectionFailures := int64 (summary.counters .dbConnectionFailures)
  transactionCount := int64 (summary.counters .transactionCount)
  writesPerSec := summary.gauges .writesPerSec
  readsPerSec := summary.gauges .readsPerSec
  queueWaiting := int64 (summary.levels .dbQueueWaiting)

end

end Datafeed.SnapshotConverter
