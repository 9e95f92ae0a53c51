import Datafeed.Storage.Adapter
import Mathlib.Logic.Function.Basic

/-!
# Feed metrics: 15-minute snapshots and weekly summaries

The two tables share a long list of nullable metric columns, and the two
records the optional fields of the same names.  The column list of each
`INSERT`, the sequence of parameters of each `create_*` and the columns each
reader decodes are lists of their own, as in the source, where nothing keeps
them in step.
-/

namespace Datafeed.Storage

open Sql

/-! ## The shared metrics -/

/-- The member types `std::optional<double>`, `std::optional<int64_t>`,
`std::optional<bool>` and `std::optional<std::string>`. -/
inductive MetricKind
  | double
  | int64
  | bool
  | text
  deriving DecidableEq

abbrev MetricKind.Value : MetricKind → Type
  | .double => ℚ
  | .int64 => ℤ
  | .bool => Bool
  | .text => String

/-- The metric columns, in the order of `schema.sql`. -/
inductive MetricColumn
  | p50LatencyMs | p95LatencyMs | p99LatencyMs | avgLatencyMs | dropRate
  | packetLossRate | msgsSent | msgsReceived | bytesSent | bytesReceived
  | cpuUsage | memoryUsage | threadCount | eventLoopLagMs | uptimeSeconds
  | exchangeP50Ms | exchangeP95Ms | exchangeP99Ms | parsingP50Ms
  | parsingP95Ms | parsingP99Ms | normalizationP50Ms | normalizationP95Ms
  | normalizationP99Ms | processingP50Ms | processingP95Ms | processingP99Ms
  | broadcastP50Ms | broadcastP95Ms | broadcastP99Ms | serializationP50Ms
  | serializationP95Ms | serializationP99Ms | socketSendP50Ms
  | socketSendP95Ms | socketSendP99Ms | latencyStatsJsonb | messagesPerSec
  | packetsPerSec | bytesPerSec | ticksPerSec | tradesPerSec
  | orderbookUpdatesPerSec | broadcastsPerSec | subscriptionsPerSec
  | databaseWritesPerSec | databaseReadsPerSec | totalMessages
  | totalPackets | totalBytes | totalTicks | totalTrades
  | totalOrderbookUpdates | totalBroadcasts | totalSubscriptions
  | totalDatabaseWrites | totalDatabaseReads | incomingQueueDepth
  | outgoingQueueDepth | serializationQueueDepth | maxIncomingQueueDepth
  | maxOutgoingQueueDepth | maxSerializationQueueDepth | queueOverflowCount
  | queueWaitTimeMs | queueProcessingTimeMs | queueBackpressure
  | packetDrops | duplicatePackets | outOfOrderPackets | sequenceGaps
  | missingTicks | invalidMessages | corruptedPackets | parseFailures
  | staleFeed | feedHealthScore | feedHealthStatus | activeClients
  | activeSessions | activeSubscriptions | totalConnections
  | totalDisconnections | reconnectCount | authenticationFailures
  | avgSessionDurationMs | longestSessionDurationMs | tcpReconnects
  | socketErrors | readErrors | writeErrors | tlsHandshakeFailures
  | networkBytesTransmitted | networkBytesReceived | socketRttMs
  | networkBandwidthBps | networkConnectionFailures | dbSuccessfulWrites
  | dbFailedWrites | dbInsertLatencyMs | dbQueryLatencyMs
  | dbActiveConnections | dbConnectionFailures | dbTransactionCount
  | dbWritesPerSec | dbReadsPerSec | dbQueueWaiting | peakRss
  | virtualMemory | heapUsage | memoryGrowthRate
  deriving DecidableEq

def MetricColumn.kind : MetricColumn → MetricKind
  | .queueBackpressure | .staleFeed => .bool
  | .latencyStatsJsonb | .feedHealthStatus => .text
  | .msgsSent | .msgsReceived | .bytesSent | .bytesReceived | .memoryUsage
  | .threadCount | .uptimeSeconds | .totalMessages | .totalPackets
  | .totalBytes | .totalTicks | .totalTrades | .totalOrderbookUpdates
  | .totalBroadcasts | .totalSubscriptions | .totalDatabaseWrites
  | .totalDatabaseReads | .incomingQueueDepth | .outgoingQueueDepth
  | .serializationQueueDepth | .maxIncomingQueueDepth
  | .maxOutgoingQueueDepth | .maxSerializationQueueDepth
  | .queueOverflowCount | .packetDrops | .duplicatePackets
  | .outOfOrderPackets | .sequenceGaps | .missingTicks | .invalidMessages
  | .corruptedPackets | .parseFailures | .feedHealthScore | .activeClients
  | .activeSessions | .activeSubscriptions | .totalConnections
  | .totalDisconnections | .reconnectCount | .authenticationFailures
  | .tcpReconnects | .socketErrors | .readErrors | .writeErrors
  | .tlsHandshakeFailures | .networkBytesTransmitted | .networkBytesReceived
  | .networkConnectionFailures | .dbSuccessfulWrites | .dbFailedWrites
  | .dbActiveConnections | .dbConnectionFailures | .dbTransactionCount
  | .dbQueueWaiting | .peakRss | .virtualMemory | .heapUsage => .int64
  | _ => .double

def MetricColumn.sqlType : MetricColumn → SqlType
  | .queueBackpressure | .staleFeed => .boolean
  | .latencyStatsJsonb => .jsonb
  | .feedHealthStatus => .varchar 20
  | .threadCount | .incomingQueueDepth | .outgoingQueueDepth
  | .serializationQueueDepth | .maxIncomingQueueDepth
  | .maxOutgoingQueueDepth | .maxSerializationQueueDepth
  | .queueOverflowCount | .feedHealthScore | .activeClients
  | .activeSessions | .activeSubscriptions | .totalConnections
  | .totalDisconnections | .reconnectCount | .authenticationFailures
  | .tcpReconnects | .socketErrors | .readErrors | .writeErrors
  | .tlsHandshakeFailures | .networkConnectionFailures
  | .dbActiveConnections | .dbConnectionFailures | .dbQueueWaiting => .int4
  | .msgsSent | .msgsReceived | .bytesSent | .bytesReceived | .memoryUsage
  | .uptimeSeconds | .totalMessages | .totalPackets | .totalBytes
  | .totalTicks | .totalTrades | .totalOrderbookUpdates | .totalBroadcasts
  | .totalSubscriptions | .totalDatabaseWrites | .totalDatabaseReads
  | .packetDrops | .duplicatePackets | .outOfOrderPackets | .sequenceGaps
  | .missingTicks | .invalidMessages | .corruptedPackets | .parseFailures
  | .networkBytesTransmitted | .networkBytesReceived | .dbSuccessfulWrites
  | .dbFailedWrites | .dbTransactionCount | .peakRss | .virtualMemory
  | .heapUsage => .int8
  | _ => .float8

def metricColumns : List MetricColumn :=
  [.p50LatencyMs, .p95LatencyMs, .p99LatencyMs, .avgLatencyMs, .dropRate,
    .packetLossRate, .msgsSent, .msgsReceived, .bytesSent, .bytesReceived,
    .cpuUsage, .memoryUsage, .threadCount, .eventLoopLagMs, .uptimeSeconds,
    .exchangeP50Ms, .exchangeP95Ms, .exchangeP99Ms, .parsingP50Ms,
    .parsingP95Ms, .parsingP99Ms, .normalizationP50Ms, .normalizationP95Ms,
    .normalizationP99Ms, .processingP50Ms, .processingP95Ms, .processingP99Ms,
    .broadcastP50Ms, .broadcastP95Ms, .broadcastP99Ms, .serializationP50Ms,
    .serializationP95Ms, .serializationP99Ms, .socketSendP50Ms,
    .socketSendP95Ms, .socketSendP99Ms, .latencyStatsJsonb, .messagesPerSec,
    .packetsPerSec, .bytesPerSec, .ticksPerSec, .tradesPerSec,
    .orderbookUpdatesPerSec, .broadcastsPerSec, .subscriptionsPerSec,
    .databaseWritesPerSec, .databaseReadsPerSec, .totalMessages,
    .totalPackets, .totalBytes, .totalTicks, .totalTrades,
    .totalOrderbookUpdates, .totalBroadcasts, .totalSubscriptions,
    .totalDatabaseWrites, .totalDatabaseReads, .incomingQueueDepth,
    .outgoingQueueDepth, .serializationQueueDepth, .maxIncomingQueueDepth,
    .maxOutgoingQueueDepth, .maxSerializationQueueDepth, .queueOverflowCount,
    .queueWaitTimeMs, .queueProcessingTimeMs, .queueBackpressure,
    .packetDrops, .duplicatePackets, .outOfOrderPackets, .sequenceGaps,
    .missingTicks, .invalidMessages, .corruptedPackets, .parseFailures,
    .staleFeed, .feedHealthScore, .feedHealthStatus, .activeClients,
    .activeSessions, .activeSubscriptions, .totalConnections,
    .totalDisconnections, .reconnectCount, .authenticationFailures,
    .avgSessionDurationMs, .longestSessionDurationMs, .tcpReconnects,
    .socketErrors, .readErrors, .writeErrors, .tlsHandshakeFailures,
    .networkBytesTransmitted, .networkBytesReceived, .socketRttMs,
    .networkBandwidthBps, .networkConnectionFailures, .dbSuccessfulWrites,
    .dbFailedWrites, .dbInsertLatencyMs, .dbQueryLatencyMs,
    .dbActiveConnections, .dbConnectionFailures, .dbTransactionCount,
    .dbWritesPerSec, .dbReadsPerSec, .dbQueueWaiting, .peakRss,
    .virtualMemory, .heapUsage, .memoryGrowthRate]

/-- The optional fields that both records have. -/
abbrev Metrics := (column : MetricColumn) → Option column.kind.Value

/-- `append_opt` and `append_opt_bool`. -/
def appendMetric : (kind : MetricKind) → Option kind.Value → Param
  | .double, value => appendOpt .double value
  | .int64, value => appendOpt .integer value
  | .bool, value => appendOpt appendBool value
  | .text, value => appendOpt .text value

section Reading

variable {Json : Type} (codec : Codec Json)

def readMetric : (kind : MetricKind) → Datum Json → Option kind.Value
  | .double, datum => datum.asDouble
  | .int64, datum => datum.asInt64
  | .bool, datum => datum.asBool
  | .text, datum => datum.asString codec

/-- Reads the listed metric columns into a record, one after the other. -/
def readMetrics (datum : MetricColumn → Datum Json) :
    List MetricColumn → Metrics → Option Metrics
  | [], metrics => some metrics
  | column :: columns, metrics => do
      let value ← (datum column).optional (readMetric codec column.kind)
      readMetrics datum columns (Function.update metrics column value)

/-- The member type a column type is read into. -/
def MetricKind.Matches : MetricKind → SqlType → Bool
  | .double, .float8 => true
  | .int64, .int4 => true
  | .int64, .int8 => true
  | .bool, .boolean => true
  | .text, .varchar _ => true
  | .text, .jsonb => true
  | _, _ => false

/-- A value as it comes back from a column: JSON text in the server's form. -/
def returnedAs : (kind : MetricKind) → SqlType → kind.Value → kind.Value
  | .text, .jsonb => normalized codec
  | _, _ => id

/-- Equality of two fields of a column, for `JSONB` of the JSON values. -/
def EqualAs : (kind : MetricKind) → SqlType →
    Option kind.Value → Option kind.Value → Prop
  | .text, .jsonb, left, right => JsonEq codec left right
  | _, _, left, right => left = right

variable {codec}

theorem readMetrics_eq {datum : MetricColumn → Datum Json} {values : Metrics}
    (hread : ∀ column, (datum column).optional (readMetric codec column.kind) =
      some (values column))
    (columns : List MetricColumn) (metrics : Metrics) :
    readMetrics codec datum columns metrics =
      some fun column =>
        if column ∈ columns then values column else metrics column := by
  induction columns generalizing metrics with
  | nil => simp [readMetrics]
  | cons head columns ih =>
      rw [readMetrics, hread, Option.bind_eq_bind, Option.bind_some, ih]
      congr
      funext column
      by_cases hlisted : column ∈ columns
      · simp [hlisted]
      · by_cases hsame : column = head
        · subst hsame
          simp [hlisted]
        · simp [hlisted, hsame]

theorem map_returnedAs {kind : MetricKind} {sqlType : SqlType}
    (hne : sqlType ≠ .jsonb) (value : Option kind.Value) :
    value.map (returnedAs codec kind sqlType) = value := by
  have hid : returnedAs codec kind sqlType = id := by
    cases kind <;> cases sqlType <;> first | rfl | exact absurd rfl hne
  rw [hid, Option.map_id, id_eq]

theorem optional_readMetric_stored {kind : MetricKind} {sqlType : SqlType}
    (hmatches : kind.Matches sqlType = true) {value : Option kind.Value}
    (hfits : Fits codec sqlType (appendMetric kind value)) :
    (stored codec sqlType (appendMetric kind value)).optional
        (readMetric codec kind) =
      some (value.map (returnedAs codec kind sqlType)) := by
  by_cases hjson : sqlType = .jsonb
  · subst hjson
    cases kind with
    | text => exact optional_json_stored hfits
    | _ => cases hmatches
  · rw [map_returnedAs hjson]
    cases kind with
    | double =>
        cases sqlType with
        | float8 => exact optional_asDouble_stored value
        | _ => cases hmatches
    | int64 =>
        cases sqlType with
        | int4 | int8 => exact optional_asInt64_stored (by trivial) hfits
        | _ => cases hmatches
    | bool =>
        cases sqlType with
        | boolean => exact optional_asBool_stored value
        | _ => cases hmatches
    | text =>
        cases sqlType with
        | varchar length => exact optional_asString_stored (by trivial) hfits
        | jsonb => exact absurd rfl hjson
        | _ => cases hmatches

theorem equalAs_returnedAs (kind : MetricKind) (sqlType : SqlType)
    (value : Option kind.Value) :
    EqualAs codec kind sqlType value
      (value.map (returnedAs codec kind sqlType)) := by
  cases kind with
  | text =>
      cases sqlType with
      | jsonb => exact jsonEq_normalized value
      | _ => exact (map_returnedAs (by simp) value).symm
  | _ => cases sqlType <;> simp [EqualAs, returnedAs]

theorem equalAs_none_iff (kind : MetricKind) (sqlType : SqlType)
    (value : Option kind.Value) :
    EqualAs codec kind sqlType value none ↔ value = none := by
  cases kind with
  | text =>
      cases sqlType with
      | jsonb => simp [EqualAs, JsonEq]
      | _ => simp [EqualAs]
  | _ => simp [EqualAs]

end Reading

theorem MetricColumn.matches (column : MetricColumn) :
    column.kind.Matches column.sqlType = true := by
  cases column <;> rfl

/-! ## Snapshots -/

inductive SnapshotColumn
  | id
  | instanceId
  | measuredAt
  | metric (column : MetricColumn)
  deriving DecidableEq

def feedMetricsSnapshots : Schema SnapshotColumn where
  columns := [.id, .instanceId, .measuredAt] ++ metricColumns.map .metric
  sqlType
    | .id => .int8
    | .instanceId => .varchar 50
    | .measuredAt => .timestamptz
    | .metric column => column.sqlType
  default
    | .id => .serial
    | _ => .null
  notNull
    | .id | .measuredAt => true
    | _ => false
  allowed _ := none
  references
    | .instanceId => true
    | _ => false
  unique := [[.id]]

structure FeedMetricsSnapshot where
  id : ℤ
  instanceId : String
  measuredAt : ℕ
  metrics : Metrics

/-- The field named like a column, as a parameter. -/
def FeedMetricsSnapshot.field (s : FeedMetricsSnapshot) :
    SnapshotColumn → Param
  | .id => .integer s.id
  | .instanceId => .text s.instanceId
  | .measuredAt => .timestamp s.measuredAt
  | .metric column => appendMetric column.kind (s.metrics column)

/-- The metrics in the column list of `insert_snapshot`. -/
def insertSnapshotMetrics : List MetricColumn :=
  [.p50LatencyMs, .p95LatencyMs, .p99LatencyMs, .avgLatencyMs, .dropRate,
    .packetLossRate, .msgsSent, .msgsReceived, .bytesSent, .bytesReceived,
    .cpuUsage, .memoryUsage, .threadCount, .eventLoopLagMs, .uptimeSeconds,
    .exchangeP50Ms, .exchangeP95Ms, .exchangeP99Ms, .parsingP50Ms,
    .parsingP95Ms, .parsingP99Ms, .normalizationP50Ms, .normalizationP95Ms,
    .normalizationP99Ms, .processingP50Ms, .processingP95Ms, .processingP99Ms,
    .broadcastP50Ms, .broadcastP95Ms, .broadcastP99Ms, .serializationP50Ms,
    .serializationP95Ms, .serializationP99Ms, .socketSendP50Ms,
    .socketSendP95Ms, .socketSendP99Ms, .latencyStatsJsonb, .messagesPerSec,
    .packetsPerSec, .bytesPerSec, .ticksPerSec, .tradesPerSec,
    .orderbookUpdatesPerSec, .broadcastsPerSec, .subscriptionsPerSec,
    .databaseWritesPerSec, .databaseReadsPerSec, .totalMessages,
    .totalPackets, .totalBytes, .totalTicks, .totalTrades,
    .totalOrderbookUpdates, .totalBroadcasts, .incomingQueueDepth,
    .outgoingQueueDepth, .serializationQueueDepth, .maxIncomingQueueDepth,
    .maxOutgoingQueueDepth, .maxSerializationQueueDepth, .queueOverflowCount,
    .queueWaitTimeMs, .queueProcessingTimeMs, .queueBackpressure,
    .packetDrops, .duplicatePackets, .outOfOrderPackets, .sequenceGaps,
    .missingTicks, .invalidMessages, .corruptedPackets, .parseFailures,
    .staleFeed, .feedHealthScore, .feedHealthStatus, .activeClients,
    .activeSessions, .activeSubscriptions, .totalConnections,
    .totalDisconnections, .reconnectCount, .authenticationFailures,
    .avgSessionDurationMs, .longestSessionDurationMs, .tcpReconnects,
    .socketErrors, .readErrors, .writeErrors, .tlsHandshakeFailures,
    .networkBytesTransmitted, .networkBytesReceived, .socketRttMs,
    .networkBandwidthBps, .networkConnectionFailures, .dbSuccessfulWrites,
    .dbFailedWrites, .dbInsertLatencyMs, .dbQueryLatencyMs,
    .dbActiveConnections, .dbConnectionFailures, .dbTransactionCount,
    .dbWritesPerSec, .dbReadsPerSec, .dbQueueWaiting, .peakRss,
    .virtualMemory, .heapUsage, .memoryGrowthRate, .totalSubscriptions,
    .totalDatabaseWrites, .totalDatabaseReads]

def insertSnapshot : InsertStatement SnapshotColumn where
  columns := [.instanceId, .measuredAt] ++ insertSnapshotMetrics.map .metric
  placeholders := placeholdersUpTo 117

/-- The metrics `create_feed_metrics_snapshot` appends, in its order. -/
def appendedSnapshotMetrics : List MetricColumn :=
  [.p50LatencyMs, .p95LatencyMs, .p99LatencyMs, .avgLatencyMs, .dropRate,
    .packetLossRate, .msgsSent, .msgsReceived, .bytesSent, .bytesReceived,
    .cpuUsage, .memoryUsage, .threadCount, .eventLoopLagMs, .uptimeSeconds,
    .exchangeP50Ms, .exchangeP95Ms, .exchangeP99Ms, .parsingP50Ms,
    .parsingP95Ms, .parsingP99Ms, .normalizationP50Ms, .normalizationP95Ms,
    .normalizationP99Ms, .processingP50Ms, .processingP95Ms, .processingP99Ms,
    .broadcastP50Ms, .broadcastP95Ms, .broadcastP99Ms, .serializationP50Ms,
    .serializationP95Ms, .serializationP99Ms, .socketSendP50Ms,
    .socketSendP95Ms, .socketSendP99Ms, .latencyStatsJsonb, .messagesPerSec,
    .packetsPerSec, .bytesPerSec, .ticksPerSec, .tradesPerSec,
    .orderbookUpdatesPerSec, .broadcastsPerSec, .subscriptionsPerSec,
    .databaseWritesPerSec, .databaseReadsPerSec, .totalMessages,
    .totalPackets, .totalBytes, .totalTicks, .totalTrades,
    .totalOrderbookUpdates, .totalBroadcasts, .incomingQueueDepth,
    .outgoingQueueDepth, .serializationQueueDepth, .maxIncomingQueueDepth,
    .maxOutgoingQueueDepth, .maxSerializationQueueDepth, .queueOverflowCount,
    .queueWaitTimeMs, .queueProcessingTimeMs, .queueBackpressure,
    .packetDrops, .duplicatePackets, .outOfOrderPackets, .sequenceGaps,
    .missingTicks, .invalidMessages, .corruptedPackets, .parseFailures,
    .staleFeed, .feedHealthScore, .feedHealthStatus, .activeClients,
    .activeSessions, .activeSubscriptions, .totalConnections,
    .totalDisconnections, .reconnectCount, .authenticationFailures,
    .avgSessionDurationMs, .longestSessionDurationMs, .tcpReconnects,
    .socketErrors, .readErrors, .writeErrors, .tlsHandshakeFailures,
    .networkBytesTransmitted, .networkBytesReceived, .socketRttMs,
    .networkBandwidthBps, .networkConnectionFailures, .dbSuccessfulWrites,
    .dbFailedWrites, .dbInsertLatencyMs, .dbQueryLatencyMs,
    .dbActiveConnections, .dbConnectionFailures, .dbTransactionCount,
    .dbWritesPerSec, .dbReadsPerSec, .dbQueueWaiting, .peakRss,
    .virtualMemory, .heapUsage, .memoryGrowthRate, .totalSubscriptions,
    .totalDatabaseWrites, .totalDatabaseReads]

def createFeedMetricsSnapshotParams (s : FeedMetricsSnapshot) : List Param :=
  [.text s.instanceId, .timestamp s.measuredAt] ++
    appendedSnapshotMetrics.map fun column =>
      appendMetric column.kind (s.metrics column)

section

variable {Json : Type} (codec : Codec Json)
  {referenced : SnapshotColumn → Datum Json → Bool}

def createFeedMetricsSnapshot [DecidableEq Json]
    (store : Store Json feedMetricsSnapshots referenced) (supply : Supply)
    (s : FeedMetricsSnapshot) :
    Option FeedMetricsSnapshot × Store Json feedMetricsSnapshots referenced :=
  create codec store supply insertSnapshot (createFeedMetricsSnapshotParams s)
    fun row => ((row .id).asInt64).map fun id => { s with id := id }

/-- The loop body of `get_feed_metrics_snapshots_by_condition`, which decodes
no metric. -/
def decodeFeedMetricsSnapshot (row : Row SnapshotColumn Json) :
    Option FeedMetricsSnapshot := do
  let id ← (row .id).asInt64
  let instanceId ← (row .instanceId).asString codec
  let measuredAt ← (row .measuredAt).asTimestamp
  return ⟨id, instanceId, measuredAt, fun _ => none⟩

def getFeedMetricsSnapshotsByCondition
    (store : Store Json feedMetricsSnapshots referenced)
    (condition : Row SnapshotColumn Json → Bool) : List FeedMetricsSnapshot :=
  getByCondition store condition (decodeFeedMetricsSnapshot codec)

/-- Two snapshots agree but for the key. -/
def FeedMetricsSnapshot.Same (s result : FeedMetricsSnapshot) : Prop :=
  result.instanceId = s.instanceId ∧ result.measuredAt = s.measuredAt ∧
    ∀ column, EqualAs codec column.kind column.sqlType (s.metrics column)
      (result.metrics column)

/-- A snapshot is created and read back. -/
def FeedMetricsSnapshot.ReadsBack [DecidableEq Json]
    (store : Store Json feedMetricsSnapshots referenced) (supply : Supply)
    (s : FeedMetricsSnapshot) : Prop :=
  Storage.ReadsBack (createFeedMetricsSnapshot codec)
    (fun store created => theOnly
      (getFeedMetricsSnapshotsByCondition codec store fun row =>
        row .id = stored codec .int8 (.integer created.id)))
    (FeedMetricsSnapshot.Same codec) store supply s

variable {codec}

/-- 117 placeholders for 113 columns. -/
theorem createFeedMetricsSnapshot_eq [DecidableEq Json]
    (store : Store Json feedMetricsSnapshots referenced) (supply : Supply)
    (s : FeedMetricsSnapshot) :
    createFeedMetricsSnapshot codec store supply s = (none, store) := by
  have hlonger : insertSnapshot.columns.length <
      insertSnapshot.placeholders.length := by decide
  exact create_of_error
    (store.table.execInsert_of_more_expressions supply hlonger _) _

end

/-! ## Weekly summaries -/

inductive SummaryColumn
  | id
  | instanceId
  | weekStart
  | sampleCount
  | metric (column : MetricColumn)
  deriving DecidableEq

def weeklyMetricsSummary : Schema SummaryColumn where
  columns := [.id, .instanceId, .weekStart, .sampleCount] ++
    metricColumns.map .metric
  sqlType
    | .id => .int8
    | .instanceId => .varchar 50
    | .weekStart => .timestamptz
    | .sampleCount => .int4
    | .metric column => column.sqlType
  default
    | .id => .serial
    | _ => .null
  notNull
    | .id | .weekStart | .sampleCount => true
    | _ => false
  allowed _ := none
  references
    | .instanceId => true
    | _ => false
  unique := [[.id], [.instanceId, .weekStart]]

structure WeeklyMetricsSummary where
  id : ℤ
  instanceId : String
  weekStart : ℕ
  sampleCount : ℤ
  metrics : Metrics

/-- The field named like a column, as a parameter. -/
def WeeklyMetricsSummary.field (s : WeeklyMetricsSummary) :
    SummaryColumn → Param
  | .id => .integer s.id
  | .instanceId => .text s.instanceId
  | .weekStart => .timestamp s.weekStart
  | .sampleCount => .integer s.sampleCount
  | .metric column => appendMetric column.kind (s.metrics column)

/-- The metrics in the column list of `insert_weekly_summary`. -/
def insertWeeklySummaryMetrics : List MetricColumn :=
  [.p50LatencyMs, .p95LatencyMs, .p99LatencyMs, .avgLatencyMs, .dropRate,
    .packetLossRate, .msgsSent, .msgsReceived, .bytesSent, .bytesReceived,
    .cpuUsage, .memoryUsage, .threadCount, .eventLoopLagMs, .uptimeSeconds,
    .exchangeP50Ms, .exchangeP95Ms, .exchangeP99Ms, .parsingP50Ms,
    .parsingP95Ms, .parsingP99Ms, .normalizationP50Ms, .normalizationP95Ms,
    .normalizationP99Ms, .processingP50Ms, .processingP95Ms, .processingP99Ms,
    .broadcastP50Ms, .broadcastP95Ms, .broadcastP99Ms, .serializationP50Ms,
    .serializationP95Ms, .serializationP99Ms, .socketSendP50Ms,
    .socketSendP95Ms, .socketSendP99Ms, .latencyStatsJsonb, .messagesPerSec,
    .packetsPerSec, .bytesPerSec, .ticksPerSec, .tradesPerSec,
    .orderbookUpdatesPerSec, .broadcastsPerSec, .subscriptionsPerSec,
    .databaseWritesPerSec, .databaseReadsPerSec, .totalMessages,
    .totalPackets, .totalBytes, .totalTicks, .totalTrades,
    .totalOrderbookUpdates, .totalBroadcasts, .incomingQueueDepth,
    .outgoingQueueDepth, .serializationQueueDepth, .maxIncomingQueueDepth,
    .maxOutgoingQueueDepth, .maxSerializationQueueDepth, .queueOverflowCount,
    .queueWaitTimeMs, .queueProcessingTimeMs, .queueBackpressure,
    .packetDrops, .duplicatePackets, .outOfOrderPackets, .sequenceGaps,
    .missingTicks, .invalidMessages, .corruptedPackets, .parseFailures,
    .staleFeed, .feedHealthScore, .feedHealthStatus, .activeClients,
    .activeSessions, .activeSubscriptions, .totalConnections,
    .totalDisconnections, .reconnectCount, .authenticationFailures,
    .avgSessionDurationMs, .longestSessionDurationMs, .tcpReconnects,
    .socketErrors, .readErrors, .writeErrors, .tlsHandshakeFailures,
    .networkBytesTransmitted, .networkBytesReceived, .socketRttMs,
    .networkBandwidthBps, .networkConnectionFailures, .dbSuccessfulWrites,
    .dbFailedWrites, .dbInsertLatencyMs, .dbQueryLatencyMs,
    .dbActiveConnections, .dbConnectionFailures, .dbTransactionCount,
    .dbWritesPerSec, .dbReadsPerSec, .dbQueueWaiting, .peakRss,
    .virtualMemory, .heapUsage, .memoryGrowthRate, .totalSubscriptions,
    .totalDatabaseWrites, .totalDatabaseReads]

def insertWeeklySummary : InsertStatement SummaryColumn where
  columns := [.instanceId, .weekStart, .sampleCount] ++
    insertWeeklySummaryMetrics.map .metric
  placeholders := placeholdersUpTo 114

/-- The metrics `create_weekly_metrics_summary` appends, in its order. -/
def appendedSummaryMetrics : List MetricColumn :=
  [.p50LatencyMs, .p95LatencyMs, .p99LatencyMs, .avgLatencyMs, .dropRate,
    .packetLossRate, .msgsSent, .msgsReceived, .bytesSent, .bytesReceived,
    .cpuUsage, .memoryUsage, .threadCount, .eventLoopLagMs, .uptimeSeconds,
    .exchangeP50Ms, .exchangeP95Ms, .exchangeP99Ms, .parsingP50Ms,
    .parsingP95Ms, .parsingP99Ms, .normalizationP50Ms, .normalizationP95Ms,
    .normalizationP99Ms, .processingP50Ms, .processingP95Ms, .processingP99Ms,
    .broadcastP50Ms, .broadcastP95Ms, .broadcastP99Ms, .serializationP50Ms,
    .serializationP95Ms, .serializationP99Ms, .socketSendP50Ms,
    .socketSendP95Ms, .socketSendP99Ms, .latencyStatsJsonb, .messagesPerSec,
    .packetsPerSec, .bytesPerSec, .ticksPerSec, .tradesPerSec,
    .orderbookUpdatesPerSec, .broadcastsPerSec, .subscriptionsPerSec,
    .databaseWritesPerSec, .databaseReadsPerSec, .totalMessages,
    .totalPackets, .totalBytes, .totalTicks, .totalTrades,
    .totalOrderbookUpdates, .totalBroadcasts, .incomingQueueDepth,
    .outgoingQueueDepth, .serializationQueueDepth, .maxIncomingQueueDepth,
    .maxOutgoingQueueDepth, .maxSerializationQueueDepth, .queueOverflowCount,
    .queueWaitTimeMs, .queueProcessingTimeMs, .queueBackpressure,
    .packetDrops, .duplicatePackets, .outOfOrderPackets, .sequenceGaps,
    .missingTicks, .invalidMessages, .corruptedPackets, .parseFailures,
    .staleFeed, .feedHealthScore, .feedHealthStatus, .activeClients,
    .activeSessions, .activeSubscriptions, .totalConnections,
    .totalDisconnections, .reconnectCount, .authenticationFailures,
    .avgSessionDurationMs, .longestSessionDurationMs, .tcpReconnects,
    .socketErrors, .readErrors, .writeErrors, .tlsHandshakeFailures,
    .networkBytesTransmitted, .networkBytesReceived, .socketRttMs,
    .networkBandwidthBps, .networkConnectionFailures, .dbSuccessfulWrites,
    .dbFailedWrites, .dbInsertLatencyMs, .dbQueryLatencyMs,
    .dbActiveConnections, .dbConnectionFailures, .dbTransactionCount,
    .dbWritesPerSec, .dbReadsPerSec, .dbQueueWaiting, .peakRss,
    .virtualMemory, .heapUsage, .memoryGrowthRate, .totalSubscriptions,
    .totalDatabaseWrites, .totalDatabaseReads]

def createWeeklyMetricsSummaryParams (s : WeeklyMetricsSummary) : List Param :=
  [.text s.instanceId, .timestamp s.weekStart, .integer s.sampleCount] ++
    appendedSummaryMetrics.map fun column =>
      appendMetric column.kind (s.metrics column)

/-- The metrics `get_weekly_summaries_by_condition` decodes, in its order. -/
def decodedSummaryMetrics : List MetricColumn :=
  [.p50LatencyMs, .p95LatencyMs, .p99LatencyMs, .avgLatencyMs, .cpuUsage,
    .memoryUsage, .threadCount, .uptimeSeconds, .exchangeP50Ms,
    .exchangeP95Ms, .exchangeP99Ms, .parsingP50Ms, .parsingP95Ms,
    .parsingP99Ms, .normalizationP50Ms, .normalizationP95Ms,
    .normalizationP99Ms, .processingP50Ms, .processingP95Ms, .processingP99Ms,
    .broadcastP50Ms, .broadcastP95Ms, .broadcastP99Ms, .serializationP50Ms,
    .serializationP95Ms, .serializationP99Ms, .socketSendP50Ms,
    .socketSendP95Ms, .socketSendP99Ms, .latencyStatsJsonb, .messagesPerSec,
    .ticksPerSec, .tradesPerSec, .cpuUsage]

section

variable {Json : Type} (codec : Codec Json)
  {referenced : SummaryColumn → Datum Json → Bool}

def createWeeklyMetricsSummary [DecidableEq Json]
    (store : Store Json weeklyMetricsSummary referenced) (supply : Supply)
    (s : WeeklyMetricsSummary) :
    Option WeeklyMetricsSummary × Store Json weeklyMetricsSummary referenced :=
  create codec store supply insertWeeklySummary
    (createWeeklyMetricsSummaryParams s)
    fun row => ((row .id).asInt64).map fun id => { s with id := id }

/-- The loop body of `get_weekly_summaries_by_condition`. -/
def decodeWeeklyMetricsSummary (row : Row SummaryColumn Json) :
    Option WeeklyMetricsSummary := do
  let id ← (row .id).asInt64
  let instanceId ← (row .instanceId).asString codec
  let weekStart ← (row .weekStart).asTimestamp
  let sampleCount ← (row .sampleCount).asInt64
  let metrics ← readMetrics codec (fun column => row (.metric column))
    decodedSummaryMetrics fun _ => none
  return ⟨id, instanceId, weekStart, sampleCount, metrics⟩

def getWeeklySummariesByCondition
    (store : Store Json weeklyMetricsSummary referenced)
    (condition : Row SummaryColumn Json → Bool) : List WeeklyMetricsSummary :=
  getByCondition store condition (decodeWeeklyMetricsSummary codec)

/-- Two summaries agree but for the key. -/
def WeeklyMetricsSummary.Same (s result : WeeklyMetricsSummary) : Prop :=
  result.instanceId = s.instanceId ∧ result.weekStart = s.weekStart ∧
    result.sampleCount = s.sampleCount ∧
    ∀ column, EqualAs codec column.kind column.sqlType (s.metrics column)
      (result.metrics column)

/-- A summary is created and read back. -/
def WeeklyMetricsSummary.ReadsBack [DecidableEq Json]
    (store : Store Json weeklyMetricsSummary referenced) (supply : Supply)
    (s : WeeklyMetricsSummary) : Prop :=
  Storage.ReadsBack (createWeeklyMetricsSummary codec)
    (fun store created => theOnly
      (getWeeklySummariesByCondition codec store fun row =>
        row .id = stored codec .int8 (.integer created.id)))
    (WeeklyMetricsSummary.Same codec) store supply s

/-- A summary as the reader gives it back. -/
def WeeklyMetricsSummary.asRead (s : WeeklyMetricsSummary) :
    WeeklyMetricsSummary :=
  { s with
    metrics := fun column =>
      if column ∈ decodedSummaryMetrics then
        (s.metrics column).map (returnedAs codec column.kind column.sqlType)
      else none }

variable {codec}

theorem weeklyMetricsSummary_fillsNotNull (s : WeeklyMetricsSummary)
    (columns : List SummaryColumn) :
    FillsNotNull weeklyMetricsSummary columns s.field := by
  intro column _ hnotNull
  cases column <;> simp_all [weeklyMetricsSummary, WeeklyMetricsSummary.field]

theorem mem_insertWeeklySummaryMetrics (column : MetricColumn) :
    column ∈ insertWeeklySummaryMetrics := by
  cases column <;> decide

theorem mem_insertWeeklySummary_columns (column : SummaryColumn)
    (hne : column ≠ .id) : column ∈ insertWeeklySummary.columns := by
  cases column with
  | metric column =>
      simp [insertWeeklySummary, mem_insertWeeklySummaryMetrics]
  | id => exact absurd rfl hne
  | _ => simp [insertWeeklySummary]

theorem insertWeeklySummary_omitsGenerated :
    OmitsGenerated weeklyMetricsSummary insertWeeklySummary.columns := by
  intro column _ homitted
  by_cases hid : column = .id
  · subst hid
    exact ⟨by decide, rfl, rfl⟩
  · exact absurd (mem_insertWeeklySummary_columns column hid) homitted

theorem insertWeeklySummary_aligned (s : WeeklyMetricsSummary) :
    insertWeeklySummary.Aligned (createWeeklyMetricsSummaryParams s) s.field :=
  ⟨rfl, rfl⟩

theorem decodeWeeklyMetricsSummary_of_holds {s : WeeklyMetricsSummary}
    {row : Row SummaryColumn Json}
    (hholds : ∀ column, column ≠ .id →
      Holds codec weeklyMetricsSummary row s.field column)
    {id : ℤ} (hid : (row .id).asInt64 = some id) :
    decodeWeeklyMetricsSummary codec row =
      some { s.asRead codec with id := id } := by
  have hinstanceId := (hholds .instanceId (by decide)).text trivial rfl
  have hweekStart := (hholds .weekStart (by decide)).timestamp rfl rfl
  have hsampleCount := (hholds .sampleCount (by decide)).integer trivial rfl
  have hmetrics (column : MetricColumn) :
      (row (.metric column)).optional (readMetric codec column.kind) =
        some ((s.metrics column).map
          (returnedAs codec column.kind column.sqlType)) := by
    have hcolumn := hholds (.metric column) (by simp)
    rw [hcolumn.row_eq]
    exact optional_readMetric_stored column.matches hcolumn.fits
  have hread := readMetrics_eq hmetrics decodedSummaryMetrics fun _ => none
  simp [decodeWeeklyMetricsSummary, hid, hinstanceId, hweekStart, hsampleCount,
    hread, WeeklyMetricsSummary.asRead]

variable [DecidableEq Json]

/-- A summary is created, and comes back with the metrics the reader
decodes. -/
theorem createWeeklyMetricsSummary_reads :
    CreateReads weeklyMetricsSummary referenced
      (createWeeklyMetricsSummary codec)
      (fun store created => theOnly
        (getWeeklySummariesByCondition codec store fun row =>
          row .id = stored codec .int8 (.integer created.id)))
      (Insertable codec insertWeeklySummary WeeklyMetricsSummary.field)
      (fun s result => result = { s.asRead codec with id := result.id }) := by
  apply createReads_getByCondition insertWeeklySummary_aligned
    insertWeeklySummary_omitsGenerated
    (fun s => weeklyMetricsSummary_fillsNotNull s _) (by decide)
  refine rowReads_serial rfl rfl (by simp [insertWeeklySummary])
    (fun _ _ => rfl) mem_insertWeeklySummary_columns ?_
  intro s row id hholds hid
  exact ⟨_, decodeWeeklyMetricsSummary_of_holds hholds hid, rfl⟩

omit [DecidableEq Json] in
/-- What the reader gives back agrees with the summary exactly when the metrics
it does not decode are absent. -/
theorem WeeklyMetricsSummary.same_asRead_iff (s : WeeklyMetricsSummary)
    (id : ℤ) :
    s.Same codec { s.asRead codec with id := id } ↔
      ∀ column, column ∉ decodedSummaryMetrics → s.metrics column = none := by
  constructor
  · intro ⟨_, _, _, hmetrics⟩ column hlisted
    have hcolumn : EqualAs codec column.kind column.sqlType
        (s.metrics column) none := by
      simpa [WeeklyMetricsSummary.asRead, hlisted] using hmetrics column
    exact (equalAs_none_iff _ _ _).mp hcolumn
  · intro habsent
    refine ⟨rfl, rfl, rfl, ?_⟩
    intro column
    by_cases hlisted : column ∈ decodedSummaryMetrics
    · simpa [WeeklyMetricsSummary.asRead, hlisted] using
        equalAs_returnedAs _ _ (s.metrics column)
    · simpa [WeeklyMetricsSummary.asRead, hlisted] using
        (equalAs_none_iff _ _ _).mpr (habsent column hlisted)

end

/-! ## What reads back -/

/-- No snapshot is ever created, and a summary comes back unchanged exactly
when all its metrics are among those the reader decodes. -/
theorem feedMetrics_readsBack_iff {Json : Type} [DecidableEq Json]
    (codec : Codec Json) :
    (∀ referenced (store : Store Json feedMetricsSnapshots referenced) supply s,
      (createFeedMetricsSnapshot codec store supply s).2 = store ∧
        ¬ FeedMetricsSnapshot.ReadsBack codec store supply s) ∧
    (∀ referenced (store : Store Json weeklyMetricsSummary referenced) supply s,
      store.Ready →
        Insertable codec insertWeeklySummary WeeklyMetricsSummary.field store
          supply s →
        (WeeklyMetricsSummary.ReadsBack codec store supply s ↔
          ∀ column, column ∉ decodedSummaryMetrics →
            s.metrics column = none)) := by
  constructor
  · intro referenced store supply s
    have hcreate : createFeedMetricsSnapshot codec store supply s =
        (none, store) := createFeedMetricsSnapshot_eq store supply s
    exact ⟨congrArg Prod.snd hcreate, not_readsBack_of_create_eq hcreate⟩
  · intro referenced store supply s hready hinsertable
    have hreads :=
      createWeeklyMetricsSummary_reads store supply s hready hinsertable
    constructor
    · intro hsame
      obtain ⟨result, hboth, hresult⟩ := ReadsBack.exists_both hsame hreads
      rw [hresult] at hboth
      exact (s.same_asRead_iff result.id).mp hboth
    · intro habsent
      apply hreads.imp
      intro result hresult
      rw [hresult]
      exact (s.same_asRead_iff result.id).mpr habsent

/-- Metrics with a median latency and nothing else. -/
def medianOnly : Metrics
  | .p50LatencyMs => some (25 / 2 : ℚ)
  | _ => none

def quietSnapshot : FeedMetricsSnapshot where
  id := 0
  instanceId := "live-1"
  measuredAt := 1767225600000
  metrics := medianOnly

def quietWeek : WeeklyMetricsSummary where
  id := 0
  instanceId := "live-1"
  weekStart := 1766966400000
  sampleCount := 1
  metrics := medianOnly

theorem fits_medianOnly (column : MetricColumn) :
    Fits plainCodec column.sqlType
      (appendMetric column.kind (medianOnly column)) := by
  cases column <;> exact True.intro

/-- A snapshot with these metrics fits every column. -/
theorem admissible_of_medianOnly {s : FeedMetricsSnapshot}
    (hmetrics : s.metrics = medianOnly)
    (hid : Fits plainCodec (feedMetricsSnapshots.sqlType .id) (s.field .id))
    (hinstanceId : Fits plainCodec (feedMetricsSnapshots.sqlType .instanceId)
      (s.field .instanceId)) (columns : List SnapshotColumn) :
    Admissible plainCodec feedMetricsSnapshots (fun _ _ => true) columns
      s.field where
  fits column _ := by
    cases column with
    | id => exact hid
    | instanceId => exact hinstanceId
    | measuredAt => exact True.intro
    | metric column =>
        rw [FeedMetricsSnapshot.field, hmetrics]
        exact fits_medianOnly column
  checks _ _ := rfl
  references _ _ _ := Or.inr rfl

theorem quietSnapshot_admissible (columns : List SnapshotColumn) :
    Admissible plainCodec feedMetricsSnapshots (fun _ _ => true) columns
      quietSnapshot.field :=
  admissible_of_medianOnly rfl (by decide) (by decide) columns

theorem quietWeek_insertable :
    Insertable plainCodec insertWeeklySummary WeeklyMetricsSummary.field
      (Store.empty String weeklyMetricsSummary fun _ _ => true) .first
      quietWeek := by
  apply insertable_empty
  constructor
  · intro column _
    cases column with
    | metric column => exact fits_medianOnly column
    | _ => decide
  · intro column _
    rfl
  · intro column _ _
    exact Or.inr rfl

theorem feedMetrics_readsBack_quietWeek :
    WeeklyMetricsSummary.ReadsBack plainCodec
      (Store.empty String weeklyMetricsSummary fun _ _ => true) .first
      quietWeek := by
  apply ((feedMetrics_readsBack_iff plainCodec).2 _ _ _ _ ⟨rfl, rfl⟩
    quietWeek_insertable).mpr
  intro column hlisted
  cases column with
  | p50LatencyMs => exact absurd (by decide) hlisted
  | _ => rfl

/-- A snapshot that fits every column is lost on an empty table. -/
theorem quietSnapshot_lost :
    let store := Store.empty String feedMetricsSnapshots fun _ _ => true
    store.Ready ∧
      Insertable plainCodec insertSnapshot FeedMetricsSnapshot.field store
        .first quietSnapshot ∧
      ¬ FeedMetricsSnapshot.ReadsBack plainCodec store .first
        quietSnapshot := by
  intro store
  exact ⟨⟨rfl, rfl⟩, insertable_empty (quietSnapshot_admissible _) .first,
    not_readsBack_of_create_eq
      (createFeedMetricsSnapshot_eq store .first quietSnapshot)⟩

end Datafeed.Storage
