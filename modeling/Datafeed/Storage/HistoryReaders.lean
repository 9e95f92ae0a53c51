import Datafeed.Storage.FeedMetrics
import Datafeed.Storage.History
import Datafeed.Storage.ReadHistory

/-!
# Readers of the histories

The six tables behind the histories of `MonitorService` as histories: for each,
the columns its reader cannot do without, that a row which has them is read, and
what every column is read as.
-/

namespace Datafeed.Storage

open Select Sql

variable {Json : Type} {codec : Codec Json}

/-! ## Snapshots -/

/-- The columns that the reader of the snapshots reads. -/
def isSnapshotKey : SnapshotColumn → Bool
  | .metric _ => false
  | _ => true

def snapshotNames : Names SnapshotColumn :=
  [("id", .id), ("instance_id", .instanceId), ("measured_at", .measuredAt)]

theorem exists_decodeFeedMetricsSnapshot {row : Row SnapshotColumn Json}
    (htyped : TypedRow codec feedMetricsSnapshots row)
    (hpresent : Present isSnapshotKey row) :
    ∃ record, decodeFeedMetricsSnapshot codec row = some record := by
  rw [decodeFeedMetricsSnapshot]
  refine exists_bind (exists_asInt64 (by trivial) (htyped .id)
    (hpresent .id rfl)) fun _ => ?_
  refine exists_bind (exists_asString (by trivial) (htyped .instanceId)
    (hpresent .instanceId rfl)) fun _ => ?_
  refine exists_bind (exists_asTimestamp (htyped .measuredAt)
    (hpresent .measuredAt rfl)) fun _ => ?_
  exact ⟨_, rfl⟩

theorem readsAs_snapshot {row : Row SnapshotColumn Json}
    {s : FeedMetricsSnapshot}
    (hdecode : decodeFeedMetricsSnapshot codec row = some s)
    {column : SnapshotColumn} (hkey : isSnapshotKey column = true) :
    ReadsAs codec (feedMetricsSnapshots.sqlType column) true (row column)
      (s.field column) := by
  simp only [decodeFeedMetricsSnapshot, Option.bind_eq_bind,
    Option.bind_eq_some_iff, Option.pure_def, Option.some.injEq] at hdecode
  obtain ⟨id, hid, instanceId, hinstanceId, measuredAt, hmeasuredAt, rfl⟩ :=
    hdecode
  cases column with
  | id => exact .integer trivial hid
  | instanceId => exact .text trivial hinstanceId
  | measuredAt => exact .timestamp hmeasuredAt
  | metric column => cases hkey

theorem appendMetric_none (kind : MetricKind) :
    appendMetric kind none = .null := by
  cases kind <;> rfl

theorem field_metric_of_decode {row : Row SnapshotColumn Json}
    {s : FeedMetricsSnapshot}
    (hdecode : decodeFeedMetricsSnapshot codec row = some s)
    (column : MetricColumn) : s.field (.metric column) = .null := by
  simp only [decodeFeedMetricsSnapshot, Option.bind_eq_bind,
    Option.bind_eq_some_iff, Option.pure_def, Option.some.injEq] at hdecode
  obtain ⟨id, -, instanceId, -, measuredAt, -, rfl⟩ := hdecode
  exact appendMetric_none column.kind

theorem MetricColumn.sqlType_ne (column : MetricColumn) :
    column.sqlType ≠ .timestamptz := by
  intro htype
  have hmatches := column.matches
  rw [htype] at hmatches
  cases hkind : column.kind <;> rw [hkind] at hmatches <;> cases hmatches

/-- The snapshots, with the metrics that one of their histories shows beside the
time. -/
def snapshotHistory (codec : Codec Json)
    (metrics : List (String × MetricColumn)) :
    History codec feedMetricsSnapshots FeedMetricsSnapshot where
  names := snapshotNames
  time := .measuredAt
  decode := decodeFeedMetricsSnapshot codec
  field := FeedMetricsSnapshot.field
  timeOf := FeedMetricsSnapshot.measuredAt
  required := isSnapshotKey
  isRead := isSnapshotKey
  shown := ("measured_at", .measuredAt) ::
    metrics.map fun metric => (metric.1, .metric metric.2)
  sqlType_eq_iff column := by
    cases column with
    | metric column => exact iff_of_false column.sqlType_ne nofun
    | _ => simp [feedMetricsSnapshots]
  isRead_time := rfl
  mem_shown := List.mem_cons_self
  field_time _ := rfl
  isRead_of_required _ hrequired := hrequired
  exists_decode _ := exists_decodeFeedMetricsSnapshot
  readsAs row s hdecode column hread := by
    rw [hread]
    exact readsAs_snapshot hdecode hread
  unread row s hdecode column hunread := by
    cases column with
    | metric column => exact field_metric_of_decode hdecode column
    | _ => cases hunread

/-! ## Exchanges -/

def exchangeMetricsNames : Names ExchangeMetricsColumn :=
  [("id", .id), ("instance_id", .instanceId), ("exchange_name", .exchangeName),
    ("snapshot_time", .snapshotTime), ("connected", .connected),
    ("uptime_seconds", .uptimeSeconds), ("reconnect_count", .reconnectCount),
    ("heartbeat_failures", .heartbeatFailures),
    ("websocket_disconnects", .websocketDisconnects),
    ("messages_received", .messagesReceived),
    ("messages_dropped", .messagesDropped), ("parse_errors", .parseErrors),
    ("feed_lag_ms", .feedLagMs), ("exchange_latency_ms", .exchangeLatencyMs),
    ("stale", .stale)]

/-- The columns that are read without a check for `NULL`. -/
def ExchangeMetricsEntry.required : ExchangeMetricsColumn → Bool
  | .id | .instanceId | .exchangeName | .snapshotTime | .connected
  | .stale => true
  | _ => false

theorem exists_decodeExchangeMetricsEntry {row : Row ExchangeMetricsColumn Json}
    (htyped : TypedRow codec exchangeMetricsHistory row)
    (hpresent : Present ExchangeMetricsEntry.required row) :
    ∃ entry, decodeExchangeMetricsEntry codec row = some entry := by
  rw [decodeExchangeMetricsEntry]
  refine exists_bind (exists_asInt64 (by trivial) (htyped .id)
    (hpresent .id rfl)) fun _ => ?_
  refine exists_bind (exists_asString (by trivial) (htyped .instanceId)
    (hpresent .instanceId rfl)) fun _ => ?_
  refine exists_bind (exists_asString (by trivial) (htyped .exchangeName)
    (hpresent .exchangeName rfl)) fun _ => ?_
  refine exists_bind (exists_asTimestamp (htyped .snapshotTime)
    (hpresent .snapshotTime rfl)) fun _ => ?_
  refine exists_bind (exists_asBool (htyped .connected)
    (hpresent .connected rfl)) fun _ => ?_
  refine exists_bind (exists_optional
    (exists_asDouble (htyped .uptimeSeconds))) fun _ => ?_
  refine exists_bind (exists_optional
    (exists_asInt64 (by trivial) (htyped .reconnectCount))) fun _ => ?_
  refine exists_bind (exists_optional
    (exists_asInt64 (by trivial) (htyped .heartbeatFailures))) fun _ => ?_
  refine exists_bind (exists_optional
    (exists_asInt64 (by trivial) (htyped .websocketDisconnects))) fun _ => ?_
  refine exists_bind (exists_optional
    (exists_asInt64 (by trivial) (htyped .messagesReceived))) fun _ => ?_
  refine exists_bind (exists_optional
    (exists_asInt64 (by trivial) (htyped .messagesDropped))) fun _ => ?_
  refine exists_bind (exists_optional
    (exists_asInt64 (by trivial) (htyped .parseErrors))) fun _ => ?_
  refine exists_bind (exists_optional
    (exists_asDouble (htyped .feedLagMs))) fun _ => ?_
  refine exists_bind (exists_optional
    (exists_asDouble (htyped .exchangeLatencyMs))) fun _ => ?_
  refine exists_bind (exists_asBool (htyped .stale)
    (hpresent .stale rfl)) fun _ => ?_
  exact ⟨_, rfl⟩

theorem readsAs_exchangeMetricsEntry {row : Row ExchangeMetricsColumn Json}
    {entry : ExchangeMetricsEntry}
    (hdecode : decodeExchangeMetricsEntry codec row = some entry)
    (column : ExchangeMetricsColumn) :
    ReadsAs codec (exchangeMetricsHistory.sqlType column)
      (ExchangeMetricsEntry.required column) (row column)
      (entry.field column) := by
  rw [decodeExchangeMetricsEntry] at hdecode
  obtain ⟨id, hid, hdecode⟩ := exists_of_bind hdecode
  obtain ⟨instanceId, hinstanceId, hdecode⟩ := exists_of_bind hdecode
  obtain ⟨exchangeName, hexchangeName, hdecode⟩ := exists_of_bind hdecode
  obtain ⟨snapshotTime, hsnapshotTime, hdecode⟩ := exists_of_bind hdecode
  obtain ⟨connected, hconnected, hdecode⟩ := exists_of_bind hdecode
  obtain ⟨uptimeSeconds, huptimeSeconds, hdecode⟩ := exists_of_bind hdecode
  obtain ⟨reconnectCount, hreconnectCount, hdecode⟩ := exists_of_bind hdecode
  obtain ⟨heartbeatFailures, hheartbeatFailures, hdecode⟩ :=
    exists_of_bind hdecode
  obtain ⟨websocketDisconnects, hwebsocketDisconnects, hdecode⟩ :=
    exists_of_bind hdecode
  obtain ⟨messagesReceived, hmessagesReceived, hdecode⟩ :=
    exists_of_bind hdecode
  obtain ⟨messagesDropped, hmessagesDropped, hdecode⟩ := exists_of_bind hdecode
  obtain ⟨parseErrors, hparseErrors, hdecode⟩ := exists_of_bind hdecode
  obtain ⟨feedLagMs, hfeedLagMs, hdecode⟩ := exists_of_bind hdecode
  obtain ⟨exchangeLatencyMs, hexchangeLatencyMs, hdecode⟩ :=
    exists_of_bind hdecode
  obtain ⟨stale, hstale, hdecode⟩ := exists_of_bind hdecode
  obtain rfl := Option.some.inj hdecode
  cases column with
  | id => exact .integer trivial hid
  | instanceId => exact .text trivial hinstanceId
  | exchangeName => exact .text trivial hexchangeName
  | snapshotTime => exact .timestamp hsnapshotTime
  | connected => exact .bool hconnected
  | uptimeSeconds => exact .optDouble huptimeSeconds
  | reconnectCount => exact .optInteger trivial hreconnectCount
  | heartbeatFailures => exact .optInteger trivial hheartbeatFailures
  | websocketDisconnects => exact .optInteger trivial hwebsocketDisconnects
  | messagesReceived => exact .optInteger trivial hmessagesReceived
  | messagesDropped => exact .optInteger trivial hmessagesDropped
  | parseErrors => exact .optInteger trivial hparseErrors
  | feedLagMs => exact .optDouble hfeedLagMs
  | exchangeLatencyMs => exact .optDouble hexchangeLatencyMs
  | stale => exact .bool hstale

def exchangeHistoryOf (codec : Codec Json) :
    History codec exchangeMetricsHistory ExchangeMetricsEntry where
  names := exchangeMetricsNames
  time := .snapshotTime
  decode := decodeExchangeMetricsEntry codec
  field := ExchangeMetricsEntry.field
  timeOf := ExchangeMetricsEntry.snapshotTime
  required := ExchangeMetricsEntry.required
  isRead _ := true
  shown :=
    [("snapshot_time", .snapshotTime), ("connected", .connected),
      ("uptime_seconds", .uptimeSeconds), ("reconnect_count", .reconnectCount),
      ("messages_received", .messagesReceived),
      ("messages_dropped", .messagesDropped), ("parse_errors", .parseErrors),
      ("feed_lag_ms", .feedLagMs), ("exchange_latency_ms", .exchangeLatencyMs),
      ("stale", .stale)]
  sqlType_eq_iff column := by cases column <;> simp [exchangeMetricsHistory]
  isRead_time := rfl
  mem_shown := by decide
  field_time _ := rfl
  isRead_of_required _ _ := rfl
  exists_decode _ := exists_decodeExchangeMetricsEntry
  readsAs _ _ hdecode column _ := readsAs_exchangeMetricsEntry hdecode column
  unread _ _ _ _ hunread := nomatch hunread

/-! ## Queues -/

def queueNames : Names QueueColumn :=
  [("id", .id), ("instance_id", .instanceId), ("measured_at", .measuredAt),
    ("incoming_depth", .incomingDepth), ("outgoing_depth", .outgoingDepth),
    ("serialization_depth", .serializationDepth),
    ("max_incoming_depth", .maxIncomingDepth),
    ("max_outgoing_depth", .maxOutgoingDepth),
    ("max_serialization_depth", .maxSerializationDepth),
    ("overflow_count", .overflowCount), ("backpressure", .backpressure),
    ("wait_time_ms", .waitTimeMs), ("processing_time_ms", .processingTimeMs)]

/-- The columns that are read without a check for `NULL`. -/
def QueueEntry.required : QueueColumn → Bool
  | .id | .instanceId | .measuredAt | .incomingDepth | .outgoingDepth
  | .serializationDepth | .backpressure => true
  | _ => false

theorem exists_decodeQueueEntry {row : Row QueueColumn Json}
    (htyped : TypedRow codec queueHistory row)
    (hpresent : Present QueueEntry.required row) :
    ∃ entry, decodeQueueEntry codec row = some entry := by
  rw [decodeQueueEntry]
  refine exists_bind (exists_asInt64 (by trivial) (htyped .id)
    (hpresent .id rfl)) fun _ => ?_
  refine exists_bind (exists_asString (by trivial) (htyped .instanceId)
    (hpresent .instanceId rfl)) fun _ => ?_
  refine exists_bind (exists_asTimestamp (htyped .measuredAt)
    (hpresent .measuredAt rfl)) fun _ => ?_
  refine exists_bind (exists_asInt64 (by trivial) (htyped .incomingDepth)
    (hpresent .incomingDepth rfl)) fun _ => ?_
  refine exists_bind (exists_asInt64 (by trivial) (htyped .outgoingDepth)
    (hpresent .outgoingDepth rfl)) fun _ => ?_
  refine exists_bind (exists_asInt64 (by trivial) (htyped .serializationDepth)
    (hpresent .serializationDepth rfl)) fun _ => ?_
  refine exists_bind (exists_optional
    (exists_asInt64 (by trivial) (htyped .maxIncomingDepth))) fun _ => ?_
  refine exists_bind (exists_optional
    (exists_asInt64 (by trivial) (htyped .maxOutgoingDepth))) fun _ => ?_
  refine exists_bind (exists_optional
    (exists_asInt64 (by trivial) (htyped .maxSerializationDepth))) fun _ => ?_
  refine exists_bind (exists_optional
    (exists_asInt64 (by trivial) (htyped .overflowCount))) fun _ => ?_
  refine exists_bind (exists_asBool (htyped .backpressure)
    (hpresent .backpressure rfl)) fun _ => ?_
  refine exists_bind (exists_optional
    (exists_asDouble (htyped .waitTimeMs))) fun _ => ?_
  refine exists_bind (exists_optional
    (exists_asDouble (htyped .processingTimeMs))) fun _ => ?_
  exact ⟨_, rfl⟩

theorem readsAs_queueEntry {row : Row QueueColumn Json}
    {entry : QueueEntry}
    (hdecode : decodeQueueEntry codec row = some entry)
    (column : QueueColumn) :
    ReadsAs codec (queueHistory.sqlType column)
      (QueueEntry.required column) (row column)
      (entry.field column) := by
  rw [decodeQueueEntry] at hdecode
  obtain ⟨id, hid, hdecode⟩ := exists_of_bind hdecode
  obtain ⟨instanceId, hinstanceId, hdecode⟩ := exists_of_bind hdecode
  obtain ⟨measuredAt, hmeasuredAt, hdecode⟩ := exists_of_bind hdecode
  obtain ⟨incomingDepth, hincomingDepth, hdecode⟩ := exists_of_bind hdecode
  obtain ⟨outgoingDepth, houtgoingDepth, hdecode⟩ := exists_of_bind hdecode
  obtain ⟨serializationDepth, hserializationDepth, hdecode⟩ :=
    exists_of_bind hdecode
  obtain ⟨maxIncomingDepth, hmaxIncomingDepth, hdecode⟩ :=
    exists_of_bind hdecode
  obtain ⟨maxOutgoingDepth, hmaxOutgoingDepth, hdecode⟩ :=
    exists_of_bind hdecode
  obtain ⟨maxSerializationDepth, hmaxSerializationDepth, hdecode⟩ :=
    exists_of_bind hdecode
  obtain ⟨overflowCount, hoverflowCount, hdecode⟩ := exists_of_bind hdecode
  obtain ⟨backpressure, hbackpressure, hdecode⟩ := exists_of_bind hdecode
  obtain ⟨waitTimeMs, hwaitTimeMs, hdecode⟩ := exists_of_bind hdecode
  obtain ⟨processingTimeMs, hprocessingTimeMs, hdecode⟩ :=
    exists_of_bind hdecode
  obtain rfl := Option.some.inj hdecode
  cases column with
  | id => exact .integer trivial hid
  | instanceId => exact .text trivial hinstanceId
  | measuredAt => exact .timestamp hmeasuredAt
  | incomingDepth => exact .integer trivial hincomingDepth
  | outgoingDepth => exact .integer trivial houtgoingDepth
  | serializationDepth => exact .integer trivial hserializationDepth
  | maxIncomingDepth => exact .optInteger trivial hmaxIncomingDepth
  | maxOutgoingDepth => exact .optInteger trivial hmaxOutgoingDepth
  | maxSerializationDepth => exact .optInteger trivial hmaxSerializationDepth
  | overflowCount => exact .optInteger trivial hoverflowCount
  | backpressure => exact .bool hbackpressure
  | waitTimeMs => exact .optDouble hwaitTimeMs
  | processingTimeMs => exact .optDouble hprocessingTimeMs

def queueHistoryOf (codec : Codec Json) :
    History codec queueHistory QueueEntry where
  names := queueNames
  time := .measuredAt
  decode := decodeQueueEntry codec
  field := QueueEntry.field
  timeOf := QueueEntry.measuredAt
  required := QueueEntry.required
  isRead _ := true
  shown :=
    [("measured_at", .measuredAt),
      ("incoming_depth", .incomingDepth), ("outgoing_depth", .outgoingDepth),
      ("serialization_depth", .serializationDepth),
      ("max_incoming_depth", .maxIncomingDepth),
      ("max_outgoing_depth", .maxOutgoingDepth),
      ("max_serialization_depth", .maxSerializationDepth),
      ("overflow_count", .overflowCount), ("backpressure", .backpressure),
      ("wait_time_ms", .waitTimeMs), ("processing_time_ms", .processingTimeMs)]
  sqlType_eq_iff column := by cases column <;> simp [queueHistory]
  isRead_time := rfl
  mem_shown := by decide
  field_time _ := rfl
  isRead_of_required _ _ := rfl
  exists_decode _ := exists_decodeQueueEntry
  readsAs _ _ hdecode column _ := readsAs_queueEntry hdecode column
  unread _ _ _ _ hunread := nomatch hunread

/-! ## Networks -/

def networkMetricsNames : Names NetworkMetricsColumn :=
  [("id", .id), ("instance_id", .instanceId), ("measured_at", .measuredAt),
    ("tcp_reconnects", .tcpReconnects), ("socket_errors", .socketErrors),
    ("read_errors", .readErrors), ("write_errors", .writeErrors),
    ("tls_handshake_failures", .tlsHandshakeFailures),
    ("bytes_transmitted", .bytesTransmitted),
    ("bytes_received", .bytesReceived), ("socket_rtt_ms", .socketRttMs),
    ("bandwidth_bps", .bandwidthBps),
    ("connection_failures", .connectionFailures)]

/-- The columns that are read without a check for `NULL`. -/
def NetworkMetricsEntry.required : NetworkMetricsColumn → Bool
  | .id | .instanceId | .measuredAt => true
  | _ => false

theorem exists_decodeNetworkMetricsEntry {row : Row NetworkMetricsColumn Json}
    (htyped : TypedRow codec networkMetricsHistory row)
    (hpresent : Present NetworkMetricsEntry.required row) :
    ∃ entry, decodeNetworkMetricsEntry codec row = some entry := by
  rw [decodeNetworkMetricsEntry]
  refine exists_bind (exists_asInt64 (by trivial) (htyped .id)
    (hpresent .id rfl)) fun _ => ?_
  refine exists_bind (exists_asString (by trivial) (htyped .instanceId)
    (hpresent .instanceId rfl)) fun _ => ?_
  refine exists_bind (exists_asTimestamp (htyped .measuredAt)
    (hpresent .measuredAt rfl)) fun _ => ?_
  refine exists_bind (exists_optional
    (exists_asInt64 (by trivial) (htyped .tcpReconnects))) fun _ => ?_
  refine exists_bind (exists_optional
    (exists_asInt64 (by trivial) (htyped .socketErrors))) fun _ => ?_
  refine exists_bind (exists_optional
    (exists_asInt64 (by trivial) (htyped .readErrors))) fun _ => ?_
  refine exists_bind (exists_optional
    (exists_asInt64 (by trivial) (htyped .writeErrors))) fun _ => ?_
  refine exists_bind (exists_optional
    (exists_asInt64 (by trivial) (htyped .tlsHandshakeFailures))) fun _ => ?_
  refine exists_bind (exists_optional
    (exists_asInt64 (by trivial) (htyped .bytesTransmitted))) fun _ => ?_
  refine exists_bind (exists_optional
    (exists_asInt64 (by trivial) (htyped .bytesReceived))) fun _ => ?_
  refine exists_bind (exists_optional
    (exists_asDouble (htyped .socketRttMs))) fun _ => ?_
  refine exists_bind (exists_optional
    (exists_asDouble (htyped .bandwidthBps))) fun _ => ?_
  refine exists_bind (exists_optional
    (exists_asInt64 (by trivial) (htyped .connectionFailures))) fun _ => ?_
  exact ⟨_, rfl⟩

theorem readsAs_networkMetricsEntry {row : Row NetworkMetricsColumn Json}
    {entry : NetworkMetricsEntry}
    (hdecode : decodeNetworkMetricsEntry codec row = some entry)
    (column : NetworkMetricsColumn) :
    ReadsAs codec (networkMetricsHistory.sqlType column)
      (NetworkMetricsEntry.required column) (row column)
      (entry.field column) := by
  rw [decodeNetworkMetricsEntry] at hdecode
  obtain ⟨id, hid, hdecode⟩ := exists_of_bind hdecode
  obtain ⟨instanceId, hinstanceId, hdecode⟩ := exists_of_bind hdecode
  obtain ⟨measuredAt, hmeasuredAt, hdecode⟩ := exists_of_bind hdecode
  obtain ⟨tcpReconnects, htcpReconnects, hdecode⟩ := exists_of_bind hdecode
  obtain ⟨socketErrors, hsocketErrors, hdecode⟩ := exists_of_bind hdecode
  obtain ⟨readErrors, hreadErrors, hdecode⟩ := exists_of_bind hdecode
  obtain ⟨writeErrors, hwriteErrors, hdecode⟩ := exists_of_bind hdecode
  obtain ⟨tlsHandshakeFailures, htlsHandshakeFailures, hdecode⟩ :=
    exists_of_bind hdecode
  obtain ⟨bytesTransmitted, hbytesTransmitted, hdecode⟩ :=
    exists_of_bind hdecode
  obtain ⟨bytesReceived, hbytesReceived, hdecode⟩ := exists_of_bind hdecode
  obtain ⟨socketRttMs, hsocketRttMs, hdecode⟩ := exists_of_bind hdecode
  obtain ⟨bandwidthBps, hbandwidthBps, hdecode⟩ := exists_of_bind hdecode
  obtain ⟨connectionFailures, hconnectionFailures, hdecode⟩ :=
    exists_of_bind hdecode
  obtain rfl := Option.some.inj hdecode
  cases column with
  | id => exact .integer trivial hid
  | instanceId => exact .text trivial hinstanceId
  | measuredAt => exact .timestamp hmeasuredAt
  | tcpReconnects => exact .optInteger trivial htcpReconnects
  | socketErrors => exact .optInteger trivial hsocketErrors
  | readErrors => exact .optInteger trivial hreadErrors
  | writeErrors => exact .optInteger trivial hwriteErrors
  | tlsHandshakeFailures => exact .optInteger trivial htlsHandshakeFailures
  | bytesTransmitted => exact .optInteger trivial hbytesTransmitted
  | bytesReceived => exact .optInteger trivial hbytesReceived
  | socketRttMs => exact .optDouble hsocketRttMs
  | bandwidthBps => exact .optDouble hbandwidthBps
  | connectionFailures => exact .optInteger trivial hconnectionFailures

def networkHistoryOf (codec : Codec Json) :
    History codec networkMetricsHistory NetworkMetricsEntry where
  names := networkMetricsNames
  time := .measuredAt
  decode := decodeNetworkMetricsEntry codec
  field := NetworkMetricsEntry.field
  timeOf := NetworkMetricsEntry.measuredAt
  required := NetworkMetricsEntry.required
  isRead _ := true
  shown :=
    [("measured_at", .measuredAt),
      ("tcp_reconnects", .tcpReconnects), ("socket_errors", .socketErrors),
      ("read_errors", .readErrors), ("write_errors", .writeErrors),
      ("tls_handshake_failures", .tlsHandshakeFailures),
      ("bytes_transmitted", .bytesTransmitted),
      ("bytes_received", .bytesReceived), ("socket_rtt_ms", .socketRttMs),
      ("bandwidth_bps", .bandwidthBps),
      ("connection_failures", .connectionFailures)]
  sqlType_eq_iff column := by cases column <;> simp [networkMetricsHistory]
  isRead_time := rfl
  mem_shown := by decide
  field_time _ := rfl
  isRead_of_required _ _ := rfl
  exists_decode _ := exists_decodeNetworkMetricsEntry
  readsAs _ _ hdecode column _ := readsAs_networkMetricsEntry hdecode column
  unread _ _ _ _ hunread := nomatch hunread

/-! ## Databases -/

def databaseMetricsNames : Names DatabaseMetricsColumn :=
  [("id", .id), ("instance_id", .instanceId), ("measured_at", .measuredAt),
    ("successful_writes", .successfulWrites), ("failed_writes", .failedWrites),
    ("insert_latency_ms", .insertLatencyMs),
    ("query_latency_ms", .queryLatencyMs),
    ("active_connections", .activeConnections),
    ("connection_failures", .connectionFailures),
    ("transaction_count", .transactionCount),
    ("writes_per_sec", .writesPerSec), ("reads_per_sec", .readsPerSec),
    ("queue_waiting", .queueWaiting)]

/-- The columns that are read without a check for `NULL`. -/
def DatabaseMetricsEntry.required : DatabaseMetricsColumn → Bool
  | .id | .instanceId | .measuredAt => true
  | _ => false

theorem exists_decodeDatabaseMetricsEntry {row : Row DatabaseMetricsColumn Json}
    (htyped : TypedRow codec databaseMetricsHistory row)
    (hpresent : Present DatabaseMetricsEntry.required row) :
    ∃ entry, decodeDatabaseMetricsEntry codec row = some entry := by
  rw [decodeDatabaseMetricsEntry]
  refine exists_bind (exists_asInt64 (by trivial) (htyped .id)
    (hpresent .id rfl)) fun _ => ?_
  refine exists_bind (exists_asString (by trivial) (htyped .instanceId)
    (hpresent .instanceId rfl)) fun _ => ?_
  refine exists_bind (exists_asTimestamp (htyped .measuredAt)
    (hpresent .measuredAt rfl)) fun _ => ?_
  refine exists_bind (exists_optional
    (exists_asInt64 (by trivial) (htyped .successfulWrites))) fun _ => ?_
  refine exists_bind (exists_optional
    (exists_asInt64 (by trivial) (htyped .failedWrites))) fun _ => ?_
  refine exists_bind (exists_optional
    (exists_asDouble (htyped .insertLatencyMs))) fun _ => ?_
  refine exists_bind (exists_optional
    (exists_asDouble (htyped .queryLatencyMs))) fun _ => ?_
  refine exists_bind (exists_optional
    (exists_asInt64 (by trivial) (htyped .activeConnections))) fun _ => ?_
  refine exists_bind (exists_optional
    (exists_asInt64 (by trivial) (htyped .connectionFailures))) fun _ => ?_
  refine exists_bind (exists_optional
    (exists_asInt64 (by trivial) (htyped .transactionCount))) fun _ => ?_
  refine exists_bind (exists_optional
    (exists_asDouble (htyped .writesPerSec))) fun _ => ?_
  refine exists_bind (exists_optional
    (exists_asDouble (htyped .readsPerSec))) fun _ => ?_
  refine exists_bind (exists_optional
    (exists_asInt64 (by trivial) (htyped .queueWaiting))) fun _ => ?_
  exact ⟨_, rfl⟩

theorem readsAs_databaseMetricsEntry {row : Row DatabaseMetricsColumn Json}
    {entry : DatabaseMetricsEntry}
    (hdecode : decodeDatabaseMetricsEntry codec row = some entry)
    (column : DatabaseMetricsColumn) :
    ReadsAs codec (databaseMetricsHistory.sqlType column)
      (DatabaseMetricsEntry.required column) (row column)
      (entry.field column) := by
  rw [decodeDatabaseMetricsEntry] at hdecode
  obtain ⟨id, hid, hdecode⟩ := exists_of_bind hdecode
  obtain ⟨instanceId, hinstanceId, hdecode⟩ := exists_of_bind hdecode
  obtain ⟨measuredAt, hmeasuredAt, hdecode⟩ := exists_of_bind hdecode
  obtain ⟨successfulWrites, hsuccessfulWrites, hdecode⟩ :=
    exists_of_bind hdecode
  obtain ⟨failedWrites, hfailedWrites, hdecode⟩ := exists_of_bind hdecode
  obtain ⟨insertLatencyMs, hinsertLatencyMs, hdecode⟩ := exists_of_bind hdecode
  obtain ⟨queryLatencyMs, hqueryLatencyMs, hdecode⟩ := exists_of_bind hdecode
  obtain ⟨activeConnections, hactiveConnections, hdecode⟩ :=
    exists_of_bind hdecode
  obtain ⟨connectionFailures, hconnectionFailures, hdecode⟩ :=
    exists_of_bind hdecode
  obtain ⟨transactionCount, htransactionCount, hdecode⟩ :=
    exists_of_bind hdecode
  obtain ⟨writesPerSec, hwritesPerSec, hdecode⟩ := exists_of_bind hdecode
  obtain ⟨readsPerSec, hreadsPerSec, hdecode⟩ := exists_of_bind hdecode
  obtain ⟨queueWaiting, hqueueWaiting, hdecode⟩ := exists_of_bind hdecode
  obtain rfl := Option.some.inj hdecode
  cases column with
  | id => exact .integer trivial hid
  | instanceId => exact .text trivial hinstanceId
  | measuredAt => exact .timestamp hmeasuredAt
  | successfulWrites => exact .optInteger trivial hsuccessfulWrites
  | failedWrites => exact .optInteger trivial hfailedWrites
  | insertLatencyMs => exact .optDouble hinsertLatencyMs
  | queryLatencyMs => exact .optDouble hqueryLatencyMs
  | activeConnections => exact .optInteger trivial hactiveConnections
  | connectionFailures => exact .optInteger trivial hconnectionFailures
  | transactionCount => exact .optInteger trivial htransactionCount
  | writesPerSec => exact .optDouble hwritesPerSec
  | readsPerSec => exact .optDouble hreadsPerSec
  | queueWaiting => exact .optInteger trivial hqueueWaiting

def databaseHistoryOf (codec : Codec Json) :
    History codec databaseMetricsHistory DatabaseMetricsEntry where
  names := databaseMetricsNames
  time := .measuredAt
  decode := decodeDatabaseMetricsEntry codec
  field := DatabaseMetricsEntry.field
  timeOf := DatabaseMetricsEntry.measuredAt
  required := DatabaseMetricsEntry.required
  isRead _ := true
  shown :=
    [("measured_at", .measuredAt),
      ("active_connections", .activeConnections),
      ("insert_latency_ms", .insertLatencyMs),
      ("query_latency_ms", .queryLatencyMs),
      ("transaction_count", .transactionCount),
      ("successful_writes", .successfulWrites),
      ("failed_writes", .failedWrites), ("reads_per_sec", .readsPerSec),
      ("writes_per_sec", .writesPerSec), ("queue_waiting", .queueWaiting),
      ("connection_failures", .connectionFailures)]
  sqlType_eq_iff column := by cases column <;> simp [databaseMetricsHistory]
  isRead_time := rfl
  mem_shown := by decide
  field_time _ := rfl
  isRead_of_required _ _ := rfl
  exists_decode _ := exists_decodeDatabaseMetricsEntry
  readsAs _ _ hdecode column _ := readsAs_databaseMetricsEntry hdecode column
  unread _ _ _ _ hunread := nomatch hunread

/-! ## Systems -/

def systemMetricsNames : Names SystemMetricsColumn :=
  [("id", .id), ("instance_id", .instanceId), ("measured_at", .measuredAt),
    ("cpu_usage_percent", .cpuUsagePercent), ("memory_rss", .memoryRss),
    ("peak_rss", .peakRss), ("virtual_memory", .virtualMemory),
    ("heap_usage", .heapUsage), ("memory_growth_rate", .memoryGrowthRate),
    ("thread_count", .threadCount), ("uptime_seconds", .uptimeSeconds)]

/-- The columns that are read without a check for `NULL`. -/
def SystemMetricsEntry.required : SystemMetricsColumn → Bool
  | .id | .instanceId | .measuredAt => true
  | _ => false

theorem exists_decodeSystemMetricsEntry {row : Row SystemMetricsColumn Json}
    (htyped : TypedRow codec systemMetricsHistory row)
    (hpresent : Present SystemMetricsEntry.required row) :
    ∃ entry, decodeSystemMetricsEntry codec row = some entry := by
  rw [decodeSystemMetricsEntry]
  refine exists_bind (exists_asInt64 (by trivial) (htyped .id)
    (hpresent .id rfl)) fun _ => ?_
  refine exists_bind (exists_asString (by trivial) (htyped .instanceId)
    (hpresent .instanceId rfl)) fun _ => ?_
  refine exists_bind (exists_asTimestamp (htyped .measuredAt)
    (hpresent .measuredAt rfl)) fun _ => ?_
  refine exists_bind (exists_optional
    (exists_asDouble (htyped .cpuUsagePercent))) fun _ => ?_
  refine exists_bind (exists_optional
    (exists_asInt64 (by trivial) (htyped .memoryRss))) fun _ => ?_
  refine exists_bind (exists_optional
    (exists_asInt64 (by trivial) (htyped .peakRss))) fun _ => ?_
  refine exists_bind (exists_optional
    (exists_asInt64 (by trivial) (htyped .virtualMemory))) fun _ => ?_
  refine exists_bind (exists_optional
    (exists_asInt64 (by trivial) (htyped .heapUsage))) fun _ => ?_
  refine exists_bind (exists_optional
    (exists_asDouble (htyped .memoryGrowthRate))) fun _ => ?_
  refine exists_bind (exists_optional
    (exists_asInt64 (by trivial) (htyped .threadCount))) fun _ => ?_
  refine exists_bind (exists_optional
    (exists_asDouble (htyped .uptimeSeconds))) fun _ => ?_
  exact ⟨_, rfl⟩

theorem readsAs_systemMetricsEntry {row : Row SystemMetricsColumn Json}
    {entry : SystemMetricsEntry}
    (hdecode : decodeSystemMetricsEntry codec row = some entry)
    (column : SystemMetricsColumn) :
    ReadsAs codec (systemMetricsHistory.sqlType column)
      (SystemMetricsEntry.required column) (row column)
      (entry.field column) := by
  rw [decodeSystemMetricsEntry] at hdecode
  obtain ⟨id, hid, hdecode⟩ := exists_of_bind hdecode
  obtain ⟨instanceId, hinstanceId, hdecode⟩ := exists_of_bind hdecode
  obtain ⟨measuredAt, hmeasuredAt, hdecode⟩ := exists_of_bind hdecode
  obtain ⟨cpuUsagePercent, hcpuUsagePercent, hdecode⟩ := exists_of_bind hdecode
  obtain ⟨memoryRss, hmemoryRss, hdecode⟩ := exists_of_bind hdecode
  obtain ⟨peakRss, hpeakRss, hdecode⟩ := exists_of_bind hdecode
  obtain ⟨virtualMemory, hvirtualMemory, hdecode⟩ := exists_of_bind hdecode
  obtain ⟨heapUsage, hheapUsage, hdecode⟩ := exists_of_bind hdecode
  obtain ⟨memoryGrowthRate, hmemoryGrowthRate, hdecode⟩ :=
    exists_of_bind hdecode
  obtain ⟨threadCount, hthreadCount, hdecode⟩ := exists_of_bind hdecode
  obtain ⟨uptimeSeconds, huptimeSeconds, hdecode⟩ := exists_of_bind hdecode
  obtain rfl := Option.some.inj hdecode
  cases column with
  | id => exact .integer trivial hid
  | instanceId => exact .text trivial hinstanceId
  | measuredAt => exact .timestamp hmeasuredAt
  | cpuUsagePercent => exact .optDouble hcpuUsagePercent
  | memoryRss => exact .optInteger trivial hmemoryRss
  | peakRss => exact .optInteger trivial hpeakRss
  | virtualMemory => exact .optInteger trivial hvirtualMemory
  | heapUsage => exact .optInteger trivial hheapUsage
  | memoryGrowthRate => exact .optDouble hmemoryGrowthRate
  | threadCount => exact .optInteger trivial hthreadCount
  | uptimeSeconds => exact .optDouble huptimeSeconds

def systemHistoryOf (codec : Codec Json) :
    History codec systemMetricsHistory SystemMetricsEntry where
  names := systemMetricsNames
  time := .measuredAt
  decode := decodeSystemMetricsEntry codec
  field := SystemMetricsEntry.field
  timeOf := SystemMetricsEntry.measuredAt
  required := SystemMetricsEntry.required
  isRead _ := true
  shown :=
    [("measured_at", .measuredAt),
      ("cpu_usage_percent", .cpuUsagePercent), ("memory_rss", .memoryRss),
      ("peak_rss", .peakRss), ("virtual_memory", .virtualMemory),
      ("heap_usage", .heapUsage), ("memory_growth_rate", .memoryGrowthRate),
      ("thread_count", .threadCount), ("uptime_seconds", .uptimeSeconds)]
  sqlType_eq_iff column := by cases column <;> simp [systemMetricsHistory]
  isRead_time := rfl
  mem_shown := by decide
  field_time _ := rfl
  isRead_of_required _ _ := rfl
  exists_decode _ := exists_decodeSystemMetricsEntry
  readsAs _ _ hdecode column _ := readsAs_systemMetricsEntry hdecode column
  unread _ _ _ _ hunread := nomatch hunread

end Datafeed.Storage
