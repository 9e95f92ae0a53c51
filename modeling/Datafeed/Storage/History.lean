import Datafeed.Storage.Adapter

/-!
# History tables

The five tables that keep one row per metrics interval, with the records, the
prepared `INSERT`s and the readers by condition.
-/

namespace Datafeed.Storage

open Sql

/-! ## Exchange metrics -/

inductive ExchangeMetricsColumn
  | id
  | instanceId
  | exchangeName
  | snapshotTime
  | connected
  | uptimeSeconds
  | reconnectCount
  | heartbeatFailures
  | websocketDisconnects
  | messagesReceived
  | messagesDropped
  | parseErrors
  | feedLagMs
  | exchangeLatencyMs
  | stale
  deriving DecidableEq

def exchangeMetricsHistory : Schema ExchangeMetricsColumn where
  columns :=
    [.id, .instanceId, .exchangeName, .snapshotTime, .connected,
      .uptimeSeconds, .reconnectCount, .heartbeatFailures,
      .websocketDisconnects, .messagesReceived, .messagesDropped,
      .parseErrors, .feedLagMs, .exchangeLatencyMs, .stale]
  sqlType
    | .id | .messagesReceived | .messagesDropped => .int8
    | .instanceId | .exchangeName => .varchar 50
    | .snapshotTime => .timestamptz
    | .connected | .stale => .boolean
    | .uptimeSeconds | .feedLagMs | .exchangeLatencyMs => .float8
    | .reconnectCount | .heartbeatFailures | .websocketDisconnects
    | .parseErrors => .int4
  default
    | .id => .serial
    | _ => .null
  notNull
    | .id | .exchangeName | .snapshotTime | .connected => true
    | _ => false
  allowed _ := none
  references
    | .instanceId => true
    | _ => false
  unique := [[.id]]

structure ExchangeMetricsEntry where
  id : ℤ
  instanceId : String
  exchangeName : String
  snapshotTime : ℕ
  connected : Bool
  uptimeSeconds : Option ℚ
  reconnectCount : Option ℤ
  heartbeatFailures : Option ℤ
  websocketDisconnects : Option ℤ
  messagesReceived : Option ℤ
  messagesDropped : Option ℤ
  parseErrors : Option ℤ
  feedLagMs : Option ℚ
  exchangeLatencyMs : Option ℚ
  stale : Bool

/-- The field named like a column, as a parameter. -/
def ExchangeMetricsEntry.field (entry : ExchangeMetricsEntry) :
    ExchangeMetricsColumn → Param
  | .id => .integer entry.id
  | .instanceId => .text entry.instanceId
  | .exchangeName => .text entry.exchangeName
  | .snapshotTime => .timestamp entry.snapshotTime
  | .connected => appendBool entry.connected
  | .uptimeSeconds => appendOpt .double entry.uptimeSeconds
  | .reconnectCount => appendOpt .integer entry.reconnectCount
  | .heartbeatFailures => appendOpt .integer entry.heartbeatFailures
  | .websocketDisconnects => appendOpt .integer entry.websocketDisconnects
  | .messagesReceived => appendOpt .integer entry.messagesReceived
  | .messagesDropped => appendOpt .integer entry.messagesDropped
  | .parseErrors => appendOpt .integer entry.parseErrors
  | .feedLagMs => appendOpt .double entry.feedLagMs
  | .exchangeLatencyMs => appendOpt .double entry.exchangeLatencyMs
  | .stale => appendBool entry.stale

def insertExchangeMetrics : InsertStatement ExchangeMetricsColumn where
  columns :=
    [.instanceId, .exchangeName, .snapshotTime, .connected, .uptimeSeconds,
      .reconnectCount, .heartbeatFailures, .websocketDisconnects,
      .messagesReceived, .messagesDropped, .parseErrors, .feedLagMs,
      .exchangeLatencyMs, .stale]
  placeholders := placeholdersUpTo 14

/-- What `create_exchange_metrics_entry` appends to its statement. -/
def createExchangeMetricsEntryParams (e : ExchangeMetricsEntry) : List Param :=
  [.text e.instanceId,
    .text e.exchangeName,
    .timestamp e.snapshotTime,
    appendBool e.connected,
    appendOpt .double e.uptimeSeconds,
    appendOpt .integer e.reconnectCount,
    appendOpt .integer e.heartbeatFailures,
    appendOpt .integer e.websocketDisconnects,
    appendOpt .integer e.messagesReceived,
    appendOpt .integer e.messagesDropped,
    appendOpt .integer e.parseErrors,
    appendOpt .double e.feedLagMs,
    appendOpt .double e.exchangeLatencyMs,
    appendBool e.stale]

section

variable {Json : Type} [DecidableEq Json] (codec : Codec Json)
  {referenced : ExchangeMetricsColumn → Datum Json → Bool}

def createExchangeMetricsEntry
    (store : Store Json exchangeMetricsHistory referenced)
    (supply : Supply) (e : ExchangeMetricsEntry) :
    Option ExchangeMetricsEntry ×
      Store Json exchangeMetricsHistory referenced :=
  create codec store supply insertExchangeMetrics
      (createExchangeMetricsEntryParams e) fun row =>
    ((row .id).asInt64).map fun id => { e with id := id }

/-- The loop body of `get_exchange_metrics_by_condition`. -/
def decodeExchangeMetricsEntry (row : Row ExchangeMetricsColumn Json) :
    Option ExchangeMetricsEntry := do
  let id ← (row .id).asInt64
  let instanceId ← (row .instanceId).asString codec
  let exchangeName ← (row .exchangeName).asString codec
  let snapshotTime ← (row .snapshotTime).asTimestamp
  let connected ← (row .connected).asBool
  let uptimeSeconds ← (row .uptimeSeconds).optional Datum.asDouble
  let reconnectCount ← (row .reconnectCount).optional Datum.asInt64
  let heartbeatFailures ← (row .heartbeatFailures).optional Datum.asInt64
  let websocketDisconnects ← (row .websocketDisconnects).optional Datum.asInt64
  let messagesReceived ← (row .messagesReceived).optional Datum.asInt64
  let messagesDropped ← (row .messagesDropped).optional Datum.asInt64
  let parseErrors ← (row .parseErrors).optional Datum.asInt64
  let feedLagMs ← (row .feedLagMs).optional Datum.asDouble
  let exchangeLatencyMs ← (row .exchangeLatencyMs).optional Datum.asDouble
  let stale ← (row .stale).asBool
  return ⟨id, instanceId, exchangeName, snapshotTime, connected,
    uptimeSeconds, reconnectCount, heartbeatFailures, websocketDisconnects,
    messagesReceived, messagesDropped, parseErrors, feedLagMs,
    exchangeLatencyMs, stale⟩

def getExchangeMetricsByCondition
    (store : Store Json exchangeMetricsHistory referenced)
    (condition : Row ExchangeMetricsColumn Json → Bool) :
    List ExchangeMetricsEntry :=
  getByCondition store condition (decodeExchangeMetricsEntry codec)

variable {codec}

theorem exchangeMetricsEntry_fillsNotNull (entry : ExchangeMetricsEntry)
    (columns : List ExchangeMetricsColumn) :
    FillsNotNull exchangeMetricsHistory columns entry.field := by
  intro column _ hnotNull
  cases column <;>
    simp_all [exchangeMetricsHistory, ExchangeMetricsEntry.field, appendBool]

theorem mem_insertExchangeMetrics_columns (column : ExchangeMetricsColumn)
    (hne : column ≠ .id) : column ∈ insertExchangeMetrics.columns := by
  cases column <;> simp_all [insertExchangeMetrics]

omit [DecidableEq Json] in
theorem decodeExchangeMetricsEntry_of_holds {entry : ExchangeMetricsEntry}
    {row : Row ExchangeMetricsColumn Json}
    (hholds : ∀ column, column ≠ .id →
      Holds codec exchangeMetricsHistory row entry.field column)
    {id : ℤ} (hid : (row .id).asInt64 = some id) :
    decodeExchangeMetricsEntry codec row = some { entry with id := id } := by
  have hinstanceId := (hholds .instanceId (by decide)).text trivial rfl
  have hexchangeName := (hholds .exchangeName (by decide)).text trivial rfl
  have hsnapshotTime := (hholds .snapshotTime (by decide)).timestamp rfl rfl
  have hconnected := (hholds .connected (by decide)).bool rfl rfl
  have huptimeSeconds := (hholds .uptimeSeconds (by decide)).optDouble rfl rfl
  have hreconnectCount := (hholds .reconnectCount (by decide)).optInteger
    trivial rfl
  have hheartbeatFailures := (hholds .heartbeatFailures (by decide)).optInteger
    trivial rfl
  have hwebsocketDisconnects :=
    (hholds .websocketDisconnects (by decide)).optInteger trivial rfl
  have hmessagesReceived := (hholds .messagesReceived (by decide)).optInteger
    trivial rfl
  have hmessagesDropped := (hholds .messagesDropped (by decide)).optInteger
    trivial rfl
  have hparseErrors := (hholds .parseErrors (by decide)).optInteger trivial rfl
  have hfeedLagMs := (hholds .feedLagMs (by decide)).optDouble rfl rfl
  have hexchangeLatencyMs := (hholds .exchangeLatencyMs (by decide)).optDouble
    rfl rfl
  have hstale := (hholds .stale (by decide)).bool rfl rfl
  simp [decodeExchangeMetricsEntry, hid, hinstanceId, hexchangeName,
    hsnapshotTime, hconnected, huptimeSeconds, hreconnectCount,
    hheartbeatFailures, hwebsocketDisconnects, hmessagesReceived,
    hmessagesDropped, hparseErrors, hfeedLagMs, hexchangeLatencyMs, hstale]

theorem createExchangeMetricsEntry_reads :
    CreateReads exchangeMetricsHistory referenced
      (createExchangeMetricsEntry codec)
      (fun store created => theOnly (getExchangeMetricsByCondition codec store
        fun row => row .id = stored codec .int8 (.integer created.id)))
      (Insertable codec insertExchangeMetrics ExchangeMetricsEntry.field)
      (fun entry result => result = { entry with id := result.id }) := by
  apply createReads_getByCondition (fun entry => ⟨rfl, rfl⟩) (by decide)
    (fun entry => exchangeMetricsEntry_fillsNotNull entry _) (by decide)
  refine rowReads_serial rfl rfl (by decide) (fun _ _ => rfl)
    mem_insertExchangeMetrics_columns ?_
  intro entry row id hholds hid
  exact ⟨_, decodeExchangeMetricsEntry_of_holds hholds hid, rfl⟩

end

/-! ## Queues -/

inductive QueueColumn
  | id
  | instanceId
  | measuredAt
  | incomingDepth
  | outgoingDepth
  | serializationDepth
  | maxIncomingDepth
  | maxOutgoingDepth
  | maxSerializationDepth
  | overflowCount
  | backpressure
  | waitTimeMs
  | processingTimeMs
  deriving DecidableEq

def queueHistory : Schema QueueColumn where
  columns :=
    [.id, .instanceId, .measuredAt, .incomingDepth, .outgoingDepth,
      .serializationDepth, .maxIncomingDepth, .maxOutgoingDepth,
      .maxSerializationDepth, .overflowCount, .backpressure, .waitTimeMs,
      .processingTimeMs]
  sqlType
    | .id => .int8
    | .instanceId => .varchar 50
    | .measuredAt => .timestamptz
    | .incomingDepth | .outgoingDepth | .serializationDepth
    | .maxIncomingDepth | .maxOutgoingDepth | .maxSerializationDepth
    | .overflowCount => .int4
    | .backpressure => .boolean
    | .waitTimeMs | .processingTimeMs => .float8
  default
    | .id => .serial
    | _ => .null
  notNull
    | .id | .measuredAt | .incomingDepth | .outgoingDepth
    | .serializationDepth => true
    | _ => false
  allowed _ := none
  references
    | .instanceId => true
    | _ => false
  unique := [[.id]]

structure QueueEntry where
  id : ℤ
  instanceId : String
  measuredAt : ℕ
  incomingDepth : ℤ
  outgoingDepth : ℤ
  serializationDepth : ℤ
  maxIncomingDepth : Option ℤ
  maxOutgoingDepth : Option ℤ
  maxSerializationDepth : Option ℤ
  overflowCount : Option ℤ
  backpressure : Bool
  waitTimeMs : Option ℚ
  processingTimeMs : Option ℚ

/-- The field named like a column, as a parameter. -/
def QueueEntry.field (entry : QueueEntry) :
    QueueColumn → Param
  | .id => .integer entry.id
  | .instanceId => .text entry.instanceId
  | .measuredAt => .timestamp entry.measuredAt
  | .incomingDepth => .integer entry.incomingDepth
  | .outgoingDepth => .integer entry.outgoingDepth
  | .serializationDepth => .integer entry.serializationDepth
  | .maxIncomingDepth => appendOpt .integer entry.maxIncomingDepth
  | .maxOutgoingDepth => appendOpt .integer entry.maxOutgoingDepth
  | .maxSerializationDepth => appendOpt .integer entry.maxSerializationDepth
  | .overflowCount => appendOpt .integer entry.overflowCount
  | .backpressure => appendBool entry.backpressure
  | .waitTimeMs => appendOpt .double entry.waitTimeMs
  | .processingTimeMs => appendOpt .double entry.processingTimeMs

def insertQueueEntry : InsertStatement QueueColumn where
  columns :=
    [.instanceId, .measuredAt, .incomingDepth, .outgoingDepth,
      .serializationDepth, .maxIncomingDepth, .maxOutgoingDepth,
      .maxSerializationDepth, .overflowCount, .backpressure, .waitTimeMs,
      .processingTimeMs]
  placeholders := placeholdersUpTo 12

/-- What `create_queue_entry` appends to its statement. -/
def createQueueEntryParams (e : QueueEntry) : List Param :=
  [.text e.instanceId,
    .timestamp e.measuredAt,
    .integer e.incomingDepth,
    .integer e.outgoingDepth,
    .integer e.serializationDepth,
    appendOpt .integer e.maxIncomingDepth,
    appendOpt .integer e.maxOutgoingDepth,
    appendOpt .integer e.maxSerializationDepth,
    appendOpt .integer e.overflowCount,
    appendBool e.backpressure,
    appendOpt .double e.waitTimeMs,
    appendOpt .double e.processingTimeMs]

section

variable {Json : Type} [DecidableEq Json] (codec : Codec Json)
  {referenced : QueueColumn → Datum Json → Bool}

def createQueueEntry (store : Store Json queueHistory referenced)
    (supply : Supply) (e : QueueEntry) :
    Option QueueEntry × Store Json queueHistory referenced :=
  create codec store supply insertQueueEntry
      (createQueueEntryParams e) fun row =>
    ((row .id).asInt64).map fun id => { e with id := id }

/-- The loop body of `get_queue_entries_by_condition`. -/
def decodeQueueEntry (row : Row QueueColumn Json) : Option QueueEntry := do
  let id ← (row .id).asInt64
  let instanceId ← (row .instanceId).asString codec
  let measuredAt ← (row .measuredAt).asTimestamp
  let incomingDepth ← (row .incomingDepth).asInt64
  let outgoingDepth ← (row .outgoingDepth).asInt64
  let serializationDepth ← (row .serializationDepth).asInt64
  let maxIncomingDepth ← (row .maxIncomingDepth).optional Datum.asInt64
  let maxOutgoingDepth ← (row .maxOutgoingDepth).optional Datum.asInt64
  let maxSerializationDepth ← (row .maxSerializationDepth).optional
    Datum.asInt64
  let overflowCount ← (row .overflowCount).optional Datum.asInt64
  let backpressure ← (row .backpressure).asBool
  let waitTimeMs ← (row .waitTimeMs).optional Datum.asDouble
  let processingTimeMs ← (row .processingTimeMs).optional Datum.asDouble
  return ⟨id, instanceId, measuredAt, incomingDepth, outgoingDepth,
    serializationDepth, maxIncomingDepth, maxOutgoingDepth,
    maxSerializationDepth, overflowCount, backpressure, waitTimeMs,
    processingTimeMs⟩

def getQueueEntriesByCondition (store : Store Json queueHistory referenced)
    (condition : Row QueueColumn Json → Bool) : List QueueEntry :=
  getByCondition store condition (decodeQueueEntry codec)

variable {codec}

theorem queueEntry_fillsNotNull (entry : QueueEntry)
    (columns : List QueueColumn) :
    FillsNotNull queueHistory columns entry.field := by
  intro column _ hnotNull
  cases column <;> simp_all [queueHistory, QueueEntry.field]

theorem mem_insertQueueEntry_columns (column : QueueColumn) (hne : column ≠ .id)
    :
    column ∈ insertQueueEntry.columns := by
  cases column <;> simp_all [insertQueueEntry]

omit [DecidableEq Json] in
theorem decodeQueueEntry_of_holds {entry : QueueEntry}
    {row : Row QueueColumn Json}
    (hholds : ∀ column, column ≠ .id →
      Holds codec queueHistory row entry.field column)
    {id : ℤ} (hid : (row .id).asInt64 = some id) :
    decodeQueueEntry codec row = some { entry with id := id } := by
  have hinstanceId := (hholds .instanceId (by decide)).text trivial rfl
  have hmeasuredAt := (hholds .measuredAt (by decide)).timestamp rfl rfl
  have hincomingDepth := (hholds .incomingDepth (by decide)).integer trivial rfl
  have houtgoingDepth := (hholds .outgoingDepth (by decide)).integer trivial rfl
  have hserializationDepth := (hholds .serializationDepth (by decide)).integer
    trivial rfl
  have hmaxIncomingDepth := (hholds .maxIncomingDepth (by decide)).optInteger
    trivial rfl
  have hmaxOutgoingDepth := (hholds .maxOutgoingDepth (by decide)).optInteger
    trivial rfl
  have hmaxSerializationDepth :=
    (hholds .maxSerializationDepth (by decide)).optInteger trivial rfl
  have hoverflowCount := (hholds .overflowCount (by decide)).optInteger
    trivial rfl
  have hbackpressure := (hholds .backpressure (by decide)).bool rfl rfl
  have hwaitTimeMs := (hholds .waitTimeMs (by decide)).optDouble rfl rfl
  have hprocessingTimeMs := (hholds .processingTimeMs (by decide)).optDouble
    rfl rfl
  simp [decodeQueueEntry, hid, hinstanceId, hmeasuredAt, hincomingDepth,
    houtgoingDepth, hserializationDepth, hmaxIncomingDepth, hmaxOutgoingDepth,
    hmaxSerializationDepth, hoverflowCount, hbackpressure, hwaitTimeMs,
    hprocessingTimeMs]

theorem createQueueEntry_reads :
    CreateReads queueHistory referenced (createQueueEntry codec)
      (fun store created => theOnly (getQueueEntriesByCondition codec store
        fun row => row .id = stored codec .int8 (.integer created.id)))
      (Insertable codec insertQueueEntry QueueEntry.field)
      (fun entry result => result = { entry with id := result.id }) := by
  apply createReads_getByCondition (fun entry => ⟨rfl, rfl⟩) (by decide)
    (fun entry => queueEntry_fillsNotNull entry _) (by decide)
  refine rowReads_serial rfl rfl (by decide) (fun _ _ => rfl)
    mem_insertQueueEntry_columns ?_
  intro entry row id hholds hid
  exact ⟨_, decodeQueueEntry_of_holds hholds hid, rfl⟩

end

/-! ## System metrics -/

inductive SystemMetricsColumn
  | id
  | instanceId
  | measuredAt
  | cpuUsagePercent
  | memoryRss
  | peakRss
  | virtualMemory
  | heapUsage
  | memoryGrowthRate
  | threadCount
  | uptimeSeconds
  deriving DecidableEq

def systemMetricsHistory : Schema SystemMetricsColumn where
  columns :=
    [.id, .instanceId, .measuredAt, .cpuUsagePercent, .memoryRss, .peakRss,
      .virtualMemory, .heapUsage, .memoryGrowthRate, .threadCount,
      .uptimeSeconds]
  sqlType
    | .id | .memoryRss | .peakRss | .virtualMemory | .heapUsage => .int8
    | .instanceId => .varchar 50
    | .measuredAt => .timestamptz
    | .cpuUsagePercent | .memoryGrowthRate | .uptimeSeconds => .float8
    | .threadCount => .int4
  default
    | .id => .serial
    | _ => .null
  notNull
    | .id | .measuredAt => true
    | _ => false
  allowed _ := none
  references
    | .instanceId => true
    | _ => false
  unique := [[.id]]

structure SystemMetricsEntry where
  id : ℤ
  instanceId : String
  measuredAt : ℕ
  cpuUsagePercent : Option ℚ
  memoryRss : Option ℤ
  peakRss : Option ℤ
  virtualMemory : Option ℤ
  heapUsage : Option ℤ
  memoryGrowthRate : Option ℚ
  threadCount : Option ℤ
  uptimeSeconds : Option ℚ

/-- The field named like a column, as a parameter. -/
def SystemMetricsEntry.field (entry : SystemMetricsEntry) :
    SystemMetricsColumn → Param
  | .id => .integer entry.id
  | .instanceId => .text entry.instanceId
  | .measuredAt => .timestamp entry.measuredAt
  | .cpuUsagePercent => appendOpt .double entry.cpuUsagePercent
  | .memoryRss => appendOpt .integer entry.memoryRss
  | .peakRss => appendOpt .integer entry.peakRss
  | .virtualMemory => appendOpt .integer entry.virtualMemory
  | .heapUsage => appendOpt .integer entry.heapUsage
  | .memoryGrowthRate => appendOpt .double entry.memoryGrowthRate
  | .threadCount => appendOpt .integer entry.threadCount
  | .uptimeSeconds => appendOpt .double entry.uptimeSeconds

def insertSystemMetrics : InsertStatement SystemMetricsColumn where
  columns :=
    [.instanceId, .measuredAt, .cpuUsagePercent, .memoryRss, .peakRss,
      .virtualMemory, .heapUsage, .memoryGrowthRate, .threadCount,
      .uptimeSeconds]
  placeholders := placeholdersUpTo 10

/-- What `create_system_metrics_entry` appends to its statement. -/
def createSystemMetricsEntryParams (e : SystemMetricsEntry) : List Param :=
  [.text e.instanceId,
    .timestamp e.measuredAt,
    appendOpt .double e.cpuUsagePercent,
    appendOpt .integer e.memoryRss,
    appendOpt .integer e.peakRss,
    appendOpt .integer e.virtualMemory,
    appendOpt .integer e.heapUsage,
    appendOpt .double e.memoryGrowthRate,
    appendOpt .integer e.threadCount,
    appendOpt .double e.uptimeSeconds]

section

variable {Json : Type} [DecidableEq Json] (codec : Codec Json)
  {referenced : SystemMetricsColumn → Datum Json → Bool}

def createSystemMetricsEntry
    (store : Store Json systemMetricsHistory referenced)
    (supply : Supply) (e : SystemMetricsEntry) :
    Option SystemMetricsEntry × Store Json systemMetricsHistory referenced :=
  create codec store supply insertSystemMetrics
      (createSystemMetricsEntryParams e) fun row =>
    ((row .id).asInt64).map fun id => { e with id := id }

/-- The loop body of `get_system_metrics_by_condition`. -/
def decodeSystemMetricsEntry (row : Row SystemMetricsColumn Json) :
    Option SystemMetricsEntry := do
  let id ← (row .id).asInt64
  let instanceId ← (row .instanceId).asString codec
  let measuredAt ← (row .measuredAt).asTimestamp
  let cpuUsagePercent ← (row .cpuUsagePercent).optional Datum.asDouble
  let memoryRss ← (row .memoryRss).optional Datum.asInt64
  let peakRss ← (row .peakRss).optional Datum.asInt64
  let virtualMemory ← (row .virtualMemory).optional Datum.asInt64
  let heapUsage ← (row .heapUsage).optional Datum.asInt64
  let memoryGrowthRate ← (row .memoryGrowthRate).optional Datum.asDouble
  let threadCount ← (row .threadCount).optional Datum.asInt64
  let uptimeSeconds ← (row .uptimeSeconds).optional Datum.asDouble
  return ⟨id, instanceId, measuredAt, cpuUsagePercent, memoryRss, peakRss,
    virtualMemory, heapUsage, memoryGrowthRate, threadCount, uptimeSeconds⟩

def getSystemMetricsByCondition
    (store : Store Json systemMetricsHistory referenced)
    (condition : Row SystemMetricsColumn Json → Bool) : List SystemMetricsEntry
      :=
  getByCondition store condition (decodeSystemMetricsEntry codec)

variable {codec}

theorem systemMetricsEntry_fillsNotNull (entry : SystemMetricsEntry)
    (columns : List SystemMetricsColumn) :
    FillsNotNull systemMetricsHistory columns entry.field := by
  intro column _ hnotNull
  cases column <;> simp_all [systemMetricsHistory, SystemMetricsEntry.field]

theorem mem_insertSystemMetrics_columns (column : SystemMetricsColumn)
    (hne : column ≠ .id) : column ∈ insertSystemMetrics.columns := by
  cases column <;> simp_all [insertSystemMetrics]

omit [DecidableEq Json] in
theorem decodeSystemMetricsEntry_of_holds {entry : SystemMetricsEntry}
    {row : Row SystemMetricsColumn Json}
    (hholds : ∀ column, column ≠ .id →
      Holds codec systemMetricsHistory row entry.field column)
    {id : ℤ} (hid : (row .id).asInt64 = some id) :
    decodeSystemMetricsEntry codec row = some { entry with id := id } := by
  have hinstanceId := (hholds .instanceId (by decide)).text trivial rfl
  have hmeasuredAt := (hholds .measuredAt (by decide)).timestamp rfl rfl
  have hcpuUsagePercent := (hholds .cpuUsagePercent (by decide)).optDouble
    rfl rfl
  have hmemoryRss := (hholds .memoryRss (by decide)).optInteger trivial rfl
  have hpeakRss := (hholds .peakRss (by decide)).optInteger trivial rfl
  have hvirtualMemory := (hholds .virtualMemory (by decide)).optInteger
    trivial rfl
  have hheapUsage := (hholds .heapUsage (by decide)).optInteger trivial rfl
  have hmemoryGrowthRate := (hholds .memoryGrowthRate (by decide)).optDouble
    rfl rfl
  have hthreadCount := (hholds .threadCount (by decide)).optInteger trivial rfl
  have huptimeSeconds := (hholds .uptimeSeconds (by decide)).optDouble rfl rfl
  simp [decodeSystemMetricsEntry, hid, hinstanceId, hmeasuredAt,
    hcpuUsagePercent, hmemoryRss, hpeakRss, hvirtualMemory, hheapUsage,
    hmemoryGrowthRate, hthreadCount, huptimeSeconds]

theorem createSystemMetricsEntry_reads :
    CreateReads systemMetricsHistory referenced (createSystemMetricsEntry codec)
      (fun store created => theOnly (getSystemMetricsByCondition codec store
        fun row => row .id = stored codec .int8 (.integer created.id)))
      (Insertable codec insertSystemMetrics SystemMetricsEntry.field)
      (fun entry result => result = { entry with id := result.id }) := by
  apply createReads_getByCondition (fun entry => ⟨rfl, rfl⟩) (by decide)
    (fun entry => systemMetricsEntry_fillsNotNull entry _) (by decide)
  refine rowReads_serial rfl rfl (by decide) (fun _ _ => rfl)
    mem_insertSystemMetrics_columns ?_
  intro entry row id hholds hid
  exact ⟨_, decodeSystemMetricsEntry_of_holds hholds hid, rfl⟩

end

/-! ## Network metrics -/

inductive NetworkMetricsColumn
  | id
  | instanceId
  | measuredAt
  | tcpReconnects
  | socketErrors
  | readErrors
  | writeErrors
  | tlsHandshakeFailures
  | bytesTransmitted
  | bytesReceived
  | socketRttMs
  | bandwidthBps
  | connectionFailures
  deriving DecidableEq

def networkMetricsHistory : Schema NetworkMetricsColumn where
  columns :=
    [.id, .instanceId, .measuredAt, .tcpReconnects, .socketErrors,
      .readErrors, .writeErrors, .tlsHandshakeFailures, .bytesTransmitted,
      .bytesReceived, .socketRttMs, .bandwidthBps, .connectionFailures]
  sqlType
    | .id | .bytesTransmitted | .bytesReceived => .int8
    | .instanceId => .varchar 50
    | .measuredAt => .timestamptz
    | .tcpReconnects | .socketErrors | .readErrors | .writeErrors
    | .tlsHandshakeFailures | .connectionFailures => .int4
    | .socketRttMs | .bandwidthBps => .float8
  default
    | .id => .serial
    | _ => .null
  notNull
    | .id | .measuredAt => true
    | _ => false
  allowed _ := none
  references
    | .instanceId => true
    | _ => false
  unique := [[.id]]

structure NetworkMetricsEntry where
  id : ℤ
  instanceId : String
  measuredAt : ℕ
  tcpReconnects : Option ℤ
  socketErrors : Option ℤ
  readErrors : Option ℤ
  writeErrors : Option ℤ
  tlsHandshakeFailures : Option ℤ
  bytesTransmitted : Option ℤ
  bytesReceived : Option ℤ
  socketRttMs : Option ℚ
  bandwidthBps : Option ℚ
  connectionFailures : Option ℤ

/-- The field named like a column, as a parameter. -/
def NetworkMetricsEntry.field (entry : NetworkMetricsEntry) :
    NetworkMetricsColumn → Param
  | .id => .integer entry.id
  | .instanceId => .text entry.instanceId
  | .measuredAt => .timestamp entry.measuredAt
  | .tcpReconnects => appendOpt .integer entry.tcpReconnects
  | .socketErrors => appendOpt .integer entry.socketErrors
  | .readErrors => appendOpt .integer entry.readErrors
  | .writeErrors => appendOpt .integer entry.writeErrors
  | .tlsHandshakeFailures => appendOpt .integer entry.tlsHandshakeFailures
  | .bytesTransmitted => appendOpt .integer entry.bytesTransmitted
  | .bytesReceived => appendOpt .integer entry.bytesReceived
  | .socketRttMs => appendOpt .double entry.socketRttMs
  | .bandwidthBps => appendOpt .double entry.bandwidthBps
  | .connectionFailures => appendOpt .integer entry.connectionFailures

def insertNetworkMetrics : InsertStatement NetworkMetricsColumn where
  columns :=
    [.instanceId, .measuredAt, .tcpReconnects, .socketErrors, .readErrors,
      .writeErrors, .tlsHandshakeFailures, .bytesTransmitted, .bytesReceived,
      .socketRttMs, .bandwidthBps, .connectionFailures]
  placeholders := placeholdersUpTo 12

/-- What `create_network_metrics_entry` appends to its statement. -/
def createNetworkMetricsEntryParams (e : NetworkMetricsEntry) : List Param :=
  [.text e.instanceId,
    .timestamp e.measuredAt,
    appendOpt .integer e.tcpReconnects,
    appendOpt .integer e.socketErrors,
    appendOpt .integer e.readErrors,
    appendOpt .integer e.writeErrors,
    appendOpt .integer e.tlsHandshakeFailures,
    appendOpt .integer e.bytesTransmitted,
    appendOpt .integer e.bytesReceived,
    appendOpt .double e.socketRttMs,
    appendOpt .double e.bandwidthBps,
    appendOpt .integer e.connectionFailures]

section

variable {Json : Type} [DecidableEq Json] (codec : Codec Json)
  {referenced : NetworkMetricsColumn → Datum Json → Bool}

def createNetworkMetricsEntry
    (store : Store Json networkMetricsHistory referenced)
    (supply : Supply) (e : NetworkMetricsEntry) :
    Option NetworkMetricsEntry × Store Json networkMetricsHistory referenced :=
  create codec store supply insertNetworkMetrics
      (createNetworkMetricsEntryParams e) fun row =>
    ((row .id).asInt64).map fun id => { e with id := id }

/-- The loop body of `get_network_metrics_by_condition`. -/
def decodeNetworkMetricsEntry (row : Row NetworkMetricsColumn Json) :
    Option NetworkMetricsEntry := do
  let id ← (row .id).asInt64
  let instanceId ← (row .instanceId).asString codec
  let measuredAt ← (row .measuredAt).asTimestamp
  let tcpReconnects ← (row .tcpReconnects).optional Datum.asInt64
  let socketErrors ← (row .socketErrors).optional Datum.asInt64
  let readErrors ← (row .readErrors).optional Datum.asInt64
  let writeErrors ← (row .writeErrors).optional Datum.asInt64
  let tlsHandshakeFailures ← (row .tlsHandshakeFailures).optional Datum.asInt64
  let bytesTransmitted ← (row .bytesTransmitted).optional Datum.asInt64
  let bytesReceived ← (row .bytesReceived).optional Datum.asInt64
  let socketRttMs ← (row .socketRttMs).optional Datum.asDouble
  let bandwidthBps ← (row .bandwidthBps).optional Datum.asDouble
  let connectionFailures ← (row .connectionFailures).optional Datum.asInt64
  return ⟨id, instanceId, measuredAt, tcpReconnects, socketErrors, readErrors,
    writeErrors, tlsHandshakeFailures, bytesTransmitted, bytesReceived,
    socketRttMs, bandwidthBps, connectionFailures⟩

def getNetworkMetricsByCondition
    (store : Store Json networkMetricsHistory referenced)
    (condition : Row NetworkMetricsColumn Json → Bool) :
    List NetworkMetricsEntry :=
  getByCondition store condition (decodeNetworkMetricsEntry codec)

variable {codec}

theorem networkMetricsEntry_fillsNotNull (entry : NetworkMetricsEntry)
    (columns : List NetworkMetricsColumn) :
    FillsNotNull networkMetricsHistory columns entry.field := by
  intro column _ hnotNull
  cases column <;> simp_all [networkMetricsHistory, NetworkMetricsEntry.field]

theorem mem_insertNetworkMetrics_columns (column : NetworkMetricsColumn)
    (hne : column ≠ .id) : column ∈ insertNetworkMetrics.columns := by
  cases column <;> simp_all [insertNetworkMetrics]

omit [DecidableEq Json] in
theorem decodeNetworkMetricsEntry_of_holds {entry : NetworkMetricsEntry}
    {row : Row NetworkMetricsColumn Json}
    (hholds : ∀ column, column ≠ .id →
      Holds codec networkMetricsHistory row entry.field column)
    {id : ℤ} (hid : (row .id).asInt64 = some id) :
    decodeNetworkMetricsEntry codec row = some { entry with id := id } := by
  have hinstanceId := (hholds .instanceId (by decide)).text trivial rfl
  have hmeasuredAt := (hholds .measuredAt (by decide)).timestamp rfl rfl
  have htcpReconnects := (hholds .tcpReconnects (by decide)).optInteger
    trivial rfl
  have hsocketErrors := (hholds .socketErrors (by decide)).optInteger
    trivial rfl
  have hreadErrors := (hholds .readErrors (by decide)).optInteger trivial rfl
  have hwriteErrors := (hholds .writeErrors (by decide)).optInteger trivial rfl
  have htlsHandshakeFailures :=
    (hholds .tlsHandshakeFailures (by decide)).optInteger trivial rfl
  have hbytesTransmitted := (hholds .bytesTransmitted (by decide)).optInteger
    trivial rfl
  have hbytesReceived := (hholds .bytesReceived (by decide)).optInteger
    trivial rfl
  have hsocketRttMs := (hholds .socketRttMs (by decide)).optDouble rfl rfl
  have hbandwidthBps := (hholds .bandwidthBps (by decide)).optDouble rfl rfl
  have hconnectionFailures :=
    (hholds .connectionFailures (by decide)).optInteger trivial rfl
  simp [decodeNetworkMetricsEntry, hid, hinstanceId, hmeasuredAt,
    htcpReconnects, hsocketErrors, hreadErrors, hwriteErrors,
    htlsHandshakeFailures, hbytesTransmitted, hbytesReceived, hsocketRttMs,
    hbandwidthBps, hconnectionFailures]

theorem createNetworkMetricsEntry_reads :
    CreateReads networkMetricsHistory referenced
      (createNetworkMetricsEntry codec)
      (fun store created => theOnly (getNetworkMetricsByCondition codec store
        fun row => row .id = stored codec .int8 (.integer created.id)))
      (Insertable codec insertNetworkMetrics NetworkMetricsEntry.field)
      (fun entry result => result = { entry with id := result.id }) := by
  apply createReads_getByCondition (fun entry => ⟨rfl, rfl⟩) (by decide)
    (fun entry => networkMetricsEntry_fillsNotNull entry _) (by decide)
  refine rowReads_serial rfl rfl (by decide) (fun _ _ => rfl)
    mem_insertNetworkMetrics_columns ?_
  intro entry row id hholds hid
  exact ⟨_, decodeNetworkMetricsEntry_of_holds hholds hid, rfl⟩

end

/-! ## Database metrics -/

inductive DatabaseMetricsColumn
  | id
  | instanceId
  | measuredAt
  | successfulWrites
  | failedWrites
  | insertLatencyMs
  | queryLatencyMs
  | activeConnections
  | connectionFailures
  | transactionCount
  | writesPerSec
  | readsPerSec
  | queueWaiting
  deriving DecidableEq

def databaseMetricsHistory : Schema DatabaseMetricsColumn where
  columns :=
    [.id, .instanceId, .measuredAt, .successfulWrites, .failedWrites,
      .insertLatencyMs, .queryLatencyMs, .activeConnections,
      .connectionFailures, .transactionCount, .writesPerSec, .readsPerSec,
      .queueWaiting]
  sqlType
    | .id | .successfulWrites | .failedWrites | .transactionCount => .int8
    | .instanceId => .varchar 50
    | .measuredAt => .timestamptz
    | .insertLatencyMs | .queryLatencyMs | .writesPerSec | .readsPerSec =>
      .float8
    | .activeConnections | .connectionFailures | .queueWaiting => .int4
  default
    | .id => .serial
    | _ => .null
  notNull
    | .id | .measuredAt => true
    | _ => false
  allowed _ := none
  references
    | .instanceId => true
    | _ => false
  unique := [[.id]]

structure DatabaseMetricsEntry where
  id : ℤ
  instanceId : String
  measuredAt : ℕ
  successfulWrites : Option ℤ
  failedWrites : Option ℤ
  insertLatencyMs : Option ℚ
  queryLatencyMs : Option ℚ
  activeConnections : Option ℤ
  connectionFailures : Option ℤ
  transactionCount : Option ℤ
  writesPerSec : Option ℚ
  readsPerSec : Option ℚ
  queueWaiting : Option ℤ

/-- The field named like a column, as a parameter. -/
def DatabaseMetricsEntry.field (entry : DatabaseMetricsEntry) :
    DatabaseMetricsColumn → Param
  | .id => .integer entry.id
  | .instanceId => .text entry.instanceId
  | .measuredAt => .timestamp entry.measuredAt
  | .successfulWrites => appendOpt .integer entry.successfulWrites
  | .failedWrites => appendOpt .integer entry.failedWrites
  | .insertLatencyMs => appendOpt .double entry.insertLatencyMs
  | .queryLatencyMs => appendOpt .double entry.queryLatencyMs
  | .activeConnections => appendOpt .integer entry.activeConnections
  | .connectionFailures => appendOpt .integer entry.connectionFailures
  | .transactionCount => appendOpt .integer entry.transactionCount
  | .writesPerSec => appendOpt .double entry.writesPerSec
  | .readsPerSec => appendOpt .double entry.readsPerSec
  | .queueWaiting => appendOpt .integer entry.queueWaiting

def insertDatabaseMetrics : InsertStatement DatabaseMetricsColumn where
  columns :=
    [.instanceId, .measuredAt, .successfulWrites, .failedWrites,
      .insertLatencyMs, .queryLatencyMs, .activeConnections,
      .connectionFailures, .transactionCount, .writesPerSec, .readsPerSec,
      .queueWaiting]
  placeholders := placeholdersUpTo 12

/-- What `create_database_metrics_entry` appends to its statement. -/
def createDatabaseMetricsEntryParams (e : DatabaseMetricsEntry) : List Param :=
  [.text e.instanceId,
    .timestamp e.measuredAt,
    appendOpt .integer e.successfulWrites,
    appendOpt .integer e.failedWrites,
    appendOpt .double e.insertLatencyMs,
    appendOpt .double e.queryLatencyMs,
    appendOpt .integer e.activeConnections,
    appendOpt .integer e.connectionFailures,
    appendOpt .integer e.transactionCount,
    appendOpt .double e.writesPerSec,
    appendOpt .double e.readsPerSec,
    appendOpt .integer e.queueWaiting]

section

variable {Json : Type} [DecidableEq Json] (codec : Codec Json)
  {referenced : DatabaseMetricsColumn → Datum Json → Bool}

def createDatabaseMetricsEntry
    (store : Store Json databaseMetricsHistory referenced)
    (supply : Supply) (e : DatabaseMetricsEntry) :
    Option DatabaseMetricsEntry ×
      Store Json databaseMetricsHistory referenced :=
  create codec store supply insertDatabaseMetrics
      (createDatabaseMetricsEntryParams e) fun row =>
    ((row .id).asInt64).map fun id => { e with id := id }

/-- The loop body of `get_database_metrics_by_condition`. -/
def decodeDatabaseMetricsEntry (row : Row DatabaseMetricsColumn Json) :
    Option DatabaseMetricsEntry := do
  let id ← (row .id).asInt64
  let instanceId ← (row .instanceId).asString codec
  let measuredAt ← (row .measuredAt).asTimestamp
  let successfulWrites ← (row .successfulWrites).optional Datum.asInt64
  let failedWrites ← (row .failedWrites).optional Datum.asInt64
  let insertLatencyMs ← (row .insertLatencyMs).optional Datum.asDouble
  let queryLatencyMs ← (row .queryLatencyMs).optional Datum.asDouble
  let activeConnections ← (row .activeConnections).optional Datum.asInt64
  let connectionFailures ← (row .connectionFailures).optional Datum.asInt64
  let transactionCount ← (row .transactionCount).optional Datum.asInt64
  let writesPerSec ← (row .writesPerSec).optional Datum.asDouble
  let readsPerSec ← (row .readsPerSec).optional Datum.asDouble
  let queueWaiting ← (row .queueWaiting).optional Datum.asInt64
  return ⟨id, instanceId, measuredAt, successfulWrites, failedWrites,
    insertLatencyMs, queryLatencyMs, activeConnections, connectionFailures,
    transactionCount, writesPerSec, readsPerSec, queueWaiting⟩

def getDatabaseMetricsByCondition
    (store : Store Json databaseMetricsHistory referenced)
    (condition : Row DatabaseMetricsColumn Json → Bool) :
    List DatabaseMetricsEntry :=
  getByCondition store condition (decodeDatabaseMetricsEntry codec)

variable {codec}

theorem databaseMetricsEntry_fillsNotNull (entry : DatabaseMetricsEntry)
    (columns : List DatabaseMetricsColumn) :
    FillsNotNull databaseMetricsHistory columns entry.field := by
  intro column _ hnotNull
  cases column <;> simp_all [databaseMetricsHistory, DatabaseMetricsEntry.field]

theorem mem_insertDatabaseMetrics_columns (column : DatabaseMetricsColumn)
    (hne : column ≠ .id) : column ∈ insertDatabaseMetrics.columns := by
  cases column <;> simp_all [insertDatabaseMetrics]

omit [DecidableEq Json] in
theorem decodeDatabaseMetricsEntry_of_holds {entry : DatabaseMetricsEntry}
    {row : Row DatabaseMetricsColumn Json}
    (hholds : ∀ column, column ≠ .id →
      Holds codec databaseMetricsHistory row entry.field column)
    {id : ℤ} (hid : (row .id).asInt64 = some id) :
    decodeDatabaseMetricsEntry codec row = some { entry with id := id } := by
  have hinstanceId := (hholds .instanceId (by decide)).text trivial rfl
  have hmeasuredAt := (hholds .measuredAt (by decide)).timestamp rfl rfl
  have hsuccessfulWrites := (hholds .successfulWrites (by decide)).optInteger
    trivial rfl
  have hfailedWrites := (hholds .failedWrites (by decide)).optInteger
    trivial rfl
  have hinsertLatencyMs := (hholds .insertLatencyMs (by decide)).optDouble
    rfl rfl
  have hqueryLatencyMs := (hholds .queryLatencyMs (by decide)).optDouble rfl rfl
  have hactiveConnections := (hholds .activeConnections (by decide)).optInteger
    trivial rfl
  have hconnectionFailures :=
    (hholds .connectionFailures (by decide)).optInteger trivial rfl
  have htransactionCount := (hholds .transactionCount (by decide)).optInteger
    trivial rfl
  have hwritesPerSec := (hholds .writesPerSec (by decide)).optDouble rfl rfl
  have hreadsPerSec := (hholds .readsPerSec (by decide)).optDouble rfl rfl
  have hqueueWaiting := (hholds .queueWaiting (by decide)).optInteger
    trivial rfl
  simp [decodeDatabaseMetricsEntry, hid, hinstanceId, hmeasuredAt,
    hsuccessfulWrites, hfailedWrites, hinsertLatencyMs, hqueryLatencyMs,
    hactiveConnections, hconnectionFailures, htransactionCount, hwritesPerSec,
    hreadsPerSec, hqueueWaiting]

theorem createDatabaseMetricsEntry_reads :
    CreateReads databaseMetricsHistory referenced
      (createDatabaseMetricsEntry codec)
      (fun store created => theOnly (getDatabaseMetricsByCondition codec store
        fun row => row .id = stored codec .int8 (.integer created.id)))
      (Insertable codec insertDatabaseMetrics DatabaseMetricsEntry.field)
      (fun entry result => result = { entry with id := result.id }) := by
  apply createReads_getByCondition (fun entry => ⟨rfl, rfl⟩) (by decide)
    (fun entry => databaseMetricsEntry_fillsNotNull entry _) (by decide)
  refine rowReads_serial rfl rfl (by decide) (fun _ _ => rfl)
    mem_insertDatabaseMetrics_columns ?_
  intro entry row id hholds hid
  exact ⟨_, decodeDatabaseMetricsEntry_of_holds hholds hid, rfl⟩

end

end Datafeed.Storage
