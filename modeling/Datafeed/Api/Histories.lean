import Datafeed.Api.Conditions
import Datafeed.Storage.HistoryReaders
import Datafeed.Storage.TimestampCodec

/-!
# Histories

`getHistoryMetrics` and the functions beside it, and `getExchangeHistory`.  A
bound is put into the condition as it is, so a time is compared with a number,
which the server rejects; without a bound the condition is empty, and so is the
order but for the exchanges.
-/

namespace Datafeed.Api

open Ranking Select Sql SqlLexer Storage

/-! ## What the histories show -/

def metricsShown : List (String × MetricColumn) :=
  [("cpu_usage", .cpuUsage), ("memory_usage", .memoryUsage),
    ("thread_count", .threadCount), ("uptime_seconds", .uptimeSeconds),
    ("peak_rss", .peakRss), ("virtual_memory", .virtualMemory),
    ("heap_usage", .heapUsage), ("memory_growth_rate", .memoryGrowthRate),
    ("p50_latency_ms", .p50LatencyMs), ("p95_latency_ms", .p95LatencyMs),
    ("p99_latency_ms", .p99LatencyMs), ("avg_latency_ms", .avgLatencyMs),
    ("messages_per_sec", .messagesPerSec),
    ("packets_per_sec", .packetsPerSec), ("bytes_per_sec", .bytesPerSec)]

def performanceShown : List (String × MetricColumn) :=
  [("p50_latency_ms", .p50LatencyMs), ("p95_latency_ms", .p95LatencyMs),
    ("p99_latency_ms", .p99LatencyMs), ("avg_latency_ms", .avgLatencyMs),
    ("exchange_p50_ms", .exchangeP50Ms), ("exchange_p95_ms", .exchangeP95Ms),
    ("exchange_p99_ms", .exchangeP99Ms), ("parsing_p50_ms", .parsingP50Ms),
    ("parsing_p95_ms", .parsingP95Ms), ("parsing_p99_ms", .parsingP99Ms),
    ("normalization_p50_ms", .normalizationP50Ms),
    ("normalization_p95_ms", .normalizationP95Ms),
    ("normalization_p99_ms", .normalizationP99Ms),
    ("processing_p50_ms", .processingP50Ms),
    ("processing_p95_ms", .processingP95Ms),
    ("processing_p99_ms", .processingP99Ms),
    ("serialization_p50_ms", .serializationP50Ms),
    ("serialization_p95_ms", .serializationP95Ms),
    ("serialization_p99_ms", .serializationP99Ms),
    ("socket_send_p50_ms", .socketSendP50Ms),
    ("socket_send_p95_ms", .socketSendP95Ms),
    ("socket_send_p99_ms", .socketSendP99Ms)]

def throughputShown : List (String × MetricColumn) :=
  [("messages_per_sec", .messagesPerSec),
    ("packets_per_sec", .packetsPerSec), ("bytes_per_sec", .bytesPerSec),
    ("ticks_per_sec", .ticksPerSec), ("trades_per_sec", .tradesPerSec),
    ("orderbook_updates_per_sec", .orderbookUpdatesPerSec),
    ("subscriptions_per_sec", .subscriptionsPerSec),
    ("broadcasts_per_sec", .broadcastsPerSec),
    ("database_writes_per_sec", .databaseWritesPerSec),
    ("database_reads_per_sec", .databaseReadsPerSec),
    ("total_messages", .totalMessages), ("total_packets", .totalPackets),
    ("total_bytes", .totalBytes), ("total_ticks", .totalTicks),
    ("total_trades", .totalTrades),
    ("total_orderbook_updates", .totalOrderbookUpdates),
    ("total_broadcasts", .totalBroadcasts),
    ("total_subscriptions", .totalSubscriptions)]

def feedShown : List (String × MetricColumn) :=
  [("packet_drops", .packetDrops), ("duplicate_packets", .duplicatePackets),
    ("out_of_order_packets", .outOfOrderPackets),
    ("sequence_gaps", .sequenceGaps), ("missing_ticks", .missingTicks),
    ("invalid_messages", .invalidMessages),
    ("corrupted_packets", .corruptedPackets),
    ("parse_failures", .parseFailures), ("stale_feed", .staleFeed),
    ("feed_health_score", .feedHealthScore),
    ("feed_health_status", .feedHealthStatus)]

def sessionsShown : List (String × MetricColumn) :=
  [("active_clients", .activeClients), ("active_sessions", .activeSessions),
    ("active_subscriptions", .activeSubscriptions),
    ("authentication_failures", .authenticationFailures),
    ("reconnect_count", .reconnectCount),
    ("avg_session_duration_ms", .avgSessionDurationMs),
    ("longest_session_duration_ms", .longestSessionDurationMs)]

abbrev HistoryKind.Column : HistoryKind → Type
  | .metrics | .performance | .throughput | .feed | .sessions => SnapshotColumn
  | .queues => QueueColumn
  | .network => NetworkMetricsColumn
  | .database => DatabaseMetricsColumn
  | .system => SystemMetricsColumn

abbrev HistoryKind.Record : HistoryKind → Type
  | .metrics | .performance | .throughput | .feed | .sessions =>
      FeedMetricsSnapshot
  | .queues => QueueEntry
  | .network => NetworkMetricsEntry
  | .database => DatabaseMetricsEntry
  | .system => SystemMetricsEntry

def HistoryKind.schema : (kind : HistoryKind) → Schema kind.Column
  | .metrics | .performance | .throughput | .feed | .sessions =>
      feedMetricsSnapshots
  | .queues => queueHistory
  | .network => networkMetricsHistory
  | .database => databaseMetricsHistory
  | .system => systemMetricsHistory

section

variable {Json : Type} (codec : Codec Json)

/-- The table, the reader and the shown columns of a history. -/
def HistoryKind.history :
    (kind : HistoryKind) → History codec kind.schema kind.Record
  | .metrics => snapshotHistory codec metricsShown
  | .performance => snapshotHistory codec performanceShown
  | .throughput => snapshotHistory codec throughputShown
  | .feed => snapshotHistory codec feedShown
  | .sessions => snapshotHistory codec sessionsShown
  | .queues => queueHistoryOf codec
  | .network => networkHistoryOf codec
  | .database => databaseHistoryOf codec
  | .system => systemHistoryOf codec

variable (mktime : Tm → ℤ) (printTime : ℕ → PrintedTime)

/-- The lists that a `getHistory` function can return. -/
def GetHistory (kind : HistoryKind) (engine : Engine Json kind.schema)
    {referenced : kind.Column → Datum Json → Bool}
    (store : Store Json kind.schema referenced) (fromTime toTime : String)
    (records : List kind.Record) : Prop :=
  ReadsByCondition engine (kind.history codec).names kind.table
    ((kind.history codec).decodeThrough (readTimestamp mktime printTime)) store
    (compose (getByCondition kind.table [.text (historyWhere fromTime toTime)]))
    records

def GetExchangeHistory (engine : Engine Json exchangeMetricsHistory)
    {referenced : ExchangeMetricsColumn → Datum Json → Bool}
    (store : Store Json exchangeMetricsHistory referenced)
    (exchange fromTime toTime : String)
    (records : List ExchangeMetricsEntry) : Prop :=
  ReadsByCondition engine (exchangeHistoryOf codec).names
    "exchange_metrics_history"
    ((exchangeHistoryOf codec).decodeThrough (readTimestamp mktime printTime))
    store (compose (getExchangeHistory exchange fromTime toTime)) records

end

/-! ## What they are for -/

/-- The number that a bound is the text of. -/
def millis (bound : String) : ℕ := Nat.ofDigitChars 10 bound.toList 0

/-- The time lies within the bounds that are given. -/
def within (fromTime toTime : String) (ms : ℕ) : Bool :=
  (fromTime = "" || decide (millis fromTime ≤ ms)) &&
    (toTime = "" || decide (ms ≤ millis toTime))

theorem within_unbounded (ms : ℕ) : within "" "" ms = true := rfl

/-! ## Bounds -/

section

variable {Json Column Record : Type} {schema : Schema Column}
  {codec : Codec Json} (history : History codec schema Record)
  (engine : Engine Json schema)

/-- No bound is compared with the time of a history. -/
theorem rejected_bounded {column : String}
    (hname : history.names.find? column.toList = some history.time)
    {operator : List Char} (hoperator : operator ∈ comparisonOperators)
    (bound : String) :
    ((bounded column operator bound).resolve history.names).bind engine.test =
      none := by
  rw [bounded, Predicate.resolve, Operand.resolve, hname]
  exact engine.test_timestamp_number history.time operator hoperator _
    History.sqlType_time

theorem exists_bounded_mem (column : String) {fromTime toTime : String}
    (hgiven : fromTime ≠ "" ∨ toTime ≠ "") :
    ∃ operator ∈ comparisonOperators, ∃ bound,
      bounded column operator bound ∈ boundsOf column fromTime toTime := by
  by_cases hfrom : fromTime = ""
  · have hto := hgiven.resolve_left (not_not_intro hfrom)
    refine ⟨['<', '='], by decide, toTime, ?_⟩
    rw [boundsOf, if_pos hto]
    exact List.mem_append_right _ (List.mem_singleton_self _)
  · refine ⟨['>', '='], by decide, fromTime, ?_⟩
    rw [boundsOf, if_pos hfrom]
    exact List.mem_append_left _ (List.mem_singleton_self _)

/-- A condition with a bound is rejected. -/
theorem selection_of_bounded {column : String}
    (hname : history.names.find? column.toList = some history.time)
    {fromTime toTime : String} (hgiven : fromTime ≠ "" ∨ toTime ≠ "")
    (others : List (Predicate (List Char))) :
    selection engine history.names
      (some [others ++ boundsOf column fromTime toTime]) = none := by
  obtain ⟨operator, hoperator, bound, hmem⟩ :=
    exists_bounded_mem column hgiven
  exact selection_of_rejected engine history.names (List.mem_singleton_self _)
    (List.mem_append_right others hmem)
    (rejected_bounded history engine hname hoperator bound)

end

/-! ## Histories by the time of measurement -/

section

variable {Json : Type} {codec : Codec Json} {mktime : Tm → ℤ}
  {printTime : ℕ → PrintedTime} {kind : HistoryKind}
  {referenced : kind.Column → Datum Json → Bool}
  {store : Store Json kind.schema referenced}

theorem HistoryKind.find_measuredAt (codec : Codec Json) (kind : HistoryKind) :
    (kind.history codec).names.find? "measured_at".toList =
      some (kind.history codec).time := by
  have hsnapshots : snapshotNames.find? "measured_at".toList =
      some .measuredAt := by decide +kernel
  have hqueues : queueNames.find? "measured_at".toList =
      some .measuredAt := by decide +kernel
  have hnetwork : networkMetricsNames.find? "measured_at".toList =
      some .measuredAt := by decide +kernel
  have hdatabase : databaseMetricsNames.find? "measured_at".toList =
      some .measuredAt := by decide +kernel
  have hsystem : systemMetricsNames.find? "measured_at".toList =
      some .measuredAt := by decide +kernel
  cases kind with
  | queues => exact hqueues
  | network => exact hnetwork
  | database => exact hdatabase
  | system => exact hsystem
  | _ => exact hsnapshots

/-- Without bounds all rows are asked for, in no order. -/
theorem planOf_unbounded (engine : Engine Json kind.schema)
    (names : Names kind.Column) :
    planOf engine names kind.table (compose
        (getByCondition kind.table [.text (historyWhere "" "")])) =
      some ⟨fun _ => true, none, none⟩ := by
  rw [planOf_of_parse engine names (parse_history_unbounded kind) rfl]
  rfl

theorem planOf_bounded (engine : Engine Json kind.schema)
    {fromTime toTime : String} (hfrom : IsBound fromTime)
    (hto : IsBound toTime) (hgiven : fromTime ≠ "" ∨ toTime ≠ "") :
    planOf engine (kind.history codec).names kind.table (compose
        (getByCondition kind.table [.text (historyWhere fromTime toTime)])) =
      none := by
  have hselection := selection_of_bounded (kind.history codec) engine
    (kind.find_measuredAt codec) hgiven []
  rw [planOf_of_parse engine _ (parse_history_bounded kind hfrom hto hgiven)
    rfl, Statement.plan]
  rw [List.nil_append] at hselection
  rw [hselection]
  rfl

/-- Without bounds the rows are read in whatever order the server gives them. -/
theorem getHistory_unbounded_iff (hconnected : store.isConnected = true)
    (engine : Engine Json kind.schema) (records : List kind.Record) :
    GetHistory codec mktime printTime kind engine store "" "" records ↔
      ∃ result : List (Row kind.Column Json),
        result.Perm store.table.rows ∧
          records = decodeRows ((kind.history codec).decodeThrough
            (readTimestamp mktime printTime)) result := by
  rw [GetHistory, readsByCondition_of_plan hconnected
    (planOf_unbounded engine _)]
  constructor
  · rintro ⟨result, ⟨arranged, harranged, hlimited⟩, hrecords⟩
    obtain rfl : result = arranged := hlimited
    have hperm := harranged.perm
    rw [List.filter_true] at hperm
    exact ⟨result, hperm, hrecords⟩
  · rintro ⟨result, hperm, hrecords⟩
    refine ⟨result, ⟨result, ⟨?_, ?_⟩, rfl⟩, hrecords⟩
    · rw [List.filter_true]
      exact hperm
    · exact List.pairwise_of_forall fun _ _ => rfl

/-- A history is right for every answer of the server exactly where it has
nothing to list, or is asked for without bounds and its rows survive the reader
and have one time. -/
theorem getHistory_right_iff (htyped : Typed codec store)
    (hconnected : store.isConnected = true) (engine : Engine Json kind.schema)
    {fromTime toTime : String} (hfrom : IsBound fromTime)
    (hto : IsBound toTime) :
    (∀ records,
      GetHistory codec mktime printTime kind engine store fromTime toTime
          records →
        (kind.history codec).Right (store.table.rows.filter fun row =>
          within fromTime toTime ((kind.history codec).timeAt row)) records) ↔
      store.table.rows.filter (fun row => within fromTime toTime
          ((kind.history codec).timeAt row)) = [] ∨
        fromTime = "" ∧ toTime = "" ∧
          (∀ row ∈ store.table.rows, (kind.history codec).Survives
            (readTimestamp mktime printTime) row) ∧
          ∀ first ∈ store.table.rows, ∀ second ∈ store.table.rows,
            (kind.history codec).timeAt first =
              (kind.history codec).timeAt second := by
  by_cases hgiven : fromTime ≠ "" ∨ toTime ≠ ""
  · refine (forall_reads_of_rejected (planOf_bounded engine hfrom hto hgiven)
      _).trans (History.right_nil_iff.trans (or_iff_left ?_).symm)
    rintro ⟨rfl, rfl, -⟩
    exact hgiven.elim (fun hne => hne rfl) fun hne => hne rfl
  · rw [not_or, not_not, not_not] at hgiven
    obtain ⟨rfl, rfl⟩ := hgiven
    simp only [within_unbounded, List.filter_true, true_and]
    rw [← History.right_forall_perm_iff htyped]
    exact History.right_of_reads_iff
      (getHistory_unbounded_iff hconnected engine) fun _ hperm => hperm

end

/-! ## Histories of an exchange -/

section

variable {Json : Type} {codec : Codec Json} {mktime : Tm → ℤ}
  {printTime : ℕ → PrintedTime}
  {referenced : ExchangeMetricsColumn → Datum Json → Bool}
  {store : Store Json exchangeMetricsHistory referenced}

def isOf (exchange : String) (row : Row ExchangeMetricsColumn Json) : Bool :=
  isText exchange.toList (row .exchangeName)

theorem find_snapshotTime :
    exchangeMetricsNames.find? "snapshot_time".toList = some .snapshotTime := by
  decide +kernel

theorem selection_exchange (engine : Engine Json exchangeMetricsHistory)
    (exchange : String) :
    selection engine exchangeMetricsNames
      (some [[.compare (.column "exchange_name".toList) ['=']
        (.text exchange.toList)]]) = some (isOf exchange) := by
  have hname : exchangeMetricsNames.find? "exchange_name".toList =
      some .exchangeName := by
    decide +kernel
  have htest := engine.test_text .exchangeName 50 exchange.toList rfl
  simp only [selection, List.map_cons, List.map_nil, Predicate.resolve,
    Operand.resolve, hname, Option.map_some, Option.bind_some, htest, allOrNone,
    Option.some.injEq]
  funext row
  simp [isOf]

theorem planOf_exchange_unbounded (engine : Engine Json exchangeMetricsHistory)
    {exchange : String} (hclean : Clean exchange) :
    planOf engine (exchangeHistoryOf codec).names "exchange_metrics_history"
        (compose (getExchangeHistory exchange "" "")) =
      some ⟨isOf exchange, some (.snapshotTime, false), none⟩ := by
  have hparse := parse_exchangeHistory hclean (Or.inl rfl) (Or.inl rfl)
  change planOf engine exchangeMetricsNames _ _ = _
  rw [planOf_of_parse engine _ hparse rfl, Statement.plan]
  change (selection engine exchangeMetricsNames (some [[_]])).bind _ = _
  rw [selection_exchange, Option.bind_some, ordering, find_snapshotTime]
  rfl

theorem planOf_exchange_bounded (engine : Engine Json exchangeMetricsHistory)
    {exchange fromTime toTime : String} (hclean : Clean exchange)
    (hfrom : IsBound fromTime) (hto : IsBound toTime)
    (hgiven : fromTime ≠ "" ∨ toTime ≠ "") :
    planOf engine (exchangeHistoryOf codec).names "exchange_metrics_history"
        (compose (getExchangeHistory exchange fromTime toTime)) = none := by
  have hselection := selection_of_bounded (exchangeHistoryOf codec) engine
    find_snapshotTime hgiven [.compare (.column "exchange_name".toList) ['=']
      (.text exchange.toList)]
  rw [planOf_of_parse engine _ (parse_exchangeHistory hclean hfrom hto) rfl,
    Statement.plan]
  rw [List.singleton_append] at hselection
  rw [hselection]
  rfl

theorem le_snapshotTime (htyped : Typed codec store)
    (engine : Engine Json exchangeMetricsHistory)
    {first second : Row ExchangeMetricsColumn Json}
    (hfirst : first ∈ store.table.rows) (hsecond : second ∈ store.table.rows) :
    engine.le (first .snapshotTime) (second .snapshotTime) =
      byKey (exchangeHistoryOf codec).timeAt first second := by
  obtain ⟨firstMs, hfirstMs⟩ := exists_timestamp
    (htyped first hfirst .snapshotTime)
    (isNull_of_notNull hfirst (by decide) rfl)
  obtain ⟨secondMs, hsecondMs⟩ := exists_timestamp
    (htyped second hsecond .snapshotTime)
    (isNull_of_notNull hsecond (by decide) rfl)
  rw [hfirstMs, hsecondMs, engine.le_timestamp, byKey, History.timeAt,
    History.timeAt]
  change _ = decide (rank (first .snapshotTime) ≤ rank (second .snapshotTime))
  rw [hfirstMs, hsecondMs]
  rfl

/-- Without bounds the rows of the exchange are read in the order of their
times. -/
theorem getExchangeHistory_unbounded_iff (htyped : Typed codec store)
    (hconnected : store.isConnected = true)
    (engine : Engine Json exchangeMetricsHistory) {exchange : String}
    (hclean : Clean exchange) (records : List ExchangeMetricsEntry) :
    GetExchangeHistory codec mktime printTime engine store exchange "" ""
        records ↔
      ∃ result, Arranges (byKey (exchangeHistoryOf codec).timeAt)
          (store.table.rows.filter (isOf exchange)) result ∧
        records = decodeRows ((exchangeHistoryOf codec).decodeThrough
          (readTimestamp mktime printTime)) result := by
  have hsame : ∀ first ∈ store.table.rows.filter (isOf exchange),
      ∀ second ∈ store.table.rows.filter (isOf exchange),
        engine.le (first .snapshotTime) (second .snapshotTime) =
          byKey (exchangeHistoryOf codec).timeAt first second :=
    fun first hfirst second hsecond => le_snapshotTime htyped engine
      (List.mem_of_mem_filter hfirst) (List.mem_of_mem_filter hsecond)
  rw [GetExchangeHistory, readsByCondition_of_plan hconnected
    (planOf_exchange_unbounded engine hclean)]
  constructor
  · rintro ⟨result, ⟨arranged, harranged, hlimited⟩, hrecords⟩
    obtain rfl : result = arranged := hlimited
    exact ⟨result, harranged.congr hsame, hrecords⟩
  · rintro ⟨result, hresult, hrecords⟩
    refine ⟨result, ⟨result, hresult.congr ?_, rfl⟩, hrecords⟩
    exact fun first hfirst second hsecond =>
      (hsame first hfirst second hsecond).symm

/-- The history of an exchange has an order, so it is right where it has nothing
to list or is asked for without bounds and its rows survive the reader. -/
theorem getExchangeHistory_right_iff (htyped : Typed codec store)
    (hconnected : store.isConnected = true)
    (engine : Engine Json exchangeMetricsHistory)
    {exchange fromTime toTime : String} (hclean : Clean exchange)
    (hfrom : IsBound fromTime) (hto : IsBound toTime) :
    (∀ records,
      GetExchangeHistory codec mktime printTime engine store exchange fromTime
          toTime records →
        (exchangeHistoryOf codec).Right (store.table.rows.filter fun row =>
          isOf exchange row && within fromTime toTime
            ((exchangeHistoryOf codec).timeAt row)) records) ↔
      store.table.rows.filter (fun row => isOf exchange row &&
          within fromTime toTime ((exchangeHistoryOf codec).timeAt row)) = [] ∨
        fromTime = "" ∧ toTime = "" ∧
          ∀ row ∈ store.table.rows, isOf exchange row = true →
            (exchangeHistoryOf codec).Survives
              (readTimestamp mktime printTime) row := by
  by_cases hgiven : fromTime ≠ "" ∨ toTime ≠ ""
  · refine (forall_reads_of_rejected (planOf_exchange_bounded engine hclean
      hfrom hto hgiven) _).trans
        (History.right_nil_iff.trans (or_iff_left ?_).symm)
    rintro ⟨rfl, rfl, -⟩
    exact hgiven.elim (fun hne => hne rfl) fun hne => hne rfl
  · rw [not_or, not_not, not_not] at hgiven
    obtain ⟨rfl, rfl⟩ := hgiven
    have hrows : ∀ row ∈ store.table.rows.filter (isOf exchange),
        TypedRow codec exchangeMetricsHistory row :=
      fun row hrow => htyped row (List.mem_of_mem_filter hrow)
    have hsurvive : (∀ row ∈ store.table.rows, isOf exchange row = true →
          (exchangeHistoryOf codec).Survives
            (readTimestamp mktime printTime) row) ↔
        ∀ row ∈ store.table.rows.filter (isOf exchange),
          (exchangeHistoryOf codec).Survives
            (readTimestamp mktime printTime) row := by
      simp only [List.mem_filter, and_imp]
    simp only [within_unbounded, Bool.and_true, true_and]
    rw [hsurvive, ← History.right_forall_arranged_iff hrows]
    exact History.right_of_reads_iff
      (getExchangeHistory_unbounded_iff htyped hconnected engine hclean)
      fun _ hresult => hresult.perm

end

/-- When the histories are right for every content of their tables and every
answer of the server. -/
theorem histories_right_iff {Json : Type} (codec : Codec Json)
    (mktime : Tm → ℤ) (printTime : ℕ → PrintedTime)
    {fromTime toTime : String} (hfrom : IsBound fromTime)
    (hto : IsBound toTime) :
    (∀ (kind : HistoryKind) (referenced : kind.Column → Datum Json → Bool)
      (store : Store Json kind.schema referenced)
      (engine : Engine Json kind.schema),
      Typed codec store → store.isConnected = true →
        ((∀ records,
          GetHistory codec mktime printTime kind engine store fromTime toTime
              records →
            (kind.history codec).Right (store.table.rows.filter fun row =>
              within fromTime toTime ((kind.history codec).timeAt row))
              records) ↔
          store.table.rows.filter (fun row => within fromTime toTime
              ((kind.history codec).timeAt row)) = [] ∨
            fromTime = "" ∧ toTime = "" ∧
              (∀ row ∈ store.table.rows, (kind.history codec).Survives
                (readTimestamp mktime printTime) row) ∧
              ∀ first ∈ store.table.rows, ∀ second ∈ store.table.rows,
                (kind.history codec).timeAt first =
                  (kind.history codec).timeAt second)) ∧
    ∀ (referenced : ExchangeMetricsColumn → Datum Json → Bool)
      (store : Store Json exchangeMetricsHistory referenced)
      (engine : Engine Json exchangeMetricsHistory) (exchange : String),
      Typed codec store → store.isConnected = true → Clean exchange →
        ((∀ records,
          GetExchangeHistory codec mktime printTime engine store exchange
              fromTime toTime records →
            (exchangeHistoryOf codec).Right (store.table.rows.filter fun row =>
              isOf exchange row && within fromTime toTime
                ((exchangeHistoryOf codec).timeAt row)) records) ↔
          store.table.rows.filter (fun row => isOf exchange row &&
              within fromTime toTime
                ((exchangeHistoryOf codec).timeAt row)) = [] ∨
            fromTime = "" ∧ toTime = "" ∧
              ∀ row ∈ store.table.rows, isOf exchange row = true →
                (exchangeHistoryOf codec).Survives
                  (readTimestamp mktime printTime) row) :=
  ⟨fun _ _ _ engine htyped hconnected =>
      getHistory_right_iff htyped hconnected engine hfrom hto,
    fun _ _ engine _ htyped hconnected hclean =>
      getExchangeHistory_right_iff htyped hconnected engine hclean hfrom hto⟩

/-! ## One snapshot -/

/-- A snapshot without metrics. -/
def bareSnapshot : FeedMetricsSnapshot where
  id := 1
  instanceId := "live-1"
  measuredAt := 1700000000000
  metrics _ := none

def bareStore : Store String HistoryKind.metrics.schema fun _ _ => true where
  table :=
    { rows := [fun column =>
        stored plainCodec (feedMetricsSnapshots.sqlType column)
          (bareSnapshot.field column)]
      valid := by decide +kernel }
  isConnected := true
  prepared := true

theorem metric_bareSnapshot (column : MetricColumn) :
    bareSnapshot.field (.metric column) = .null :=
  appendMetric_none column.kind

theorem typed_bareStore : Typed plainCodec bareStore := by
  intro row hrow column
  obtain rfl := List.mem_singleton.mp hrow
  refine ⟨bareSnapshot.field column, ?_⟩
  cases column with
  | metric column =>
      change Sql.store plainCodec column.sqlType
          (bareSnapshot.field (.metric column)) =
        some (stored plainCodec column.sqlType
          (bareSnapshot.field (.metric column)))
      rw [metric_bareSnapshot]
      exact store_eq_stored trivial
  | _ => decide +kernel

theorem survives_bareSnapshot : ∀ row ∈ bareStore.table.rows,
    (HistoryKind.metrics.history plainCodec).Survives
      (readTimestamp (mktime utc) timestamptzText) row := by
  intro row hrow
  obtain rfl := List.mem_singleton.mp hrow
  refine ⟨?_, by decide +kernel, ?_⟩
  · intro column hrequired
    cases column with
    | metric column => cases hrequired
    | _ => decide +kernel
  · rintro ⟨key, column⟩ _ hunread
    cases column with
    | metric column =>
        change (stored plainCodec column.sqlType
          (bareSnapshot.field (.metric column))).isNull = true
        rw [metric_bareSnapshot, stored_null]
        rfl
    | _ => cases hunread

def binanceEntry : ExchangeMetricsEntry where
  id := 1
  instanceId := "live-1"
  exchangeName := "binance"
  snapshotTime := 1700000000000
  connected := true
  uptimeSeconds := some 3600
  reconnectCount := some 2
  heartbeatFailures := none
  websocketDisconnects := none
  messagesReceived := some 125000
  messagesDropped := some 3
  parseErrors := some 0
  feedLagMs := some (17 / 2)
  exchangeLatencyMs := some 12
  stale := false

def binanceStore : Store String exchangeMetricsHistory fun _ _ => true where
  table :=
    { rows := [fun column =>
        stored plainCodec (exchangeMetricsHistory.sqlType column)
          (binanceEntry.field column)]
      valid := by decide +kernel }
  isConnected := true
  prepared := true

theorem typed_binanceStore : Typed plainCodec binanceStore := by
  intro row hrow column
  obtain rfl := List.mem_singleton.mp hrow
  refine ⟨binanceEntry.field column, ?_⟩
  cases column <;> decide +kernel

theorem survives_binanceEntry : ∀ row ∈ binanceStore.table.rows,
    (exchangeHistoryOf plainCodec).Survives
      (readTimestamp (mktime utc) timestamptzText) row := by
  intro row hrow
  obtain rfl := List.mem_singleton.mp hrow
  refine ⟨?_, by decide +kernel, fun _ _ hunread => nomatch hunread⟩
  intro column hrequired
  cases column <;> first | decide +kernel | cases hrequired

/-- Asked for without bounds, both are shown. -/
theorem histories_right_one :
    (∀ records,
      GetHistory plainCodec (mktime utc) timestamptzText .metrics
          (plainEngine String HistoryKind.metrics.schema) bareStore "" ""
          records →
        (HistoryKind.metrics.history plainCodec).Right
          (bareStore.table.rows.filter fun row => within "" ""
            ((HistoryKind.metrics.history plainCodec).timeAt row)) records) ∧
    ∀ records,
      GetExchangeHistory plainCodec (mktime utc) timestamptzText
          (plainEngine String exchangeMetricsHistory) binanceStore "binance" ""
          "" records →
        (exchangeHistoryOf plainCodec).Right
          (binanceStore.table.rows.filter fun row => isOf "binance" row &&
            within "" "" ((exchangeHistoryOf plainCodec).timeAt row))
          records := by
  obtain ⟨hmetrics, hexchange⟩ := histories_right_iff plainCodec (mktime utc)
    timestamptzText (Or.inl rfl) (Or.inl rfl)
  constructor
  · refine (hmetrics .metrics _ bareStore _ typed_bareStore rfl).mpr
      (Or.inr ⟨rfl, rfl, survives_bareSnapshot, ?_⟩)
    intro first hfirst second hsecond
    rw [List.mem_singleton.mp hfirst, List.mem_singleton.mp hsecond]
  · refine (hexchange _ binanceStore _ "binance" typed_binanceStore rfl
      (by decide)).mpr (Or.inr ⟨rfl, rfl, ?_⟩)
    exact fun row hrow _ => survives_binanceEntry row hrow

/-- With a bound that both meet, neither is. -/
theorem not_histories_right :
    (¬ ∀ records,
      GetHistory plainCodec (mktime utc) timestamptzText .metrics
          (plainEngine String HistoryKind.metrics.schema) bareStore "1000" ""
          records →
        (HistoryKind.metrics.history plainCodec).Right
          (bareStore.table.rows.filter fun row => within "1000" ""
            ((HistoryKind.metrics.history plainCodec).timeAt row)) records) ∧
    ¬ ∀ records,
      GetExchangeHistory plainCodec (mktime utc) timestamptzText
          (plainEngine String exchangeMetricsHistory) binanceStore "binance"
          "1000" "" records →
        (exchangeHistoryOf plainCodec).Right
          (binanceStore.table.rows.filter fun row => isOf "binance" row &&
            within "1000" "" ((exchangeHistoryOf plainCodec).timeAt row))
          records := by
  have hbound : IsBound "1000" := Or.inr (by decide +kernel)
  constructor
  · rw [getHistory_right_iff typed_bareStore rfl _ hbound (Or.inl rfl)]
    rintro (hempty | ⟨hnone, -⟩)
    · have hlisted : (bareStore.table.rows.filter fun row => within "1000" ""
          ((HistoryKind.metrics.history plainCodec).timeAt row)).length = 1 := by
        decide +kernel
      rw [hempty] at hlisted
      cases hlisted
    · exact absurd hnone (by decide)
  · rw [getExchangeHistory_right_iff typed_binanceStore rfl _ (by decide)
      hbound (Or.inl rfl)]
    rintro (hempty | ⟨hnone, -⟩)
    · have hlisted : (binanceStore.table.rows.filter fun row =>
          isOf "binance" row && within "1000" ""
            ((exchangeHistoryOf plainCodec).timeAt row)).length = 1 := by
        decide +kernel
      rw [hempty] at hlisted
      cases hlisted
    · exact absurd hnone (by decide)

end Datafeed.Api
