import Datafeed.Storage.Alerts
import Datafeed.Storage.AuditLog
import Datafeed.Storage.Clients
import Datafeed.Storage.FeedMetrics
import Datafeed.Storage.History
import Datafeed.Storage.Operations

/-!
# Committed rows and returned records

Every `create_*` commits before it decodes what the statement returned, and an
exception of the decoder looks like one of the statement.  A `create_*` is
atomic where the decoder reads every row the statement can have inserted.
-/

namespace Datafeed.Storage

open Sql

section Adapter

variable {Column Json Record : Type} {schema : Schema Column}
  {referenced : Column → Datum Json → Bool}

/-- One more row is in the table. -/
def Committed (before after : Store Json schema referenced) : Prop :=
  ∃ row, after.table.rows = before.table.rows ++ [row]

/-- A `create_*` returns a record exactly when it has committed a row, and
without a record it has left the database as it was. -/
structure CommitsAtomically (before : Store Json schema referenced)
    (result : Option Record × Store Json schema referenced) : Prop where
  returned_iff : result.1.isSome ↔ Committed before result.2
  unchanged : result.1 = none → result.2 = before

theorem not_committed_self (store : Store Json schema referenced) :
    ¬ Committed store store := by
  rintro ⟨row, hrow⟩
  have hlength := congrArg List.length hrow
  rw [List.length_append, List.length_singleton] at hlength
  omega

theorem commitsAtomically_none (store : Store Json schema referenced) :
    CommitsAtomically store ((none : Option Record), store) where
  returned_iff := iff_of_false Bool.false_ne_true (not_committed_self store)
  unchanged _ := rfl

variable [DecidableEq Column] [DecidableEq Json] {codec : Codec Json}

/-- The server rejects the row, and the exception rolls the transaction
back. -/
def Rejects (codec : Codec Json) (store : Store Json schema referenced)
    (supply : Supply) (statement : InsertStatement Column)
    (params : List Param) : Prop :=
  ∃ error, store.table.execInsert codec supply statement params = .error error

/-- After an `INSERT` that is not rejected all depends on the decoder. -/
theorem commitsAtomically_inserted_iff {store : Store Json schema referenced}
    {supply : Supply} {statement : InsertStatement Column}
    {params : List Param} {row : Row Column Json}
    {table : Table Json schema referenced}
    (hexec : store.table.execInsert codec supply statement params =
      .ok (row, table)) (record : Option Record) :
    CommitsAtomically store (record, { store with table := table }) ↔
      record.isSome := by
  obtain ⟨-, -, hrows⟩ := Table.of_execInsert_ok hexec
  have hcommitted : Committed store { store with table := table } :=
    ⟨row, hrows⟩
  constructor
  · intro hatomic
    exact hatomic.returned_iff.mpr hcommitted
  · intro hsome
    refine ⟨iff_of_true hsome hcommitted, fun hnone => ?_⟩
    change record = none at hnone
    rw [hnone] at hsome
    cases hsome

theorem createByText_commitsAtomically_iff
    {store : Store Json schema referenced} {supply : Supply}
    {statement : InsertStatement Column} {params : List Param}
    {withKey : Row Column Json → Option Record} {decodes : Prop}
    (hdecodes : ∀ row table,
      store.table.execInsert codec supply statement params =
        .ok (row, table) → ((withKey row).isSome ↔ decodes)) :
    CommitsAtomically store
        (createByText codec store supply statement params withKey) ↔
      store.isConnected = false ∨ Rejects codec store supply statement params ∨
        decodes := by
  rw [createByText]
  split
  · next hclosed =>
      exact iff_of_true (commitsAtomically_none store) (Or.inl hclosed)
  · next hopen =>
      split
      · next error herror =>
          exact iff_of_true (commitsAtomically_none store)
            (Or.inr (Or.inl ⟨error, herror⟩))
      · next row table hexec =>
          rw [commitsAtomically_inserted_iff hexec, hdecodes row table hexec]
          constructor
          · exact fun hdecoded => Or.inr (Or.inr hdecoded)
          · rintro (hclosed | ⟨error, herror⟩ | hdecoded)
            · exact absurd hclosed hopen
            · rw [hexec] at herror
              cases herror
            · exact hdecoded

/-- A prepared statement runs like the text of one. -/
theorem create_eq_createByText {store : Store Json schema referenced}
    (hprepared : store.prepared = true) (supply : Supply)
    (statement : InsertStatement Column) (params : List Param)
    (withKey : Row Column Json → Option Record) :
    create codec store supply statement params withKey =
      createByText codec store supply statement params withKey := by
  have hguard : store.isConnected = false ∨ store.prepared = false ↔
      store.isConnected = false := by
    simp [hprepared]
  rw [create, createByText]
  exact if_congr hguard rfl rfl

theorem create_commitsAtomically_iff
    {store : Store Json schema referenced} {supply : Supply}
    {statement : InsertStatement Column} {params : List Param}
    {withKey : Row Column Json → Option Record} {decodes : Prop}
    (hdecodes : ∀ row table,
      store.table.execInsert codec supply statement params =
        .ok (row, table) → ((withKey row).isSome ↔ decodes)) :
    CommitsAtomically store
        (create codec store supply statement params withKey) ↔
      store.prepared = false ∨ store.isConnected = false ∨
        Rejects codec store supply statement params ∨ decodes := by
  cases hprepared : store.prepared with
  | false =>
      apply iff_of_true _ (Or.inl rfl)
      rw [create, if_pos (Or.inr hprepared)]
      exact commitsAtomically_none store
  | true =>
      rw [create_eq_createByText hprepared,
        createByText_commitsAtomically_iff hdecodes]
      simp

/-- A `create_*` by text whose decoder reads every inserted row. -/
theorem createByText_commitsAtomically {store : Store Json schema referenced}
    {supply : Supply} {statement : InsertStatement Column}
    {params : List Param} {withKey : Row Column Json → Option Record}
    (hdecodes : ∀ row table,
      store.table.execInsert codec supply statement params =
        .ok (row, table) → (withKey row).isSome) :
    CommitsAtomically store
      (createByText codec store supply statement params withKey) := by
  have hiff : CommitsAtomically store
        (createByText codec store supply statement params withKey) ↔ _ :=
    createByText_commitsAtomically_iff fun row table hexec =>
      iff_of_true (hdecodes row table hexec) trivial
  exact hiff.mpr (Or.inr (Or.inr trivial))

/-- A `create_*` whose decoder reads every inserted row. -/
theorem create_commitsAtomically {store : Store Json schema referenced}
    {supply : Supply} {statement : InsertStatement Column}
    {params : List Param} {withKey : Row Column Json → Option Record}
    (hdecodes : ∀ row table,
      store.table.execInsert codec supply statement params =
        .ok (row, table) → (withKey row).isSome) :
    CommitsAtomically store
      (create codec store supply statement params withKey) := by
  cases hprepared : store.prepared with
  | false =>
      rw [create, if_pos (Or.inr hprepared)]
      exact commitsAtomically_none store
  | true =>
      rw [create_eq_createByText hprepared]
      exact createByText_commitsAtomically hdecodes

/-! ## Keys of inserted rows -/

omit [DecidableEq Json] in
theorem stored_of_isTextual {sqlType : SqlType} (htextual : sqlType.IsTextual)
    (param : Param) :
    stored codec sqlType param = .null ∨
      ∃ value, stored codec sqlType param = .text value := by
  cases param with
  | null => exact Or.inl (stored_null sqlType)
  | text text =>
      rw [stored]
      cases hstore : Sql.store codec sqlType (.text text) with
      | none => exact Or.inl rfl
      | some datum => exact Or.inr (text_of_store htextual hstore)
  | _ => cases sqlType <;> first | exact htextual.elim | exact Or.inl rfl

/-- A mandatory text column of an inserted row holds a text. -/
theorem isSome_asString_of_execInsert {store : Store Json schema referenced}
    {supply : Supply} {statement : InsertStatement Column}
    {params : List Param} {column : Column} (hcolumn : column ∈ schema.columns)
    (hnotNull : schema.notNull column = true)
    (htextual : (schema.sqlType column).IsTextual)
    (hdefault : schema.default column ≠ .serial) {row : Row Column Json}
    {table : Table Json schema referenced}
    (hexec : store.table.execInsert codec supply statement params =
      .ok (row, table)) : ((row column).asString codec).isSome := by
  obtain ⟨hrow, hrespects, -⟩ := Table.of_execInsert_ok hexec
  have hpresent := (hrespects column hcolumn).notNull hnotNull
  have hdatum : row column = .null ∨ ∃ value, row column = .text value := by
    rw [hrow, boundRow]
    split
    · next param _ => exact stored_of_isTextual htextual param
    · rw [defaultDatum]
      split
      · exact Or.inl rfl
      · next hserial => exact absurd hserial hdefault
      · exact Or.inr ⟨_, rfl⟩
  rcases hdatum with hnull | ⟨value, htext⟩
  · rw [hnull] at hpresent
    cases hpresent
  · rw [htext]
    rfl

/-- A generated number that the statement leaves out is read back. -/
theorem isSome_asInt64_of_execInsert {store : Store Json schema referenced}
    {supply : Supply} {statement : InsertStatement Column}
    {params : List Param} {column : Column}
    (homitted : column ∉ statement.columns)
    (hdefault : schema.default column = .serial) {row : Row Column Json}
    {table : Table Json schema referenced}
    (hexec : store.table.execInsert codec supply statement params =
      .ok (row, table)) : (row column).asInt64.isSome := by
  rw [Table.default_of_execInsert_ok hexec homitted, defaultDatum, hdefault]
  rfl

end Adapter

/-! ## The operations -/

section Operations

/-- A call of a `create_*`: the table and the connection it finds, what the
server makes up, and the record. -/
inductive Creation (Json : Type)
  | client {referenced : ClientColumn → Datum Json → Bool}
      (store : Store Json clients referenced) (supply : Supply)
      (time : ServerTime) (c : Client)
  | session {referenced : SessionColumn → Datum Json → Bool}
      (store : Store Json sessions referenced) (supply : Supply) (s : Session)
  | feedInstance {referenced : FeedInstanceColumn → Datum Json → Bool}
      (store : Store Json feedInstances referenced) (supply : Supply)
      (feed : FeedInstance)
  | feedMetricsSnapshot {referenced : SnapshotColumn → Datum Json → Bool}
      (store : Store Json feedMetricsSnapshots referenced) (supply : Supply)
      (s : FeedMetricsSnapshot)
  | subscription {referenced : SubscriptionColumn → Datum Json → Bool}
      (store : Store Json subscriptions referenced) (supply : Supply)
      (sub : Subscription)
  | feedEvent {referenced : FeedEventColumn → Datum Json → Bool}
      (store : Store Json feedEvents referenced) (supply : Supply)
      (ev : FeedEvent)
  | apiRequest {referenced : ApiRequestColumn → Datum Json → Bool}
      (store : Store Json apiRequests referenced) (supply : Supply)
      (req : ApiRequest)
  | exchangeHealth {referenced : ExchangeHealthColumn → Datum Json → Bool}
      (store : Store Json exchangeHealthTable referenced) (supply : Supply)
      (h : ExchangeHealth)
  | backtestJob {referenced : BacktestJobColumn → Datum Json → Bool}
      (store : Store Json backtestJobs referenced) (supply : Supply)
      (job : BacktestJob)
  | configVersion {referenced : ConfigVersionColumn → Datum Json → Bool}
      (store : Store Json configVersions referenced) (supply : Supply)
      (cfg : ConfigVersion)
  | exchangeMetricsEntry
      {referenced : ExchangeMetricsColumn → Datum Json → Bool}
      (store : Store Json exchangeMetricsHistory referenced)
      (supply : Supply) (e : ExchangeMetricsEntry)
  | queueEntry {referenced : QueueColumn → Datum Json → Bool}
      (store : Store Json queueHistory referenced) (supply : Supply)
      (e : QueueEntry)
  | systemMetricsEntry {referenced : SystemMetricsColumn → Datum Json → Bool}
      (store : Store Json systemMetricsHistory referenced) (supply : Supply)
      (e : SystemMetricsEntry)
  | networkMetricsEntry
      {referenced : NetworkMetricsColumn → Datum Json → Bool}
      (store : Store Json networkMetricsHistory referenced) (supply : Supply)
      (e : NetworkMetricsEntry)
  | databaseMetricsEntry
      {referenced : DatabaseMetricsColumn → Datum Json → Bool}
      (store : Store Json databaseMetricsHistory referenced)
      (supply : Supply) (e : DatabaseMetricsEntry)
  | alert {referenced : AlertColumn → Datum Json → Bool}
      (store : Store Json alerts referenced) (supply : Supply) (a : Alert)
  | metricThreshold {referenced : ThresholdColumn → Datum Json → Bool}
      (store : Store Json metricThresholds referenced) (supply : Supply)
      (time : ServerTime) (t : MetricThreshold)
  | weeklyMetricsSummary {referenced : SummaryColumn → Datum Json → Bool}
      (store : Store Json weeklyMetricsSummary referenced) (supply : Supply)
      (s : WeeklyMetricsSummary)

variable {Json : Type} [DecidableEq Json] (codec : Codec Json)
  (mktime : Tm → ℤ) (isInet : String → Bool)

/-- The call returns a record exactly when it commits a row, and changes
nothing otherwise. -/
def Creation.Atomic : Creation Json → Prop
  | .client store supply time c =>
      CommitsAtomically store
        (createClient codec mktime isInet store supply time c)
  | .session store supply s =>
      CommitsAtomically store (createSession codec store supply s)
  | .feedInstance store supply feed =>
      CommitsAtomically store (createFeedInstance codec store supply feed)
  | .feedMetricsSnapshot store supply s =>
      CommitsAtomically store (createFeedMetricsSnapshot codec store supply s)
  | .subscription store supply sub =>
      CommitsAtomically store (createSubscription codec store supply sub)
  | .feedEvent store supply ev =>
      CommitsAtomically store (createFeedEvent codec store supply ev)
  | .apiRequest store supply req =>
      CommitsAtomically store (createApiRequest codec store supply req)
  | .exchangeHealth store supply h =>
      CommitsAtomically store (createExchangeHealth codec store supply h)
  | .backtestJob store supply job =>
      CommitsAtomically store (createBacktestJob codec store supply job)
  | .configVersion store supply cfg =>
      CommitsAtomically store (createConfigVersion codec store supply cfg)
  | .exchangeMetricsEntry store supply e =>
      CommitsAtomically store (createExchangeMetricsEntry codec store supply e)
  | .queueEntry store supply e =>
      CommitsAtomically store (createQueueEntry codec store supply e)
  | .systemMetricsEntry store supply e =>
      CommitsAtomically store (createSystemMetricsEntry codec store supply e)
  | .networkMetricsEntry store supply e =>
      CommitsAtomically store (createNetworkMetricsEntry codec store supply e)
  | .databaseMetricsEntry store supply e =>
      CommitsAtomically store (createDatabaseMetricsEntry codec store supply e)
  | .alert store supply a =>
      CommitsAtomically store (createAlert codec store supply a)
  | .metricThreshold store supply time t =>
      CommitsAtomically store
        (createMetricThreshold mktime codec store supply time t)
  | .weeklyMetricsSummary store supply s =>
      CommitsAtomically store (createWeeklyMetricsSummary codec store supply s)

/-- A threshold is not inserted at all; a client is not inserted, or
`string_to_timestamp` reads the text of `NOW()`. -/
def Creation.Safe : Creation Json → Prop
  | .client store supply time c =>
      BadAddress isInet c ∨ store.isConnected = false ∨
        Rejects codec store supply insertClient (createClientParams time c) ∨
        (stringToTimestamp mktime time.text).isSome
  | .metricThreshold store supply time t =>
      store.prepared = false ∨ store.isConnected = false ∨
        Rejects codec store supply insertMetricThreshold
          (createMetricThresholdParams time t)
  | _ => True

variable {codec mktime isInet}

omit [DecidableEq Json] in
/-- The columns that a client reads back are texts and times. -/
theorem isSome_withClientKey_iff {time : ServerTime} {c : Client}
    {row : Row ClientColumn Json}
    (htenant : ((row .tenantId).asString codec).isSome)
    (hcreated : time.asString (row .createdAt) = some time.text)
    (hupdated : time.asString (row .updatedAt) = some time.text) :
    (withClientKey codec mktime time c row).isSome ↔
      (stringToTimestamp mktime time.text).isSome := by
  obtain ⟨tenantId, htenantId⟩ := Option.isSome_iff_exists.mp htenant
  have hreturned (column : ClientColumn) (hlisted : column ∈ clientReturning) :
      returnedField clientReturning row column = some (row column) :=
    if_pos hlisted
  simp only [withClientKey, hreturned .tenantId (by decide),
    hreturned .createdAt (by decide), hreturned .updatedAt (by decide),
    Option.bind_eq_bind, Option.bind_some, htenantId, hcreated, hupdated]
  cases stringToTimestamp mktime time.text with
  | none => rfl
  | some value => exact iff_of_true rfl rfl

theorem createClient_commitsAtomically_iff
    {referenced : ClientColumn → Datum Json → Bool}
    (store : Store Json clients referenced) (supply : Supply)
    (time : ServerTime) (c : Client) :
    CommitsAtomically store
        (createClient codec mktime isInet store supply time c) ↔
      BadAddress isInet c ∨ store.isConnected = false ∨
        Rejects codec store supply insertClient (createClientParams time c) ∨
        (stringToTimestamp mktime time.text).isSome := by
  rw [createClient]
  split
  · next hbad =>
      exact iff_of_true (commitsAtomically_none store) (Or.inl hbad)
  · next hgood =>
      have hdecodes : ∀ row table, store.table.execInsert codec supply
          insertClient (createClientParams time c) = .ok (row, table) →
            ((withClientKey codec mktime time c row).isSome ↔
              (stringToTimestamp mktime time.text).isSome) := by
        intro row table hexec
        obtain ⟨hrow, -, -⟩ := Table.of_execInsert_ok hexec
        have htextual : (clients.sqlType .tenantId).IsTextual := trivial
        have htenant : ((row .tenantId).asString codec).isSome :=
          isSome_asString_of_execInsert (by decide) rfl htextual (by decide)
            hexec
        have hcreated : row .createdAt = .timestamp time.now := by
          rw [hrow]
          rfl
        have hupdated : row .updatedAt = .timestamp time.now := by
          rw [hrow]
          rfl
        apply isSome_withClientKey_iff htenant
        · rw [hcreated]
          rfl
        · rw [hupdated]
          rfl
      rw [createByText_commitsAtomically_iff hdecodes, or_iff_right hgood]

omit [DecidableEq Json] in
/-- The decoder of a threshold asks for columns that are not returned. -/
theorem withThresholdKey_eq_none (time : ServerTime) (t : MetricThreshold)
    (row : Row ThresholdColumn Json) :
    withThresholdKey mktime time t row = none := by
  have hmissing : returnedField thresholdReturning row .createdAt = none :=
    if_neg (by decide)
  simp only [withThresholdKey, hmissing, Option.bind_eq_bind,
    Option.bind_none, Option.bind_fun_none]

theorem createMetricThreshold_commitsAtomically_iff
    {referenced : ThresholdColumn → Datum Json → Bool}
    (store : Store Json metricThresholds referenced) (supply : Supply)
    (time : ServerTime) (t : MetricThreshold) :
    CommitsAtomically store
        (createMetricThreshold mktime codec store supply time t) ↔
      store.prepared = false ∨ store.isConnected = false ∨
        Rejects codec store supply insertMetricThreshold
          (createMetricThresholdParams time t) := by
  have hdecodes (row : Row ThresholdColumn Json) :
      (withThresholdKey mktime time t row).isSome ↔ False := by
    rw [withThresholdKey_eq_none]
    exact iff_of_false Bool.false_ne_true not_false
  rw [createMetricThreshold,
    create_commitsAtomically_iff fun row _ _ => hdecodes row, or_false]

/-- A record whose key is a text that the statement returns. -/
theorem create_commitsAtomically_text {Column Record : Type}
    [DecidableEq Column] {schema : Schema Column}
    {referenced : Column → Datum Json → Bool}
    {store : Store Json schema referenced} {supply : Supply}
    {statement : InsertStatement Column} {params : List Param}
    {withKey : String → Record} {key : Column} (hkey : key ∈ schema.columns)
    (hnotNull : schema.notNull key = true)
    (htextual : (schema.sqlType key).IsTextual)
    (hdefault : schema.default key ≠ .serial) :
    CommitsAtomically store
      (create codec store supply statement params fun row =>
        ((row key).asString codec).map withKey) := by
  apply create_commitsAtomically
  intro row table hexec
  rw [Option.isSome_map]
  exact isSome_asString_of_execInsert hkey hnotNull htextual hdefault hexec

/-- A record whose key is a generated number. -/
theorem create_commitsAtomically_serial {Column Record : Type}
    [DecidableEq Column] {schema : Schema Column}
    {referenced : Column → Datum Json → Bool}
    {store : Store Json schema referenced} {supply : Supply}
    {statement : InsertStatement Column} {params : List Param}
    {withKey : ℤ → Record} {key : Column} (homitted : key ∉ statement.columns)
    (hdefault : schema.default key = .serial) :
    CommitsAtomically store
      (create codec store supply statement params fun row =>
        (row key).asInt64.map withKey) := by
  apply create_commitsAtomically
  intro row table hexec
  rw [Option.isSome_map]
  exact isSome_asInt64_of_execInsert homitted hdefault hexec

end Operations

/-! ## A committed threshold -/

def latencyThreshold : MetricThreshold where
  id := 0
  instanceId := "live-1"
  metricName := "p95_latency_ms"
  source := "feed"
  warningThreshold := some 100
  criticalThreshold := some 250
  op := "gt"
  enabled := true
  cooldownSeconds := some 300
  createdAt := 0
  updatedAt := 0

def newYear : ServerTime where
  now := 1767225600000
  text := "2026-01-01 00:00:00+00"

end Datafeed.Storage
