import Datafeed.Storage.Adapter

/-!
# Exchange health, backtest jobs and configuration versions

The record types of the adapter that are created and read by key, without an
update.
-/

namespace Datafeed.Storage

open Sql

/-! ## Exchange health -/

inductive ExchangeHealthColumn
  | id
  | exchangeName
  | endpoint
  | status
  | lastSuccessAt
  | lastErrorAt
  | errorCount
  | rateLimitHits
  | latencyMs
  | symbolsActive
  | feedLagMs
  | checkedAt
  deriving DecidableEq

def exchangeHealthTable : Schema ExchangeHealthColumn where
  columns :=
    [.id, .exchangeName, .endpoint, .status, .lastSuccessAt, .lastErrorAt,
      .errorCount, .rateLimitHits, .latencyMs, .symbolsActive, .feedLagMs,
      .checkedAt]
  sqlType
    | .id => .int8
    | .exchangeName | .status => .varchar 20
    | .endpoint => .varchar 255
    | .lastSuccessAt | .lastErrorAt | .checkedAt => .timestamptz
    | .errorCount | .rateLimitHits | .symbolsActive => .int4
    | .latencyMs | .feedLagMs => .float8
  default
    | .id => .serial
    | _ => .null
  notNull
    | .id | .exchangeName | .checkedAt => true
    | _ => false
  allowed _ := none
  references _ := false
  unique := [[.id]]

structure ExchangeHealth where
  id : ℤ
  exchangeName : String
  endpoint : Option String
  status : String
  lastSuccessAt : Option ℕ
  lastErrorAt : Option ℕ
  errorCount : Option ℤ
  rateLimitHits : Option ℤ
  latencyMs : Option ℚ
  symbolsActive : Option ℤ
  feedLagMs : Option ℤ
  checkedAt : ℕ

/-- The field named like a column, as a parameter. -/
def ExchangeHealth.field (health : ExchangeHealth) :
    ExchangeHealthColumn → Param
  | .id => .integer health.id
  | .exchangeName => .text health.exchangeName
  | .endpoint => appendOpt .text health.endpoint
  | .status => .text health.status
  | .lastSuccessAt => appendOpt .timestamp health.lastSuccessAt
  | .lastErrorAt => appendOpt .timestamp health.lastErrorAt
  | .errorCount => appendOpt .integer health.errorCount
  | .rateLimitHits => appendOpt .integer health.rateLimitHits
  | .latencyMs => appendOpt .double health.latencyMs
  | .symbolsActive => appendOpt .integer health.symbolsActive
  | .feedLagMs => appendOpt .integer health.feedLagMs
  | .checkedAt => .timestamp health.checkedAt

def insertExchangeHealth : InsertStatement ExchangeHealthColumn where
  columns :=
    [.exchangeName, .endpoint, .status, .lastSuccessAt, .lastErrorAt,
      .errorCount, .rateLimitHits, .latencyMs, .symbolsActive, .feedLagMs,
      .checkedAt]
  placeholders := placeholdersUpTo 11

/-- What `create_exchange_health` appends to its statement. -/
def createExchangeHealthParams (h : ExchangeHealth) : List Param :=
  [.text h.exchangeName,
    appendOpt .text h.endpoint,
    .text h.status,
    appendOpt .timestamp h.lastSuccessAt,
    appendOpt .timestamp h.lastErrorAt,
    appendOpt .integer h.errorCount,
    appendOpt .integer h.rateLimitHits,
    appendOpt .double h.latencyMs,
    appendOpt .integer h.symbolsActive,
    appendOpt .integer h.feedLagMs,
    .timestamp h.checkedAt]

section

variable {Json : Type} [DecidableEq Json] (codec : Codec Json)
  {referenced : ExchangeHealthColumn → Datum Json → Bool}

def createExchangeHealth (store : Store Json exchangeHealthTable referenced)
    (supply : Supply) (h : ExchangeHealth) :
    Option ExchangeHealth × Store Json exchangeHealthTable referenced :=
  create codec store supply insertExchangeHealth
      (createExchangeHealthParams h) fun row =>
    ((row .id).asInt64).map fun id => { h with id := id }

/-- The decoder of `get_exchange_health_by_id`. -/
def decodeExchangeHealth (row : Row ExchangeHealthColumn Json) :
    Option ExchangeHealth := do
  let id ← (row .id).asInt64
  let exchangeName ← (row .exchangeName).asString codec
  let endpoint ← (row .endpoint).optional (Datum.asString codec)
  let status ← (row .status).asString codec
  let lastSuccessAt ← (row .lastSuccessAt).optional Datum.asTimestamp
  let lastErrorAt ← (row .lastErrorAt).optional Datum.asTimestamp
  let errorCount ← (row .errorCount).optional Datum.asInt64
  let rateLimitHits ← (row .rateLimitHits).optional Datum.asInt64
  let latencyMs ← (row .latencyMs).optional Datum.asDouble
  let symbolsActive ← (row .symbolsActive).optional Datum.asInt64
  let feedLagMs ← (row .feedLagMs).optional Datum.asTruncated
  let checkedAt ← (row .checkedAt).asTimestamp
  return ⟨id, exchangeName, endpoint, status, lastSuccessAt, lastErrorAt,
    errorCount, rateLimitHits, latencyMs, symbolsActive, feedLagMs, checkedAt⟩

def getExchangeHealthById (store : Store Json exchangeHealthTable referenced)
    (id : ℤ) : Option ExchangeHealth :=
  getById codec store .id (.integer id) (decodeExchangeHealth codec)

variable {codec}

theorem exchangeHealth_fillsNotNull (health : ExchangeHealth)
    (columns : List ExchangeHealthColumn) :
    FillsNotNull exchangeHealthTable columns health.field := by
  intro column _ hnotNull
  cases column <;> simp_all [exchangeHealthTable, ExchangeHealth.field]

theorem mem_insertExchangeHealth_columns (column : ExchangeHealthColumn)
    (hne : column ≠ .id) : column ∈ insertExchangeHealth.columns := by
  cases column <;> simp_all [insertExchangeHealth]

omit [DecidableEq Json] in
theorem decodeExchangeHealth_of_holds {health : ExchangeHealth}
    {row : Row ExchangeHealthColumn Json}
    (hholds : ∀ column, column ≠ .id →
      Holds codec exchangeHealthTable row health.field column)
    {id : ℤ} (hid : (row .id).asInt64 = some id) :
    decodeExchangeHealth codec row = some { health with id := id } := by
  have hexchangeName := (hholds .exchangeName (by decide)).text trivial rfl
  have hendpoint := (hholds .endpoint (by decide)).optText trivial rfl
  have hstatus := (hholds .status (by decide)).text trivial rfl
  have hlastSuccessAt := (hholds .lastSuccessAt (by decide)).optTimestamp
    rfl rfl
  have hlastErrorAt := (hholds .lastErrorAt (by decide)).optTimestamp rfl rfl
  have herrorCount := (hholds .errorCount (by decide)).optInteger trivial rfl
  have hrateLimitHits := (hholds .rateLimitHits (by decide)).optInteger
    trivial rfl
  have hlatencyMs := (hholds .latencyMs (by decide)).optDouble rfl rfl
  have hsymbolsActive := (hholds .symbolsActive (by decide)).optInteger
    trivial rfl
  have hfeedLagMs := (hholds .feedLagMs (by decide)).optTruncated rfl rfl
  have hcheckedAt := (hholds .checkedAt (by decide)).timestamp rfl rfl
  simp [decodeExchangeHealth, hid, hexchangeName, hendpoint, hstatus,
    hlastSuccessAt, hlastErrorAt, herrorCount, hrateLimitHits, hlatencyMs,
    hsymbolsActive, hfeedLagMs, hcheckedAt]

theorem createExchangeHealth_reads :
    CreateReads exchangeHealthTable referenced (createExchangeHealth codec)
      (fun store created => getExchangeHealthById codec store created.id)
      (Insertable codec insertExchangeHealth ExchangeHealth.field)
      (fun health result => result = { health with id := result.id }) := by
  apply createReads_getById (fun health => ⟨rfl, rfl⟩) (by decide)
    (fun health => exchangeHealth_fillsNotNull health _) (by decide)
  refine rowReads_serial rfl rfl (by decide) (fun _ _ => rfl)
    mem_insertExchangeHealth_columns ?_
  intro health row id hholds hid
  exact ⟨_, decodeExchangeHealth_of_holds hholds hid, rfl⟩

end

/-! ## Backtest jobs -/

inductive BacktestJobColumn
  | jobId
  | symbol
  | exchange
  | startTime
  | endTime
  | replaySpeed
  | status
  | progress
  | createdAt
  | completedAt
  deriving DecidableEq

def backtestJobs : Schema BacktestJobColumn where
  columns :=
    [.jobId, .symbol, .exchange, .startTime, .endTime, .replaySpeed, .status,
      .progress, .createdAt, .completedAt]
  sqlType
    | .jobId => .uuid
    | .symbol => .varchar 50
    | .exchange | .status => .varchar 20
    | .startTime | .endTime | .createdAt | .completedAt => .timestamptz
    | .replaySpeed => .int4
    | .progress => .float8
  default
    | .jobId => .randomUuid
    | _ => .null
  notNull
    | .jobId => true
    | _ => false
  allowed _ := none
  references _ := false
  unique := [[.jobId]]

structure BacktestJob where
  jobId : String
  symbol : Option String
  exchange : Option String
  startTime : Option ℕ
  endTime : Option ℕ
  replaySpeed : Option ℤ
  status : String
  progress : Option ℚ
  createdAt : Option ℕ
  completedAt : Option ℕ

/-- The field named like a column, as a parameter. -/
def BacktestJob.field (job : BacktestJob) :
    BacktestJobColumn → Param
  | .jobId => .text job.jobId
  | .symbol => appendOpt .text job.symbol
  | .exchange => appendOpt .text job.exchange
  | .startTime => appendOpt .timestamp job.startTime
  | .endTime => appendOpt .timestamp job.endTime
  | .replaySpeed => appendOpt .integer job.replaySpeed
  | .status => .text job.status
  | .progress => appendOpt .double job.progress
  | .createdAt => appendOpt .timestamp job.createdAt
  | .completedAt => appendOpt .timestamp job.completedAt

def insertBacktestJob : InsertStatement BacktestJobColumn where
  columns :=
    [.jobId, .symbol, .exchange, .startTime, .endTime, .replaySpeed, .status,
      .progress, .createdAt, .completedAt]
  placeholders := placeholdersUpTo 10

/-- What `create_backtest_job` appends to its statement. -/
def createBacktestJobParams (job : BacktestJob) : List Param :=
  [.text job.jobId,
    appendOpt .text job.symbol,
    appendOpt .text job.exchange,
    appendOpt .timestamp job.startTime,
    appendOpt .timestamp job.endTime,
    appendOpt .integer job.replaySpeed,
    .text job.status,
    appendOpt .double job.progress,
    appendOpt .timestamp job.createdAt,
    appendOpt .timestamp job.completedAt]

section

variable {Json : Type} [DecidableEq Json] (codec : Codec Json)
  {referenced : BacktestJobColumn → Datum Json → Bool}

def createBacktestJob (store : Store Json backtestJobs referenced)
    (supply : Supply) (job : BacktestJob) :
    Option BacktestJob × Store Json backtestJobs referenced :=
  create codec store supply insertBacktestJob
      (createBacktestJobParams job) fun row =>
    ((row .jobId).asString codec).map fun jobId => { job with jobId := jobId }

/-- The decoder of `get_backtest_job_by_id`. -/
def decodeBacktestJob (row : Row BacktestJobColumn Json) :
    Option BacktestJob := do
  let jobId ← (row .jobId).asString codec
  let symbol ← (row .symbol).optional (Datum.asString codec)
  let exchange ← (row .exchange).optional (Datum.asString codec)
  let startTime ← (row .startTime).optional Datum.asTimestamp
  let endTime ← (row .endTime).optional Datum.asTimestamp
  let replaySpeed ← (row .replaySpeed).optional Datum.asInt64
  let status ← (row .status).asString codec
  let progress ← (row .progress).optional Datum.asDouble
  let createdAt ← (row .createdAt).optional Datum.asTimestamp
  let completedAt ← (row .completedAt).optional Datum.asTimestamp
  return ⟨jobId, symbol, exchange, startTime, endTime, replaySpeed, status,
    progress, createdAt, completedAt⟩

def getBacktestJobById (store : Store Json backtestJobs referenced)
    (jobId : String) : Option BacktestJob :=
  getById codec store .jobId (.text jobId) (decodeBacktestJob codec)

variable {codec}

theorem backtestJob_fillsNotNull (job : BacktestJob)
    (columns : List BacktestJobColumn) :
    FillsNotNull backtestJobs columns job.field := by
  intro column _ hnotNull
  cases column <;> simp_all [backtestJobs, BacktestJob.field]

theorem mem_insertBacktestJob_columns (column : BacktestJobColumn) :
    column ∈ insertBacktestJob.columns := by
  cases column <;> decide

omit [DecidableEq Json] in
theorem decodeBacktestJob_of_holds {job : BacktestJob}
    {row : Row BacktestJobColumn Json}
    (hholds : ∀ column, Holds codec backtestJobs row job.field column) :
    decodeBacktestJob codec row = some job := by
  have hjobId := (hholds .jobId).text trivial rfl
  have hsymbol := (hholds .symbol).optText trivial rfl
  have hexchange := (hholds .exchange).optText trivial rfl
  have hstartTime := (hholds .startTime).optTimestamp rfl rfl
  have hendTime := (hholds .endTime).optTimestamp rfl rfl
  have hreplaySpeed := (hholds .replaySpeed).optInteger trivial rfl
  have hstatus := (hholds .status).text trivial rfl
  have hprogress := (hholds .progress).optDouble rfl rfl
  have hcreatedAt := (hholds .createdAt).optTimestamp rfl rfl
  have hcompletedAt := (hholds .completedAt).optTimestamp rfl rfl
  simp [decodeBacktestJob, hjobId, hsymbol, hexchange, hstartTime, hendTime,
    hreplaySpeed, hstatus, hprogress, hcreatedAt, hcompletedAt]

theorem createBacktestJob_reads :
    CreateReads backtestJobs referenced (createBacktestJob codec)
      (fun store created => getBacktestJobById codec store created.jobId)
      (Insertable codec insertBacktestJob BacktestJob.field)
      (fun job result => result = job) := by
  apply createReads_getById (fun job => ⟨rfl, rfl⟩) (by decide)
    (fun job => backtestJob_fillsNotNull job _) (by decide)
  refine rowReads_listed trivial mem_insertBacktestJob_columns
    (fun _ => rfl) (fun _ => rfl) ?_
  intro job row hholds
  exact ⟨_, decodeBacktestJob_of_holds hholds, rfl⟩

end

/-! ## Configuration versions -/

inductive ConfigVersionColumn
  | id
  | configVersion
  | buildSha
  | adapterVersion
  | deploymentId
  | featureFlags
  | schemaVersion
  | appliedAt
  deriving DecidableEq

def configVersions : Schema ConfigVersionColumn where
  columns :=
    [.id, .configVersion, .buildSha, .adapterVersion, .deploymentId,
      .featureFlags, .schemaVersion, .appliedAt]
  sqlType
    | .id => .int8
    | .configVersion | .adapterVersion => .varchar 50
    | .buildSha => .char 40
    | .deploymentId => .varchar 100
    | .featureFlags => .jsonb
    | .schemaVersion => .int4
    | .appliedAt => .timestamptz
  default
    | .id => .serial
    | _ => .null
  notNull
    | .id | .appliedAt => true
    | _ => false
  allowed _ := none
  references _ := false
  unique := [[.id]]

structure ConfigVersion where
  id : ℤ
  configVersion : String
  buildSha : String
  adapterVersion : String
  deploymentId : String
  featureFlags : Option String
  schemaVersion : ℤ
  appliedAt : ℕ

/-- The field named like a column, as a parameter. -/
def ConfigVersion.field (config : ConfigVersion) :
    ConfigVersionColumn → Param
  | .id => .integer config.id
  | .configVersion => .text config.configVersion
  | .buildSha => .text config.buildSha
  | .adapterVersion => .text config.adapterVersion
  | .deploymentId => .text config.deploymentId
  | .featureFlags => appendOpt .text config.featureFlags
  | .schemaVersion => .integer config.schemaVersion
  | .appliedAt => .timestamp config.appliedAt

def insertConfigVersion : InsertStatement ConfigVersionColumn where
  columns :=
    [.configVersion, .buildSha, .adapterVersion, .deploymentId, .featureFlags,
      .schemaVersion, .appliedAt]
  placeholders := placeholdersUpTo 7

/-- What `create_config_version` appends to its statement. -/
def createConfigVersionParams (cfg : ConfigVersion) : List Param :=
  [.text cfg.configVersion,
    .text cfg.buildSha,
    .text cfg.adapterVersion,
    .text cfg.deploymentId,
    appendOpt .text cfg.featureFlags,
    .integer cfg.schemaVersion,
    .timestamp cfg.appliedAt]

section

variable {Json : Type} [DecidableEq Json] (codec : Codec Json)
  {referenced : ConfigVersionColumn → Datum Json → Bool}

def createConfigVersion (store : Store Json configVersions referenced)
    (supply : Supply) (cfg : ConfigVersion) :
    Option ConfigVersion × Store Json configVersions referenced :=
  create codec store supply insertConfigVersion
      (createConfigVersionParams cfg) fun row =>
    ((row .id).asInt64).map fun id => { cfg with id := id }

/-- The decoder of `get_config_version_by_id`. -/
def decodeConfigVersion (row : Row ConfigVersionColumn Json) :
    Option ConfigVersion := do
  let id ← (row .id).asInt64
  let configVersion ← (row .configVersion).asString codec
  let buildSha ← (row .buildSha).asString codec
  let adapterVersion ← (row .adapterVersion).asString codec
  let deploymentId ← (row .deploymentId).asString codec
  let featureFlags ← (row .featureFlags).optional (Datum.asString codec)
  let schemaVersion ← (row .schemaVersion).asInt64
  let appliedAt ← (row .appliedAt).asTimestamp
  return ⟨id, configVersion, buildSha, adapterVersion, deploymentId,
    featureFlags, schemaVersion, appliedAt⟩

def getConfigVersionById (store : Store Json configVersions referenced)
    (id : ℤ) : Option ConfigVersion :=
  getById codec store .id (.integer id) (decodeConfigVersion codec)

variable {codec}

theorem configVersion_fillsNotNull (config : ConfigVersion)
    (columns : List ConfigVersionColumn) :
    FillsNotNull configVersions columns config.field := by
  intro column _ hnotNull
  cases column <;> simp_all [configVersions, ConfigVersion.field]

theorem mem_insertConfigVersion_columns (column : ConfigVersionColumn)
    (hne : column ≠ .id) : column ∈ insertConfigVersion.columns := by
  cases column <;> simp_all [insertConfigVersion]

omit [DecidableEq Json] in
theorem decodeConfigVersion_of_holds {config : ConfigVersion}
    {row : Row ConfigVersionColumn Json}
    (hholds : ∀ column, column ≠ .id →
      Holds codec configVersions row config.field column)
    {id : ℤ} (hid : (row .id).asInt64 = some id) :
    decodeConfigVersion codec row =
      some { config with
        id := id
        featureFlags := config.featureFlags.map (normalized codec) } := by
  have hconfigVersion := (hholds .configVersion (by decide)).text trivial rfl
  have hbuildSha := (hholds .buildSha (by decide)).text trivial rfl
  have hadapterVersion := (hholds .adapterVersion (by decide)).text trivial rfl
  have hdeploymentId := (hholds .deploymentId (by decide)).text trivial rfl
  have hfeatureFlags := (hholds .featureFlags (by decide)).json rfl rfl
  have hschemaVersion := (hholds .schemaVersion (by decide)).integer trivial rfl
  have happliedAt := (hholds .appliedAt (by decide)).timestamp rfl rfl
  simp [decodeConfigVersion, hid, hconfigVersion, hbuildSha, hadapterVersion,
    hdeploymentId, hfeatureFlags, hschemaVersion, happliedAt]

theorem createConfigVersion_reads :
    CreateReads configVersions referenced (createConfigVersion codec)
      (fun store created => getConfigVersionById codec store created.id)
      (Insertable codec insertConfigVersion ConfigVersion.field)
      (fun config result => ∃ text, JsonEq codec config.featureFlags text ∧
        result = { config with id := result.id, featureFlags := text }) := by
  apply createReads_getById (fun config => ⟨rfl, rfl⟩) (by decide)
    (fun config => configVersion_fillsNotNull config _) (by decide)
  refine rowReads_serial rfl rfl (by decide) (fun _ _ => rfl)
    mem_insertConfigVersion_columns ?_
  intro config row id hholds hid
  exact ⟨_, decodeConfigVersion_of_holds hholds hid, _,
    jsonEq_normalized _, rfl⟩

end

end Datafeed.Storage
