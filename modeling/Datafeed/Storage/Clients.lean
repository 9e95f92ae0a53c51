import Datafeed.Storage.Adapter
import Datafeed.Storage.TimestampText
import Mathlib.Data.Rat.Floor

/-!
# Clients, sessions, feed instances and thresholds

Three of these record types are inserted by a statement whose text holds the
values as escaped literals, so nothing has to be prepared; two read more back
than a key.  `NOW()` is the time of the transaction; the columns that receive it
are listed with a parameter of their own.
-/

namespace Datafeed.Storage

open Sql

/-! ## Statements with literals -/

section Text

variable {Column Json Record : Type} {schema : Schema Column}
  {referenced : Column → Datum Json → Bool}
  [DecidableEq Column] [DecidableEq Json] (codec : Codec Json)

/-- A `create_*` that sends its values in the text of the statement. -/
def createByText (store : Store Json schema referenced) (supply : Supply)
    (statement : InsertStatement Column) (params : List Param)
    (withKey : Row Column Json → Option Record) :
    Option Record × Store Json schema referenced :=
  if store.isConnected = false then (none, store)
  else
    match store.table.execInsert codec supply statement params with
    | .error _ => (none, store)
    | .ok (row, table) => (withKey row, { store with table := table })

/-- `r[0][column]`: a column that the `RETURNING` list leaves out is an
error. -/
def returnedField (returning : List Column) (row : Row Column Json)
    (column : Column) : Option (Datum Json) :=
  if column ∈ returning then some (row column) else none

end Text

/-- `interval_to_string`: an interval is its number of microseconds, which has
64 bits. -/
def intervalParam (seconds : ℤ) : Param := .integer (seconds * 1000000)

/-- The nearest integer, an even one half-way between two. -/
def roundHalfEven (value : ℚ) : ℤ :=
  let below := ⌊value⌋
  if value - below < 1 / 2 then below
  else if 1 / 2 < value - below then below + 1
  else if below % 2 = 0 then below
  else below + 1

/-- `std::to_string` of a double, which prints six decimals. -/
def toStringParam (value : ℚ) : Param :=
  .double (roundHalfEven (value * 1000000) / 1000000)

/-- `NOW()` in a transaction, and the text the server sends for it. -/
structure ServerTime where
  now : ℕ
  text : String

/-- `as<std::string>()` of a column that received `NOW()`. -/
def ServerTime.asString {Json : Type} (time : ServerTime) :
    Datum Json → Option String
  | .timestamp _ => some time.text
  | _ => none

/-! ## Clients -/

inductive ClientColumn
  | tenantId
  | clientName
  | plan
  | status
  | createdAt
  | updatedAt
  | lastSeenAt
  | authSubject
  | ipAddress
  | userAgent
  deriving DecidableEq

/-- The `INET` column holds the text of the address. -/
def clients : Schema ClientColumn where
  columns :=
    [.tenantId, .clientName, .plan, .status, .createdAt, .updatedAt,
      .lastSeenAt, .authSubject, .ipAddress, .userAgent]
  sqlType
    | .tenantId => .uuid
    | .clientName => .varchar 255
    | .plan => .varchar 50
    | .status => .varchar 20
    | .createdAt => .timestamptz
    | .updatedAt => .timestamptz
    | .lastSeenAt => .timestamptz
    | .authSubject => .varchar 255
    | .ipAddress => .text
    | .userAgent => .text
  default
    | .tenantId => .randomUuid
    | _ => .null
  notNull
    | .tenantId | .clientName | .createdAt | .updatedAt => true
    | _ => false
  allowed _ := none
  references _ := false
  unique := [[.tenantId]]

structure Client where
  tenantId : String
  clientName : String
  plan : String
  status : String
  createdAt : ℕ
  updatedAt : ℕ
  lastSeenAt : Option ℕ
  authSubject : Option String
  ipAddress : Option String
  userAgent : Option String

/-- The statement of `create_client` and the two columns that default to
`NOW()`. -/
def insertClient : InsertStatement ClientColumn where
  columns :=
    [.clientName, .plan, .status, .authSubject, .ipAddress, .userAgent,
      .createdAt, .updatedAt]
  placeholders := placeholdersUpTo 8

def createClientParams (time : ServerTime) (c : Client) : List Param :=
  [.text c.clientName,
    .text c.plan,
    .text c.status,
    appendOpt .text c.authSubject,
    appendOpt .text c.ipAddress,
    appendOpt .text c.userAgent,
    .timestamp time.now,
    .timestamp time.now]

/-- `RETURNING tenant_id,created_at,updated_at`. -/
def clientReturning : List ClientColumn := [.tenantId, .createdAt, .updatedAt]

/-- The server rejects the text of the address. -/
def BadAddress (isInet : String → Bool) (c : Client) : Prop :=
  ∃ address, c.ipAddress = some address ∧ isInet address = false

instance (isInet : String → Bool) (c : Client) :
    Decidable (BadAddress isInet c) :=
  decidable_of_iff ((c.ipAddress.map isInet) = some false) (by
    rw [Option.map_eq_some_iff]
    rfl)

section

variable {Json : Type} [DecidableEq Json] (codec : Codec Json)
  (mktime : Tm → ℤ)

/-- What `create_client` reads after the commit. -/
def withClientKey (time : ServerTime) (c : Client)
    (row : Row ClientColumn Json) : Option Client := do
  let tenantId ← returnedField clientReturning row .tenantId
  let tenantId ← tenantId.asString codec
  let createdAt ← returnedField clientReturning row .createdAt
  let createdAt ← stringToTimestamp mktime (← time.asString createdAt)
  let updatedAt ← returnedField clientReturning row .updatedAt
  let updatedAt ← stringToTimestamp mktime (← time.asString updatedAt)
  return { c with
    tenantId := tenantId
    createdAt := createdAt
    updatedAt := updatedAt }

/-- Which texts are an `INET` is left to the server. -/
def createClient (isInet : String → Bool)
    {referenced : ClientColumn → Datum Json → Bool}
    (store : Store Json clients referenced) (supply : Supply)
    (time : ServerTime) (c : Client) :
    Option Client × Store Json clients referenced :=
  if BadAddress isInet c then (none, store)
  else
    createByText codec store supply insertClient (createClientParams time c)
      (withClientKey codec mktime time c)

end

/-! ## Sessions -/

inductive SessionColumn
  | sessionId
  | connectionId
  | connectedAt
  | disconnectedAt
  | disconnectReason
  | authStatus
  | reconnectCount
  | heartbeatInterval
  | protocol
  | instanceId
  | tenantId
  deriving DecidableEq

def sessions : Schema SessionColumn where
  columns :=
    [.sessionId, .connectionId, .connectedAt, .disconnectedAt,
      .disconnectReason, .authStatus, .reconnectCount, .heartbeatInterval,
      .protocol, .instanceId, .tenantId]
  sqlType
    | .sessionId => .uuid
    | .connectionId => .uuid
    | .connectedAt => .timestamptz
    | .disconnectedAt => .timestamptz
    | .disconnectReason => .varchar 100
    | .authStatus => .varchar 20
    | .reconnectCount => .int4
    | .heartbeatInterval => .int8
    | .protocol => .varchar 10
    | .instanceId => .varchar 50
    | .tenantId => .uuid
  default
    | .sessionId => .randomUuid
    | _ => .null
  notNull
    | .sessionId | .connectedAt => true
    | _ => false
  allowed
    | .protocol => some ["ws", "http", "internal"]
    | _ => none
  references
    | .tenantId => true
    | _ => false
  unique := [[.sessionId]]

structure Session where
  sessionId : String
  connectionId : Option String
  connectedAt : ℕ
  disconnectedAt : Option ℕ
  disconnectReason : Option String
  authStatus : Option String
  reconnectCount : Option ℤ
  heartbeatInterval : Option ℤ
  protocol : String
  instanceId : String
  tenantId : Option String

def insertSession : InsertStatement SessionColumn where
  columns :=
    [.connectionId, .connectedAt, .disconnectedAt, .disconnectReason,
      .authStatus, .reconnectCount, .heartbeatInterval, .protocol,
      .instanceId, .tenantId]
  placeholders := placeholdersUpTo 10

def createSessionParams (s : Session) : List Param :=
  [appendOpt .text s.connectionId,
    .timestamp s.connectedAt,
    appendOpt .timestamp s.disconnectedAt,
    appendOpt .text s.disconnectReason,
    appendOpt .text s.authStatus,
    appendOpt .integer s.reconnectCount,
    appendOpt intervalParam s.heartbeatInterval,
    .text s.protocol,
    .text s.instanceId,
    appendOpt .text s.tenantId]

def createSession {Json : Type} [DecidableEq Json] (codec : Codec Json)
    {referenced : SessionColumn → Datum Json → Bool}
    (store : Store Json sessions referenced) (supply : Supply) (s : Session) :
    Option Session × Store Json sessions referenced :=
  createByText codec store supply insertSession (createSessionParams s)
    fun row => ((row .sessionId).asString codec).map fun sessionId =>
      { s with sessionId := sessionId }

/-! ## Feed instances -/

inductive FeedInstanceColumn
  | instanceId
  | exchange
  | adapterType
  | feedStatus
  | lastTickAt
  | staleSeconds
  | reconnectAttempts
  | messageRateIn
  | messageRateOut
  | queueDepth
  | backpressureActive
  | serializationMs
  | parseErrorCount
  | gapCount
  | duplicateCount
  | outOfOrderCount
  | tenantId
  deriving DecidableEq

/-- The columns, in the order of the table and of the `INSERT`. -/
def feedInstanceColumns : List FeedInstanceColumn :=
  [.instanceId, .exchange, .adapterType, .feedStatus, .lastTickAt,
    .staleSeconds, .reconnectAttempts, .messageRateIn, .messageRateOut,
    .queueDepth, .backpressureActive, .serializationMs, .parseErrorCount,
    .gapCount, .duplicateCount, .outOfOrderCount, .tenantId]

def feedInstances : Schema FeedInstanceColumn where
  columns := feedInstanceColumns
  sqlType
    | .instanceId => .varchar 50
    | .exchange => .varchar 20
    | .adapterType => .varchar 20
    | .feedStatus => .varchar 20
    | .lastTickAt => .timestamptz
    | .staleSeconds => .int8
    | .reconnectAttempts => .int4
    | .messageRateIn => .float8
    | .messageRateOut => .float8
    | .queueDepth => .int4
    | .backpressureActive => .boolean
    | .serializationMs => .float8
    | .parseErrorCount => .int4
    | .gapCount => .int4
    | .duplicateCount => .int4
    | .outOfOrderCount => .int4
    | .tenantId => .uuid
  default _ := .null
  notNull
    | .instanceId | .exchange => true
    | _ => false
  allowed _ := none
  references
    | .tenantId => true
    | _ => false
  unique := [[.instanceId]]

structure FeedInstance where
  instanceId : String
  exchange : String
  adapterType : Option String
  feedStatus : String
  lastTickAt : Option ℕ
  staleSeconds : Option ℤ
  reconnectAttempts : ℤ
  messageRateIn : Option ℚ
  messageRateOut : Option ℚ
  queueDepth : Option ℤ
  backpressureActive : Option Bool
  serializationMs : Option ℚ
  parseErrorCount : Option ℤ
  gapCount : Option ℤ
  duplicateCount : Option ℤ
  outOfOrderCount : Option ℤ
  tenantId : Option String

def insertFeedInstance : InsertStatement FeedInstanceColumn where
  columns := feedInstanceColumns
  placeholders := placeholdersUpTo 17

def createFeedInstanceParams (feed : FeedInstance) : List Param :=
  [.text feed.instanceId,
    .text feed.exchange,
    appendOpt .text feed.adapterType,
    .text feed.feedStatus,
    appendOpt .timestamp feed.lastTickAt,
    appendOpt intervalParam feed.staleSeconds,
    .integer feed.reconnectAttempts,
    appendOpt toStringParam feed.messageRateIn,
    appendOpt toStringParam feed.messageRateOut,
    appendOpt .integer feed.queueDepth,
    appendOpt appendBool feed.backpressureActive,
    appendOpt toStringParam feed.serializationMs,
    appendOpt .integer feed.parseErrorCount,
    appendOpt .integer feed.gapCount,
    appendOpt .integer feed.duplicateCount,
    appendOpt .integer feed.outOfOrderCount,
    appendOpt .text feed.tenantId]

/-- The statement has no `RETURNING`; the record comes back as it is. -/
def createFeedInstance {Json : Type} [DecidableEq Json] (codec : Codec Json)
    {referenced : FeedInstanceColumn → Datum Json → Bool}
    (store : Store Json feedInstances referenced) (supply : Supply)
    (feed : FeedInstance) :
    Option FeedInstance × Store Json feedInstances referenced :=
  createByText codec store supply insertFeedInstance
    (createFeedInstanceParams feed) fun _ => some feed

/-! ## Metric thresholds -/

inductive ThresholdColumn
  | id
  | instanceId
  | metricName
  | source
  | warningThreshold
  | criticalThreshold
  | op
  | enabled
  | cooldownSeconds
  | createdAt
  | updatedAt
  deriving DecidableEq

/-- The column `operator` is `op` here, like the field. -/
def metricThresholds : Schema ThresholdColumn where
  columns :=
    [.id, .instanceId, .metricName, .source, .warningThreshold,
      .criticalThreshold, .op, .enabled, .cooldownSeconds, .createdAt,
      .updatedAt]
  sqlType
    | .id => .int8
    | .instanceId => .varchar 50
    | .metricName => .varchar 100
    | .source => .varchar 50
    | .warningThreshold => .float8
    | .criticalThreshold => .float8
    | .op => .varchar 10
    | .enabled => .boolean
    | .cooldownSeconds => .int4
    | .createdAt => .timestamptz
    | .updatedAt => .timestamptz
  default
    | .id => .serial
    | _ => .null
  notNull
    | .id | .metricName | .source | .op | .enabled | .createdAt
    | .updatedAt => true
    | _ => false
  allowed
    | .op => some ["gt", "lt", "gte", "lte", "eq"]
    | _ => none
  references
    | .instanceId => true
    | _ => false
  unique := [[.id], [.instanceId, .metricName, .source]]

structure MetricThreshold where
  id : ℤ
  instanceId : String
  metricName : String
  source : String
  warningThreshold : Option ℚ
  criticalThreshold : Option ℚ
  op : String
  enabled : Bool
  cooldownSeconds : Option ℤ
  createdAt : ℕ
  updatedAt : ℕ

/-- The two calls of `NOW()` in the `VALUES` list are the last placeholders. -/
def insertMetricThreshold : InsertStatement ThresholdColumn where
  columns :=
    [.instanceId, .metricName, .source,
      .warningThreshold, .criticalThreshold, .op,
      .enabled, .cooldownSeconds, .createdAt, .updatedAt]
  placeholders := placeholdersUpTo 10

/-- What `create_metric_threshold` appends to its statement, and `NOW()`. -/
def createMetricThresholdParams (time : ServerTime) (t : MetricThreshold) :
    List Param :=
  [.text t.instanceId,
    .text t.metricName,
    .text t.source,
    appendOpt .double t.warningThreshold,
    appendOpt .double t.criticalThreshold,
    .text t.op,
    appendBool t.enabled,
    appendOpt .integer t.cooldownSeconds,
    .timestamp time.now,
    .timestamp time.now]

/-- `RETURNING id`. -/
def thresholdReturning : List ThresholdColumn := [.id]

section

variable {Json : Type} (mktime : Tm → ℤ)

/-- What `create_metric_threshold` reads after the commit. -/
def withThresholdKey (time : ServerTime) (t : MetricThreshold)
    (row : Row ThresholdColumn Json) : Option MetricThreshold := do
  let id ← returnedField thresholdReturning row .id
  let id ← id.asInt64
  let createdAt ← returnedField thresholdReturning row .createdAt
  let createdAt ← stringToTimestamp mktime (← time.asString createdAt)
  let updatedAt ← returnedField thresholdReturning row .updatedAt
  let updatedAt ← stringToTimestamp mktime (← time.asString updatedAt)
  return { t with
    id := id
    createdAt := createdAt
    updatedAt := updatedAt }

def createMetricThreshold [DecidableEq Json] (codec : Codec Json)
    {referenced : ThresholdColumn → Datum Json → Bool}
    (store : Store Json metricThresholds referenced) (supply : Supply)
    (time : ServerTime) (t : MetricThreshold) :
    Option MetricThreshold × Store Json metricThresholds referenced :=
  create codec store supply insertMetricThreshold
    (createMetricThresholdParams time t) (withThresholdKey mktime time t)

end

end Datafeed.Storage
