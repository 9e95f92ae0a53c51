import Datafeed.Storage.Adapter

/-!
# The audit log

Feed events and API requests.  The parameters that the two `create_*` functions
append do not fill the placeholders of their statements: `create_feed_event`
sends no metadata and moves the actor behind the correlation id, and
`create_api_request` sends no latency.
-/

namespace Datafeed.Storage

open Sql

/-! ## Feed events -/

inductive FeedEventColumn
  | eventId
  | actorType
  | actorId
  | actionType
  | targetType
  | targetId
  | result
  | errorCode
  | traceId
  | correlationId
  | occurredAt
  | metadata
  deriving DecidableEq

def feedEvents : Schema FeedEventColumn where
  columns :=
    [.eventId, .actorType, .actorId, .actionType, .targetType, .targetId,
      .result, .errorCode, .traceId, .correlationId, .occurredAt, .metadata]
  sqlType
    | .eventId | .traceId | .correlationId => .uuid
    | .actorType | .result => .varchar 20
    | .actorId | .targetId => .varchar 255
    | .actionType | .targetType | .errorCode => .varchar 50
    | .occurredAt => .timestamptz
    | .metadata => .jsonb
  default
    | .eventId => .randomUuid
    | _ => .null
  notNull
    | .eventId | .actionType | .occurredAt => true
    | _ => false
  allowed _ := none
  references _ := false
  unique := [[.eventId]]

structure FeedEvent where
  eventId : String
  actorType : Option String
  actorId : Option String
  actionType : String
  targetType : Option String
  targetId : Option String
  result : Option String
  errorCode : Option String
  traceId : Option String
  correlationId : Option String
  occurredAt : ℕ
  metadata : Option String

/-- The field named like a column, as a parameter. -/
def FeedEvent.field (ev : FeedEvent) :
    FeedEventColumn → Param
  | .eventId => .text ev.eventId
  | .actorType => appendOpt .text ev.actorType
  | .actorId => appendOpt .text ev.actorId
  | .actionType => .text ev.actionType
  | .targetType => appendOpt .text ev.targetType
  | .targetId => appendOpt .text ev.targetId
  | .result => appendOpt .text ev.result
  | .errorCode => appendOpt .text ev.errorCode
  | .traceId => appendOpt .text ev.traceId
  | .correlationId => appendOpt .text ev.correlationId
  | .occurredAt => .timestamp ev.occurredAt
  | .metadata => appendOpt .text ev.metadata

def insertFeedEvent : InsertStatement FeedEventColumn where
  columns :=
    [.eventId, .actorType, .actorId, .actionType, .targetType, .targetId,
      .result, .errorCode, .traceId, .correlationId, .occurredAt, .metadata]
  placeholders := placeholdersUpTo 12

/-- What `create_feed_event` appends to its statement. -/
def createFeedEventParams (ev : FeedEvent) : List Param :=
  [.text ev.eventId,
    .text ev.actionType,
    appendOpt .text ev.targetType,
    appendOpt .text ev.targetId,
    appendOpt .text ev.result,
    appendOpt .text ev.errorCode,
    appendOpt .text ev.traceId,
    appendOpt .text ev.correlationId,
    appendOpt .text ev.actorType,
    appendOpt .text ev.actorId,
    .timestamp ev.occurredAt]

section

variable {Json : Type} [DecidableEq Json] (codec : Codec Json)
  {referenced : FeedEventColumn → Datum Json → Bool}

def createFeedEvent (store : Store Json feedEvents referenced)
    (supply : Supply) (ev : FeedEvent) :
    Option FeedEvent × Store Json feedEvents referenced :=
  create codec store supply insertFeedEvent
      (createFeedEventParams ev) fun row =>
    ((row .eventId).asString codec).map fun eventId => { ev with eventId :=
      eventId }

/-- The decoder of `get_feed_event_by_id`. -/
def decodeFeedEvent (row : Row FeedEventColumn Json) : Option FeedEvent := do
  let eventId ← (row .eventId).asString codec
  let actorType ← (row .actorType).optional (Datum.asString codec)
  let actorId ← (row .actorId).optional (Datum.asString codec)
  let actionType ← (row .actionType).asString codec
  let targetType ← (row .targetType).optional (Datum.asString codec)
  let targetId ← (row .targetId).optional (Datum.asString codec)
  let result ← (row .result).optional (Datum.asString codec)
  let errorCode ← (row .errorCode).optional (Datum.asString codec)
  let traceId ← (row .traceId).optional (Datum.asString codec)
  let correlationId ← (row .correlationId).optional (Datum.asString codec)
  let occurredAt ← (row .occurredAt).asTimestamp
  let metadata ← (row .metadata).optional (Datum.asString codec)
  return ⟨eventId, actorType, actorId, actionType, targetType, targetId,
    result, errorCode, traceId, correlationId, occurredAt, metadata⟩

def getFeedEventById (store : Store Json feedEvents referenced)
    (eventId : String) : Option FeedEvent :=
  getById codec store .eventId (.text eventId) (decodeFeedEvent codec)

/-- A feed event is created and read back. -/
def FeedEvent.ReadsBack (store : Store Json feedEvents referenced)
    (supply : Supply) (ev : FeedEvent) : Prop :=
  Storage.ReadsBack (createFeedEvent codec)
    (fun store created => getFeedEventById codec store created.eventId)
    (fun ev result => ∃ text, JsonEq codec ev.metadata text ∧
      result = { ev with metadata := text })
    store supply ev

variable {codec}

/-- Eleven parameters for twelve placeholders. -/
theorem createFeedEvent_eq (store : Store Json feedEvents referenced)
    (supply : Supply) (ev : FeedEvent) :
    createFeedEvent codec store supply ev = (none, store) := by
  have hlength : insertFeedEvent.placeholders.length =
      insertFeedEvent.columns.length := rfl
  have hcount : placeholderCount insertFeedEvent.placeholders ≠
      (createFeedEventParams ev).length := by
    simp [insertFeedEvent, createFeedEventParams, placeholderCount_upTo]
  exact create_of_error
    (store.table.execInsert_of_parameterCount supply hlength hcount) _

end

/-! ## API requests -/

inductive ApiRequestColumn
  | requestId
  | endpoint
  | method
  | statusCode
  | latencyMs
  | requestSize
  | responseSize
  | clientId
  | sessionId
  | instanceId
  | timestamp
  deriving DecidableEq

def apiRequests : Schema ApiRequestColumn where
  columns :=
    [.requestId, .endpoint, .method, .statusCode, .latencyMs, .requestSize,
      .responseSize, .clientId, .sessionId, .instanceId, .timestamp]
  sqlType
    | .requestId | .clientId | .sessionId => .uuid
    | .endpoint => .varchar 255
    | .method => .varchar 10
    | .statusCode | .requestSize | .responseSize => .int4
    | .latencyMs => .float8
    | .instanceId => .varchar 50
    | .timestamp => .timestamptz
  default
    | .requestId => .randomUuid
    | _ => .null
  notNull
    | .requestId | .endpoint | .method | .timestamp => true
    | _ => false
  allowed _ := none
  references
    | .clientId | .sessionId | .instanceId => true
    | _ => false
  unique := [[.requestId]]

structure ApiRequest where
  requestId : String
  endpoint : String
  method : String
  statusCode : Option ℤ
  latencyMs : Option ℚ
  requestSize : Option ℤ
  responseSize : Option ℤ
  clientId : Option String
  sessionId : Option String
  instanceId : Option String
  timestamp : ℕ

/-- The field named like a column, as a parameter. -/
def ApiRequest.field (req : ApiRequest) :
    ApiRequestColumn → Param
  | .requestId => .text req.requestId
  | .endpoint => .text req.endpoint
  | .method => .text req.method
  | .statusCode => appendOpt .integer req.statusCode
  | .latencyMs => appendOpt .double req.latencyMs
  | .requestSize => appendOpt .integer req.requestSize
  | .responseSize => appendOpt .integer req.responseSize
  | .clientId => appendOpt .text req.clientId
  | .sessionId => appendOpt .text req.sessionId
  | .instanceId => appendOpt .text req.instanceId
  | .timestamp => .timestamp req.timestamp

def insertApiRequest : InsertStatement ApiRequestColumn where
  columns :=
    [.requestId, .endpoint, .method, .statusCode, .latencyMs, .requestSize,
      .responseSize, .clientId, .sessionId, .instanceId, .timestamp]
  placeholders := placeholdersUpTo 11

/-- What `create_api_request` appends to its statement. -/
def createApiRequestParams (req : ApiRequest) : List Param :=
  [.text req.requestId,
    .text req.endpoint,
    .text req.method,
    appendOpt .integer req.statusCode,
    appendOpt .integer req.requestSize,
    appendOpt .integer req.responseSize,
    appendOpt .text req.clientId,
    appendOpt .text req.sessionId,
    appendOpt .text req.instanceId,
    .timestamp req.timestamp]

section

variable {Json : Type} [DecidableEq Json] (codec : Codec Json)
  {referenced : ApiRequestColumn → Datum Json → Bool}

def createApiRequest (store : Store Json apiRequests referenced)
    (supply : Supply) (req : ApiRequest) :
    Option ApiRequest × Store Json apiRequests referenced :=
  create codec store supply insertApiRequest
      (createApiRequestParams req) fun row =>
    ((row .requestId).asString codec).map fun requestId => { req with requestId
      := requestId }

/-- The decoder of `get_api_request_by_id`. -/
def decodeApiRequest (row : Row ApiRequestColumn Json) : Option ApiRequest := do
  let requestId ← (row .requestId).asString codec
  let endpoint ← (row .endpoint).asString codec
  let method ← (row .method).asString codec
  let statusCode ← (row .statusCode).optional Datum.asInt64
  let latencyMs ← (row .latencyMs).optional Datum.asDouble
  let requestSize ← (row .requestSize).optional Datum.asInt64
  let responseSize ← (row .responseSize).optional Datum.asInt64
  let clientId ← (row .clientId).optional (Datum.asString codec)
  let sessionId ← (row .sessionId).optional (Datum.asString codec)
  let instanceId ← (row .instanceId).optional (Datum.asString codec)
  let timestamp ← (row .timestamp).asTimestamp
  return ⟨requestId, endpoint, method, statusCode, latencyMs, requestSize,
    responseSize, clientId, sessionId, instanceId, timestamp⟩

def getApiRequestById (store : Store Json apiRequests referenced)
    (requestId : String) : Option ApiRequest :=
  getById codec store .requestId (.text requestId) (decodeApiRequest codec)

/-- An API request is created and read back. -/
def ApiRequest.ReadsBack (store : Store Json apiRequests referenced)
    (supply : Supply) (req : ApiRequest) : Prop :=
  Storage.ReadsBack (createApiRequest codec)
    (fun store created => getApiRequestById codec store created.requestId)
    (fun req result => result = req) store supply req

variable {codec}

/-- Ten parameters for eleven placeholders. -/
theorem createApiRequest_eq (store : Store Json apiRequests referenced)
    (supply : Supply) (req : ApiRequest) :
    createApiRequest codec store supply req = (none, store) := by
  have hlength : insertApiRequest.placeholders.length =
      insertApiRequest.columns.length := rfl
  have hcount : placeholderCount insertApiRequest.placeholders ≠
      (createApiRequestParams req).length := by
    simp [insertApiRequest, createApiRequestParams, placeholderCount_upTo]
  exact create_of_error
    (store.table.execInsert_of_parameterCount supply hlength hcount) _

end

/-! ## Nothing is ever logged -/

/-- No feed event and no API request is created: the server rejects both
statements for the number of their parameters, and the tables stay as they
are. -/
theorem auditLog_never_readsBack {Json : Type} [DecidableEq Json]
    (codec : Codec Json) :
    (∀ referenced (store : Store Json feedEvents referenced) supply ev,
      (createFeedEvent codec store supply ev).2 = store ∧
        ¬ FeedEvent.ReadsBack codec store supply ev) ∧
    (∀ referenced (store : Store Json apiRequests referenced) supply req,
      (createApiRequest codec store supply req).2 = store ∧
        ¬ ApiRequest.ReadsBack codec store supply req) := by
  constructor
  · intro referenced store supply ev
    have hcreate : createFeedEvent codec store supply ev = (none, store) :=
      createFeedEvent_eq store supply ev
    exact ⟨congrArg Prod.snd hcreate, not_readsBack_of_create_eq hcreate⟩
  · intro referenced store supply req
    have hcreate : createApiRequest codec store supply req = (none, store) :=
      createApiRequest_eq store supply req
    exact ⟨congrArg Prod.snd hcreate, not_readsBack_of_create_eq hcreate⟩

def subscribeEvent : FeedEvent where
  eventId := "6f1f6a1e-0b1c-4c5e-9c7e-3d2a1b0c9d8e"
  actorType := some "client"
  actorId := some "desk-7"
  actionType := "subscribe"
  targetType := some "subscription"
  targetId := none
  result := some "success"
  errorCode := none
  traceId := none
  correlationId := none
  occurredAt := 1700000000000
  metadata := none

def statusRequest : ApiRequest where
  requestId := "0b7a2c1e-5d3f-4a68-8e21-9f4c6d2b7a10"
  endpoint := "/api/status"
  method := "GET"
  statusCode := some 200
  latencyMs := some (7 / 2)
  requestSize := none
  responseSize := some 512
  clientId := none
  sessionId := none
  instanceId := some "live-1"
  timestamp := 1700000000000

/-- A well-formed event and a well-formed request are lost on empty tables. -/
theorem auditRecords_lost :
    let events := Store.empty String feedEvents fun _ _ => true
    let requests := Store.empty String apiRequests fun _ _ => true
    (events.Ready ∧
      Insertable plainCodec insertFeedEvent FeedEvent.field events .first
        subscribeEvent ∧
      ¬ FeedEvent.ReadsBack plainCodec events .first subscribeEvent) ∧
    (requests.Ready ∧
      Insertable plainCodec insertApiRequest ApiRequest.field requests .first
        statusRequest ∧
      ¬ ApiRequest.ReadsBack plainCodec requests .first statusRequest) := by
  intro events requests
  have hevent : Admissible plainCodec feedEvents (fun _ _ => true)
      insertFeedEvent.columns subscribeEvent.field := by decide
  have hrequest : Admissible plainCodec apiRequests (fun _ _ => true)
      insertApiRequest.columns statusRequest.field := by decide
  constructor
  · exact ⟨⟨rfl, rfl⟩, insertable_empty hevent .first,
      not_readsBack_of_create_eq (createFeedEvent_eq events .first _)⟩
  · exact ⟨⟨rfl, rfl⟩, insertable_empty hrequest .first,
      not_readsBack_of_create_eq (createApiRequest_eq requests .first _)⟩

end Datafeed.Storage
