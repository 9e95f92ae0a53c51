import Datafeed.Storage.IntervalText
import Datafeed.Storage.TimestampCodec

/-!
# Durations of sessions and feed instances

The heartbeat interval of a session and the stale time of a feed instance go
through an `INTERVAL` column.  Both record types are read back by key with a
`SELECT *` whose text holds the key.
-/

namespace Datafeed.Storage

open Sql

/-! ## Readers with the key in their text -/

section Text

variable {Column Json Record : Type} {schema : Schema Column}
  {referenced : Column → Datum Json → Bool}
  [DecidableEq Json] (codec : Codec Json)

/-- A `get_*_by_id` that sends the key in the text of the statement. -/
def getByText (store : Store Json schema referenced) (key : Column)
    (id : Param) (decode : Row Column Json → Option Record) : Option Record :=
  if store.isConnected = false then none
  else
    (Sql.store codec (schema.sqlType key) id).bind fun datum =>
      (store.table.rows.find? fun row => row key = datum).bind decode

variable {codec}

/-- What a `create_*` that returned a record has done. -/
theorem exists_row_of_createByText [DecidableEq Column]
    {store next : Store Json schema referenced} {supply : Supply}
    {statement : InsertStatement Column} {params : List Param}
    {withKey : Row Column Json → Option Record} {created : Record}
    (hcreate : createByText codec store supply statement params withKey =
      (some created, next)) :
    ∃ row, store.table.execInsert codec supply statement params =
        .ok (row, next.table) ∧ withKey row = some created ∧
      next.isConnected = true := by
  rw [createByText] at hcreate
  split at hcreate
  · cases hcreate
  · next hopen =>
      split at hcreate
      · cases hcreate
      · next row table hexec =>
          rw [Prod.mk.injEq] at hcreate
          obtain ⟨hkey, rfl⟩ := hcreate
          exact ⟨row, hexec, hkey, Bool.eq_true_of_not_eq_false hopen⟩

/-- The key of a new row finds it. -/
theorem getByText_of_execInsert [DecidableEq Column]
    {store next : Store Json schema referenced} {supply : Supply}
    {statement : InsertStatement Column} {params : List Param}
    {row : Row Column Json}
    (hexec : store.table.execInsert codec supply statement params =
      .ok (row, next.table))
    (hconnected : next.isConnected = true) {key : Column}
    (hunique : [key] ∈ schema.unique) (hcolumn : key ∈ schema.columns)
    (hnotNull : schema.notNull key = true) {id : Param}
    (hid : Sql.store codec (schema.sqlType key) id = some (row key))
    (decode : Row Column Json → Option Record) :
    getByText codec next key id decode = decode row := by
  obtain ⟨-, hrespects, hrows⟩ := Table.of_execInsert_ok hexec
  have hfresh := key_ne_of_respectsUnique
    (Table.checks_of_execInsert_ok hexec).2 hunique
    ((hrespects key hcolumn).notNull hnotNull)
  have hfind : next.table.rows.find? (fun other => other key = row key) =
      some row := by
    rw [hrows, List.find?_append, List.find?_eq_none.mpr]
    · simp
    · intro other hother
      simpa using hfresh other hother
  rw [getByText, if_neg (by rw [hconnected]; decide), hid, Option.bind_some,
    hfind, Option.bind_some]

end Text

/-! ## Reading what was stored -/

section Columns

variable {Json : Type} (codec : Codec Json)

/-- Whatever the server stores for the parameter can be read. -/
def Readable {Value : Type} (sqlType : SqlType) (param : Param)
    (read : Datum Json → Option Value) : Prop :=
  ∀ datum, Sql.store codec sqlType param = some datum →
    ∃ value, read datum = some value

variable {codec}

theorem readable_text {sqlType : SqlType} (htextual : sqlType.IsTextual)
    (text : String) :
    Readable codec sqlType (.text text) (Datum.asString codec) := by
  intro datum hdatum
  obtain ⟨value, rfl⟩ := text_of_store htextual hdatum
  exact ⟨value, rfl⟩

theorem readable_integer {sqlType : SqlType} (hinteger : sqlType.IsInteger)
    (number : ℤ) :
    Readable codec sqlType (.integer number) Datum.asInt64 := by
  intro datum hdatum
  cases sqlType <;>
    first
      | exact hinteger.elim
      | (simp only [Sql.store] at hdatum
         split at hdatum
         · cases hdatum
           exact ⟨_, rfl⟩
         · cases hdatum)

theorem readable_double (number : ℚ) :
    Readable codec .float8 (toStringParam number) Datum.asDouble := by
  intro datum hdatum
  cases hdatum
  exact ⟨_, rfl⟩

theorem readable_bool (flag : Bool) :
    Readable codec .boolean (appendBool flag) Datum.asBool := by
  intro datum hdatum
  cases flag <;> cases hdatum <;> exact ⟨_, rfl⟩

/-- A present value is read as it is without the check for `NULL`. -/
theorem readable_optional {Value Result : Type} {sqlType : SqlType}
    {append : Value → Param} {read : Datum Json → Option Result}
    {field : Option Value}
    (hreadable : ∀ value ∈ field, Readable codec sqlType (append value) read) :
    Readable codec sqlType (appendOpt append field) (Datum.optional read) := by
  intro datum hdatum
  rw [Datum.optional]
  split
  · exact ⟨none, rfl⟩
  · next hpresent =>
      cases field with
      | none =>
          have hnull : datum = .null := by
            cases sqlType <;> cases hdatum <;> rfl
          rw [hnull] at hpresent
          exact absurd rfl hpresent
      | some value =>
          obtain ⟨result, hresult⟩ := hreadable value rfl datum hdatum
          exact ⟨some result, by rw [hresult]; rfl⟩

theorem readable_optText {sqlType : SqlType} (htextual : sqlType.IsTextual)
    (field : Option String) :
    Readable codec sqlType (appendOpt .text field)
      (Datum.optional (Datum.asString codec)) :=
  readable_optional fun text _ => readable_text htextual text

theorem readable_optInteger {sqlType : SqlType} (hinteger : sqlType.IsInteger)
    (field : Option ℤ) :
    Readable codec sqlType (appendOpt .integer field)
      (Datum.optional Datum.asInt64) :=
  readable_optional fun number _ => readable_integer hinteger number

theorem readable_optDouble (field : Option ℚ) :
    Readable codec .float8 (appendOpt toStringParam field)
      (Datum.optional Datum.asDouble) :=
  readable_optional fun number _ => readable_double number

theorem readable_optBool (field : Option Bool) :
    Readable codec .boolean (appendOpt appendBool field)
      (Datum.optional Datum.asBool) :=
  readable_optional fun flag _ => readable_bool flag

end Columns

/-! ## The two readers -/

section Readers

variable {Json : Type} [DecidableEq Json] (codec : Codec Json)
  (unset : ℤ) (mktime : Tm → ℤ) (printTime : ℕ → PrintedTime)

/-- `string_to_timestamp` of what the server prints. -/
def readTimestamp : Datum Json → Option ℕ
  | .timestamp ms => stringToTimestamp mktime (printTime ms).text
  | _ => none

/-- `string_to_interval` of what the server prints. -/
def readInterval : Datum Json → Option ℤ
  | .integer micros => some (stringToInterval unset (intervalText micros))
  | _ => none

/-- The decoder of `get_session_by_id`. -/
def decodeSession (row : Row SessionColumn Json) : Option Session := do
  let sessionId ← (row .sessionId).asString codec
  let connectionId ← (row .connectionId).optional (Datum.asString codec)
  let connectedAt ← readTimestamp mktime printTime (row .connectedAt)
  let disconnectedAt ← (row .disconnectedAt).optional
    (readTimestamp mktime printTime)
  let disconnectReason ←
    (row .disconnectReason).optional (Datum.asString codec)
  let authStatus ← (row .authStatus).optional (Datum.asString codec)
  let reconnectCount ← (row .reconnectCount).optional Datum.asInt64
  let heartbeatInterval ←
    (row .heartbeatInterval).optional (readInterval unset)
  let protocol ← (row .protocol).asString codec
  let instanceId ← (row .instanceId).asString codec
  let tenantId ← (row .tenantId).optional (Datum.asString codec)
  return ⟨sessionId, connectionId, connectedAt, disconnectedAt,
    disconnectReason, authStatus, reconnectCount, heartbeatInterval, protocol,
    instanceId, tenantId⟩

def getSessionById {referenced : SessionColumn → Datum Json → Bool}
    (store : Store Json sessions referenced) (id : String) : Option Session :=
  getByText codec store .sessionId (.text id)
    (decodeSession codec unset mktime printTime)

/-- The decoder of `get_feed_instance_by_id`. -/
def decodeFeedInstance (row : Row FeedInstanceColumn Json) :
    Option FeedInstance := do
  let instanceId ← (row .instanceId).asString codec
  let exchange ← (row .exchange).asString codec
  let adapterType ← (row .adapterType).optional (Datum.asString codec)
  let feedStatus ← (row .feedStatus).asString codec
  let lastTickAt ← (row .lastTickAt).optional
    (readTimestamp mktime printTime)
  let staleSeconds ← (row .staleSeconds).optional (readInterval unset)
  let reconnectAttempts ← (row .reconnectAttempts).asInt64
  let messageRateIn ← (row .messageRateIn).optional Datum.asDouble
  let messageRateOut ← (row .messageRateOut).optional Datum.asDouble
  let queueDepth ← (row .queueDepth).optional Datum.asInt64
  let backpressureActive ← (row .backpressureActive).optional Datum.asBool
  let serializationMs ← (row .serializationMs).optional Datum.asDouble
  let parseErrorCount ← (row .parseErrorCount).optional Datum.asInt64
  let gapCount ← (row .gapCount).optional Datum.asInt64
  let duplicateCount ← (row .duplicateCount).optional Datum.asInt64
  let outOfOrderCount ← (row .outOfOrderCount).optional Datum.asInt64
  let tenantId ← (row .tenantId).optional (Datum.asString codec)
  return ⟨instanceId, exchange, adapterType, feedStatus, lastTickAt,
    staleSeconds, reconnectAttempts, messageRateIn, messageRateOut, queueDepth,
    backpressureActive, serializationMs, parseErrorCount, gapCount,
    duplicateCount, outOfOrderCount, tenantId⟩

def getFeedInstanceById {referenced : FeedInstanceColumn → Datum Json → Bool}
    (store : Store Json feedInstances referenced) (id : String) :
    Option FeedInstance :=
  getByText codec store .instanceId (.text id)
    (decodeFeedInstance codec unset mktime printTime)

variable {codec printTime}

/-- The server prints the timestamps of the clock in the ISO style with at most
four digits for the year. -/
def PrintsIso (printTime : ℕ → PrintedTime) : Prop :=
  ∀ ms < clockLimit, (printTime ms).tm.year ≤ 9999

omit [DecidableEq Json] in
theorem readable_timestamp (hiso : PrintsIso printTime) {ms : ℕ}
    (hms : ms < clockLimit) :
    Readable codec .timestamptz (.timestamp ms)
      (readTimestamp mktime printTime) := by
  intro datum hdatum
  cases hdatum
  have hsome := (isSome_stringToTimestamp_iff mktime (printTime ms)).mpr
    (hiso ms hms)
  exact Option.isSome_iff_exists.mp hsome

omit [DecidableEq Json] in
theorem readable_optTimestamp (hiso : PrintsIso printTime) {field : Option ℕ}
    (hfield : ∀ ms ∈ field, ms < clockLimit) :
    Readable codec .timestamptz (appendOpt .timestamp field)
      (Datum.optional (readTimestamp mktime printTime)) :=
  readable_optional fun ms hms =>
    readable_timestamp mktime hiso (hfield ms hms)

omit [DecidableEq Json] in
/-- A duration that the server took is read as its hours, and that is the
duration only if it is zero. -/
theorem optional_readInterval {field : Option ℤ} {datum : Datum Json}
    (hstored : Sql.store codec .int8 (appendOpt intervalParam field) =
      some datum) :
    ∃ read, datum.optional (readInterval unset) = some read ∧
      (read = field ↔ ∀ seconds ∈ field, seconds = 0) := by
  cases field with
  | none =>
      cases hstored
      exact ⟨none, rfl, iff_of_true rfl fun _ hmem => by cases hmem⟩
  | some seconds =>
      have hrange : inInt8Range (seconds * 1000000) = true := by
        by_contra hout
        simp only [appendOpt, intervalParam, Sql.store, if_neg hout] at hstored
        cases hstored
      simp only [appendOpt, intervalParam, Sql.store, if_pos hrange,
        Option.some.injEq] at hstored
      subst hstored
      refine ⟨some _, rfl, ?_⟩
      rw [Option.some.injEq, stringToInterval_seconds_iff unset hrange]
      simp

/-! ### Sessions -/

/-- The parameter that a session gives a column of its name. -/
def Session.field (s : Session) : SessionColumn → Param
  | .sessionId => .text s.sessionId
  | .connectionId => appendOpt .text s.connectionId
  | .connectedAt => .timestamp s.connectedAt
  | .disconnectedAt => appendOpt .timestamp s.disconnectedAt
  | .disconnectReason => appendOpt .text s.disconnectReason
  | .authStatus => appendOpt .text s.authStatus
  | .reconnectCount => appendOpt .integer s.reconnectCount
  | .heartbeatInterval => appendOpt intervalParam s.heartbeatInterval
  | .protocol => .text s.protocol
  | .instanceId => .text s.instanceId
  | .tenantId => appendOpt .text s.tenantId

omit [DecidableEq Json] in
theorem decodeSession_of_stored (hiso : PrintsIso printTime) {s : Session}
    (hconnected : s.connectedAt < clockLimit)
    (hdisconnected : ∀ ms ∈ s.disconnectedAt, ms < clockLimit)
    {row : Row SessionColumn Json} {id : String}
    (hid : row .sessionId = .text id)
    (hstored : ∀ column ∈ insertSession.columns,
      Sql.store codec (sessions.sqlType column) (s.field column) =
        some (row column)) :
    ∃ got, decodeSession codec unset mktime printTime row = some got ∧
      (got.heartbeatInterval = s.heartbeatInterval ↔
        ∀ seconds ∈ s.heartbeatInterval, seconds = 0) := by
  have hsessionId : (row .sessionId).asString codec = some id := by
    rw [hid]
    rfl
  obtain ⟨connectionId, hconnectionId⟩ := readable_optText (by trivial) _ _
    (hstored .connectionId (by decide))
  obtain ⟨connectedAt, hconnectedAt⟩ := readable_timestamp mktime hiso
    hconnected _ (hstored .connectedAt (by decide))
  obtain ⟨disconnectedAt, hdisconnectedAt⟩ := readable_optTimestamp mktime
    hiso hdisconnected _ (hstored .disconnectedAt (by decide))
  obtain ⟨disconnectReason, hdisconnectReason⟩ := readable_optText
    (by trivial) _ _ (hstored .disconnectReason (by decide))
  obtain ⟨authStatus, hauthStatus⟩ := readable_optText (by trivial) _ _
    (hstored .authStatus (by decide))
  obtain ⟨reconnectCount, hreconnectCount⟩ := readable_optInteger
    (by trivial) _ _ (hstored .reconnectCount (by decide))
  obtain ⟨heartbeatInterval, hheartbeatInterval, hsame⟩ :=
    optional_readInterval unset (hstored .heartbeatInterval (by decide))
  obtain ⟨protocol, hprotocol⟩ := readable_text (by trivial) _ _
    (hstored .protocol (by decide))
  obtain ⟨instanceId, hinstanceId⟩ := readable_text (by trivial) _ _
    (hstored .instanceId (by decide))
  obtain ⟨tenantId, htenantId⟩ := readable_optText (by trivial) _ _
    (hstored .tenantId (by decide))
  refine ⟨⟨id, connectionId, connectedAt, disconnectedAt, disconnectReason,
    authStatus, reconnectCount, heartbeatInterval, protocol, instanceId,
    tenantId⟩, ?_, hsame⟩
  simp [decodeSession, hsessionId, hconnectionId, hconnectedAt,
    hdisconnectedAt, hdisconnectReason, hauthStatus, hreconnectCount,
    hheartbeatInterval, hprotocol, hinstanceId, htenantId]

/-- A session that was created is read back, with its heartbeat interval
exactly where that is absent or zero. -/
theorem getSessionById_of_createSession (hiso : PrintsIso printTime)
    {referenced : SessionColumn → Datum Json → Bool}
    {store next : Store Json sessions referenced} {supply : Supply}
    {s created : Session}
    (hcreate : createSession codec store supply s = (some created, next))
    (hconnected : s.connectedAt < clockLimit)
    (hdisconnected : ∀ ms ∈ s.disconnectedAt, ms < clockLimit) :
    ∃ got, getSessionById codec unset mktime printTime next
        created.sessionId = some got ∧
      (got.heartbeatInterval = s.heartbeatInterval ↔
        ∀ seconds ∈ s.heartbeatInterval, seconds = 0) := by
  obtain ⟨row, hexec, hkey, hopen⟩ := exists_row_of_createByText hcreate
  have haligned : insertSession.Aligned (createSessionParams s) s.field :=
    ⟨rfl, rfl⟩
  have hid : row .sessionId = .text supply.uuid :=
    Table.default_of_execInsert_ok hexec (by decide)
  have hcreated : created.sessionId = supply.uuid := by
    rw [hid] at hkey
    cases hkey
    rfl
  have hcanonical : Fits codec .uuid (.text supply.uuid) :=
    supply.uuid_canonical
  have hfound : Sql.store codec (sessions.sqlType .sessionId)
      (.text created.sessionId) = some (row .sessionId) := by
    rw [hcreated, hid, ← stored_text (by trivial) hcanonical]
    exact store_eq_stored hcanonical
  obtain ⟨got, hgot, hsame⟩ := decodeSession_of_stored unset mktime hiso
    hconnected hdisconnected hid
    (fun column hlisted => Table.store_of_execInsert_ok haligned hexec hlisted)
  refine ⟨got, ?_, hsame⟩
  exact (getByText_of_execInsert hexec hopen (by decide) (by decide) rfl
    hfound _).trans hgot

/-! ### Feed instances -/

/-- The parameter that a feed instance gives a column of its name. -/
def FeedInstance.field (f : FeedInstance) : FeedInstanceColumn → Param
  | .instanceId => .text f.instanceId
  | .exchange => .text f.exchange
  | .adapterType => appendOpt .text f.adapterType
  | .feedStatus => .text f.feedStatus
  | .lastTickAt => appendOpt .timestamp f.lastTickAt
  | .staleSeconds => appendOpt intervalParam f.staleSeconds
  | .reconnectAttempts => .integer f.reconnectAttempts
  | .messageRateIn => appendOpt toStringParam f.messageRateIn
  | .messageRateOut => appendOpt toStringParam f.messageRateOut
  | .queueDepth => appendOpt .integer f.queueDepth
  | .backpressureActive => appendOpt appendBool f.backpressureActive
  | .serializationMs => appendOpt toStringParam f.serializationMs
  | .parseErrorCount => appendOpt .integer f.parseErrorCount
  | .gapCount => appendOpt .integer f.gapCount
  | .duplicateCount => appendOpt .integer f.duplicateCount
  | .outOfOrderCount => appendOpt .integer f.outOfOrderCount
  | .tenantId => appendOpt .text f.tenantId

theorem mem_insertFeedInstance_columns (column : FeedInstanceColumn) :
    column ∈ insertFeedInstance.columns := by
  cases column <;> decide

omit [DecidableEq Json] in
theorem decodeFeedInstance_of_stored (hiso : PrintsIso printTime)
    {f : FeedInstance} (hlastTick : ∀ ms ∈ f.lastTickAt, ms < clockLimit)
    {row : Row FeedInstanceColumn Json}
    (hstored : ∀ column,
      Sql.store codec (feedInstances.sqlType column) (f.field column) =
        some (row column)) :
    ∃ got, decodeFeedInstance codec unset mktime printTime row = some got ∧
      (got.staleSeconds = f.staleSeconds ↔
        ∀ seconds ∈ f.staleSeconds, seconds = 0) := by
  obtain ⟨instanceId, hinstanceId⟩ := readable_text (by trivial) _ _
    (hstored .instanceId)
  obtain ⟨exchange, hexchange⟩ := readable_text (by trivial) _ _
    (hstored .exchange)
  obtain ⟨adapterType, hadapterType⟩ := readable_optText (by trivial) _ _
    (hstored .adapterType)
  obtain ⟨feedStatus, hfeedStatus⟩ := readable_text (by trivial) _ _
    (hstored .feedStatus)
  obtain ⟨lastTickAt, hlastTickAt⟩ := readable_optTimestamp mktime hiso
    hlastTick _ (hstored .lastTickAt)
  obtain ⟨staleSeconds, hstaleSeconds, hsame⟩ := optional_readInterval unset
    (hstored .staleSeconds)
  obtain ⟨reconnectAttempts, hreconnectAttempts⟩ := readable_integer
    (by trivial) _ _ (hstored .reconnectAttempts)
  obtain ⟨messageRateIn, hmessageRateIn⟩ := readable_optDouble _ _
    (hstored .messageRateIn)
  obtain ⟨messageRateOut, hmessageRateOut⟩ := readable_optDouble _ _
    (hstored .messageRateOut)
  obtain ⟨queueDepth, hqueueDepth⟩ := readable_optInteger (by trivial) _ _
    (hstored .queueDepth)
  obtain ⟨backpressureActive, hbackpressureActive⟩ := readable_optBool _ _
    (hstored .backpressureActive)
  obtain ⟨serializationMs, hserializationMs⟩ := readable_optDouble _ _
    (hstored .serializationMs)
  obtain ⟨parseErrorCount, hparseErrorCount⟩ := readable_optInteger
    (by trivial) _ _ (hstored .parseErrorCount)
  obtain ⟨gapCount, hgapCount⟩ := readable_optInteger (by trivial) _ _
    (hstored .gapCount)
  obtain ⟨duplicateCount, hduplicateCount⟩ := readable_optInteger
    (by trivial) _ _ (hstored .duplicateCount)
  obtain ⟨outOfOrderCount, houtOfOrderCount⟩ := readable_optInteger
    (by trivial) _ _ (hstored .outOfOrderCount)
  obtain ⟨tenantId, htenantId⟩ := readable_optText (by trivial) _ _
    (hstored .tenantId)
  refine ⟨⟨instanceId, exchange, adapterType, feedStatus, lastTickAt,
    staleSeconds, reconnectAttempts, messageRateIn, messageRateOut,
    queueDepth, backpressureActive, serializationMs, parseErrorCount,
    gapCount, duplicateCount, outOfOrderCount, tenantId⟩, ?_, hsame⟩
  simp [decodeFeedInstance, hinstanceId, hexchange, hadapterType, hfeedStatus,
    hlastTickAt, hstaleSeconds, hreconnectAttempts, hmessageRateIn,
    hmessageRateOut, hqueueDepth, hbackpressureActive, hserializationMs,
    hparseErrorCount, hgapCount, hduplicateCount, houtOfOrderCount, htenantId]

/-- A feed instance that was created is read back, with its stale time exactly
where that is absent or zero. -/
theorem getFeedInstanceById_of_createFeedInstance
    (hiso : PrintsIso printTime)
    {referenced : FeedInstanceColumn → Datum Json → Bool}
    {store next : Store Json feedInstances referenced} {supply : Supply}
    {f created : FeedInstance}
    (hcreate : createFeedInstance codec store supply f =
      (some created, next))
    (hlastTick : ∀ ms ∈ f.lastTickAt, ms < clockLimit) :
    ∃ got, getFeedInstanceById codec unset mktime printTime next
        created.instanceId = some got ∧
      (got.staleSeconds = f.staleSeconds ↔
        ∀ seconds ∈ f.staleSeconds, seconds = 0) := by
  obtain ⟨row, hexec, hkey, hopen⟩ := exists_row_of_createByText hcreate
  cases hkey
  have haligned : insertFeedInstance.Aligned (createFeedInstanceParams f)
      f.field := ⟨rfl, rfl⟩
  have hstored (column : FeedInstanceColumn) :
      Sql.store codec (feedInstances.sqlType column) (f.field column) =
        some (row column) :=
    Table.store_of_execInsert_ok haligned hexec
      (mem_insertFeedInstance_columns column)
  obtain ⟨got, hgot, hsame⟩ := decodeFeedInstance_of_stored unset mktime hiso
    hlastTick hstored
  refine ⟨got, ?_, hsame⟩
  exact (getByText_of_execInsert hexec hopen (by decide) (by decide) rfl
    (hstored .instanceId) _).trans hgot

/-! ## Durations -/

/-- Writing a number of seconds and reading the column. -/
def secondsReadBack (seconds : ℤ) : Option ℤ :=
  (intervalInput (intervalToString seconds)).map fun micros =>
    stringToInterval unset (intervalText micros)

omit [DecidableEq Json] in
theorem secondsReadBack_iff (seconds : ℤ) :
    secondsReadBack unset seconds = some seconds ↔ seconds = 0 := by
  rw [secondsReadBack, intervalInput_intervalToString]
  split
  · next hrange =>
      rw [Option.map_some, Option.some.injEq,
        stringToInterval_seconds_iff unset hrange]
  · next hout =>
      apply iff_of_false (by simp)
      rintro rfl
      exact hout (by decide)

/-- No duration but zero comes back from an `INTERVAL` column, neither on its
own nor in a session or a feed instance. -/
theorem durations_readBack_iff (hiso : PrintsIso printTime) :
    (∀ seconds, 0 ≤ seconds →
      (secondsReadBack unset seconds = some seconds ↔ seconds = 0)) ∧
    (∀ {referenced : SessionColumn → Datum Json → Bool}
      (store next : Store Json sessions referenced) (supply : Supply)
      (s created : Session),
      createSession codec store supply s = (some created, next) →
      s.connectedAt < clockLimit →
      (∀ ms ∈ s.disconnectedAt, ms < clockLimit) →
      ∃ got, getSessionById codec unset mktime printTime next
          created.sessionId = some got ∧
        (got.heartbeatInterval = s.heartbeatInterval ↔
          ∀ seconds ∈ s.heartbeatInterval, seconds = 0)) ∧
    ∀ {referenced : FeedInstanceColumn → Datum Json → Bool}
      (store next : Store Json feedInstances referenced) (supply : Supply)
      (f created : FeedInstance),
      createFeedInstance codec store supply f = (some created, next) →
      (∀ ms ∈ f.lastTickAt, ms < clockLimit) →
      ∃ got, getFeedInstanceById codec unset mktime printTime next
          created.instanceId = some got ∧
        (got.staleSeconds = f.staleSeconds ↔
          ∀ seconds ∈ f.staleSeconds, seconds = 0) := by
  refine ⟨fun seconds _ => secondsReadBack_iff unset seconds, ?_, ?_⟩
  · intro referenced store next supply s created hcreate hconnected
      hdisconnected
    exact getSessionById_of_createSession unset mktime hiso hcreate hconnected
      hdisconnected
  · intro referenced store next supply f created hcreate hlastTick
    exact getFeedInstanceById_of_createFeedInstance unset mktime hiso hcreate
      hlastTick

end Readers

theorem timestamptzText_printsIso : PrintsIso timestamptzText :=
  fun _ hms => (brokenDown_inBounds hms).year_le

/-- A feed that is stale after half a minute. -/
def staleFeed : FeedInstance where
  instanceId := "live-1"
  exchange := "BINANCE"
  adapterType := none
  feedStatus := "connected"
  lastTickAt := some 1700000000000
  staleSeconds := some 30
  reconnectAttempts := 0
  messageRateIn := none
  messageRateOut := none
  queueDepth := none
  backpressureActive := none
  serializationMs := none
  parseErrorCount := none
  gapCount := none
  duplicateCount := none
  outOfOrderCount := none
  tenantId := none

theorem durations_readBack_iff_staleFeed :
    ∃ next got, createFeedInstance plainCodec
        (Store.empty String feedInstances fun _ _ => true) .first staleFeed =
          (some staleFeed, next) ∧
      getFeedInstanceById plainCodec 0 (mktime utc) timestamptzText next
        staleFeed.instanceId = some got ∧
      (got.staleSeconds = staleFeed.staleSeconds ↔
        ∀ seconds ∈ staleFeed.staleSeconds, seconds = 0) := by
  have hcreate : createFeedInstance plainCodec
      (Store.empty String feedInstances fun _ _ => true) .first staleFeed =
        (some staleFeed, _) := rfl
  obtain ⟨got, hgot, hsame⟩ :=
    (durations_readBack_iff 0 (mktime utc) timestamptzText_printsIso).2.2
      _ _ _ _ _ hcreate (by decide)
  exact ⟨_, got, hcreate, hgot, hsame⟩

/-- Half a minute comes back as no time. -/
theorem durations_not_readBack :
    secondsReadBack 0 30 = some 0 ∧
      ¬ ∀ seconds, 0 ≤ seconds →
        secondsReadBack 0 seconds = some seconds := by
  have hread : secondsReadBack 0 30 = some 0 := by decide +kernel
  refine ⟨hread, fun hall => ?_⟩
  rw [hall 30 (by decide)] at hread
  cases hread

end Datafeed.Storage
