import Datafeed.Storage.Adapter

/-!
# Alerts and subscriptions

The two record types of the adapter with an update.  For each: the table as
`schema.sql` declares it (the `DEFAULT`s of columns that every statement lists
are left out), the record, the prepared statements, the parameters appended to
them and the reader, and that what is created or updated reads back.
-/

namespace Datafeed.Storage

open Sql

/-! ## Alerts -/

inductive AlertColumn
  | alertId
  | instanceId
  | severity
  | source
  | metricName
  | currentValue
  | threshold
  | message
  | acknowledged
  | createdAt
  | resolvedAt
  deriving DecidableEq

def alerts : Schema AlertColumn where
  columns :=
    [.alertId, .instanceId, .severity, .source, .metricName, .currentValue,
      .threshold, .message, .acknowledged, .createdAt, .resolvedAt]
  sqlType
    | .alertId => .uuid
    | .instanceId => .varchar 50
    | .severity => .varchar 20
    | .source => .varchar 50
    | .metricName => .varchar 100
    | .currentValue => .float8
    | .threshold => .float8
    | .message => .text
    | .acknowledged => .boolean
    | .createdAt => .timestamptz
    | .resolvedAt => .timestamptz
  default
    | .alertId => .randomUuid
    | _ => .null
  notNull
    | .alertId | .severity | .source | .metricName | .acknowledged
    | .createdAt => true
    | _ => false
  allowed
    | .severity => some ["info", "warning", "critical"]
    | _ => none
  references
    | .instanceId => true
    | _ => false
  unique := [[.alertId]]

structure Alert where
  alertId : String
  instanceId : Option String
  severity : String
  source : String
  metricName : String
  currentValue : Option ℚ
  threshold : Option ℚ
  message : Option String
  acknowledged : Bool
  createdAt : ℕ
  resolvedAt : Option ℕ

/-- The field named like a column, as a parameter. -/
def Alert.field (alert : Alert) : AlertColumn → Param
  | .alertId => .text alert.alertId
  | .instanceId => appendOpt .text alert.instanceId
  | .severity => .text alert.severity
  | .source => .text alert.source
  | .metricName => .text alert.metricName
  | .currentValue => appendOpt .double alert.currentValue
  | .threshold => appendOpt .double alert.threshold
  | .message => appendOpt .text alert.message
  | .acknowledged => appendBool alert.acknowledged
  | .createdAt => .timestamp alert.createdAt
  | .resolvedAt => appendOpt .timestamp alert.resolvedAt

def insertAlert : InsertStatement AlertColumn where
  columns :=
    [.instanceId, .severity, .source, .metricName,
      .currentValue, .threshold, .message, .acknowledged,
      .createdAt, .resolvedAt]
  placeholders := placeholdersUpTo 10

def updateAlertStatement : UpdateStatement AlertColumn where
  assignments :=
    [(.instanceId, 1), (.severity, 2), (.source, 3),
      (.metricName, 4), (.currentValue, 5), (.threshold, 6),
      (.message, 7), (.acknowledged, 8),
      (.resolvedAt, 9)]
  key := .alertId
  keyPlaceholder := 10

section

variable {Json : Type} [DecidableEq Json] (codec : Codec Json)
  {referenced : AlertColumn → Datum Json → Bool}

/-- What `create_alert` appends to its statement. -/
def createAlertParams (a : Alert) : List Param :=
  [appendOpt .text a.instanceId,
    .text a.severity,
    .text a.source,
    .text a.metricName,
    appendOpt .double a.currentValue,
    appendOpt .double a.threshold,
    appendOpt .text a.message,
    appendBool a.acknowledged,
    .timestamp a.createdAt,
    appendOpt .timestamp a.resolvedAt]

def createAlert (store : Store Json alerts referenced) (supply : Supply)
    (a : Alert) : Option Alert × Store Json alerts referenced :=
  create codec store supply insertAlert (createAlertParams a) fun row =>
    ((row .alertId).asString codec).map fun alertId =>
      { a with alertId := alertId }

/-- The decoder of `get_alert_by_id` and `get_alerts_by_condition`. -/
def decodeAlert (row : Row AlertColumn Json) : Option Alert := do
  let alertId ← (row .alertId).asString codec
  let instanceId ← (row .instanceId).optional (Datum.asString codec)
  let severity ← (row .severity).asString codec
  let source ← (row .source).asString codec
  let metricName ← (row .metricName).asString codec
  let currentValue ← (row .currentValue).optional Datum.asDouble
  let threshold ← (row .threshold).optional Datum.asDouble
  let message ← (row .message).optional (Datum.asString codec)
  let acknowledged ← (row .acknowledged).asBool
  let createdAt ← (row .createdAt).asTimestamp
  let resolvedAt ← (row .resolvedAt).optional Datum.asTimestamp
  return ⟨alertId, instanceId, severity, source, metricName, currentValue,
    threshold, message, acknowledged, createdAt, resolvedAt⟩

def getAlertById (store : Store Json alerts referenced) (alertId : String) :
    Option Alert :=
  getById codec store .alertId (.text alertId) (decodeAlert codec)

/-- What `update_alert` appends to its statement. -/
def updateAlertParams (a : Alert) : List Param :=
  [appendOpt .text a.instanceId,
    .text a.severity,
    .text a.source,
    .text a.metricName,
    appendOpt .double a.currentValue,
    appendOpt .double a.threshold,
    appendOpt .text a.message,
    appendBool a.acknowledged,
    appendOpt .timestamp a.resolvedAt,
    .text a.alertId]

def updateAlert (store : Store Json alerts referenced) (a : Alert) :
    Bool × Store Json alerts referenced :=
  update codec store updateAlertStatement (updateAlertParams a) a.alertId

variable {codec}

theorem alert_fillsNotNull (alert : Alert) (columns : List AlertColumn) :
    FillsNotNull alerts columns alert.field := by
  intro column _ hnotNull
  cases column <;> simp_all [alerts, Alert.field, appendBool]

omit [DecidableEq Json] in
/-- A row that holds the fields of an alert decodes to it; the key and the
creation time are those of the row. -/
theorem decodeAlert_of_holds {alert : Alert} {row : Row AlertColumn Json}
    (hholds : ∀ column, column ≠ .alertId → column ≠ .createdAt →
      Holds codec alerts row alert.field column)
    {alertId : String} {createdAt : ℕ}
    (halertId : (row .alertId).asString codec = some alertId)
    (hcreatedAt : (row .createdAt).asTimestamp = some createdAt) :
    decodeAlert codec row =
      some { alert with alertId := alertId, createdAt := createdAt } := by
  have hinstanceId := (hholds .instanceId (by decide) (by decide)).optText
    trivial rfl
  have hseverity := (hholds .severity (by decide) (by decide)).text trivial rfl
  have hsource := (hholds .source (by decide) (by decide)).text trivial rfl
  have hmetricName := (hholds .metricName (by decide) (by decide)).text
    trivial rfl
  have hcurrentValue := (hholds .currentValue (by decide) (by decide)).optDouble
    rfl rfl
  have hthreshold := (hholds .threshold (by decide) (by decide)).optDouble
    rfl rfl
  have hmessage := (hholds .message (by decide) (by decide)).optText trivial rfl
  have hacknowledged := (hholds .acknowledged (by decide) (by decide)).bool
    rfl rfl
  have hresolvedAt := (hholds .resolvedAt (by decide) (by decide)).optTimestamp
    rfl rfl
  simp [decodeAlert, halertId, hinstanceId, hseverity, hsource, hmetricName,
    hcurrentValue, hthreshold, hmessage, hacknowledged, hcreatedAt,
    hresolvedAt]

theorem mem_insertAlert_columns (column : AlertColumn)
    (hne : column ≠ .alertId) : column ∈ insertAlert.columns := by
  cases column <;> simp_all [insertAlert]

theorem createAlert_reads :
    CreateReads alerts referenced (createAlert codec)
      (fun store created => getAlertById codec store created.alertId)
      (Insertable codec insertAlert Alert.field)
      (fun alert result =>
        result = { alert with alertId := result.alertId }) := by
  apply createReads_getById (fun alert => ⟨rfl, rfl⟩) (by decide)
    (fun alert => alert_fillsNotNull alert _) (by decide)
  refine rowReads_uuid rfl rfl (by decide) (fun _ _ => rfl)
    mem_insertAlert_columns ?_
  intro alert row alertId hholds halertId
  have hcreatedAt := (hholds .createdAt (by decide)).timestamp rfl rfl
  exact ⟨_, decodeAlert_of_holds (fun column hne _ => hholds column hne)
    halertId hcreatedAt, rfl⟩

omit [DecidableEq Json] in
theorem asTimestamp_of_decodeAlert {row : Row AlertColumn Json} {alert : Alert}
    (hdecode : decodeAlert codec row = some alert) :
    (row .createdAt).asTimestamp = some alert.createdAt := by
  simp only [decodeAlert, Option.bind_eq_bind, Option.bind_eq_some_iff,
    Option.pure_def, Option.some.injEq] at hdecode
  grind

/-- The columns `update_alert` assigns to. -/
def updatedAlertColumns : List AlertColumn :=
  updateAlertStatement.assignments.map Prod.fst

theorem updateAlert_aligned (alert : Alert) :
    updateAlertStatement.Aligned updatedAlertColumns (updateAlertParams alert)
      alert.field (.text alert.alertId) :=
  ⟨rfl, rfl, by decide, rfl⟩

theorem updateAlert_reads :
    UpdateReads alerts referenced (updateAlert codec)
      (fun store alert => getAlertById codec store alert.alertId)
      (fun alert =>
        Admissible codec alerts referenced alerts.columns alert.field)
      (fun old alert result =>
        result = { alert with createdAt := old.createdAt }) := by
  apply updateReads_getById updateAlert_aligned (by decide)
    (fun alert => alert_fillsNotNull alert _) (by decide) rfl (fun _ => rfl)
  intro old alert row hadmissible hkey hold
  have hlisted : ∀ column, column ≠ AlertColumn.alertId →
      column ≠ AlertColumn.createdAt → column ∈ updatedAlertColumns := by
    intro column halertId hcreatedAt
    cases column <;> simp_all [updatedAlertColumns, updateAlertStatement]
  have hcreatedAt := asTimestamp_of_decodeAlert hold
  have hdecode := decodeAlert_of_holds
    (fun column halertId hother => holds_namedRow hadmissible row
      (hlisted column halertId hother)) hkey hcreatedAt
  exact ⟨{ alert with createdAt := old.createdAt }, hdecode, rfl⟩

end

/-! ## Subscriptions -/

inductive SubscriptionColumn
  | subscriptionId
  | symbol
  | topic
  | streamType
  | mode
  | filtersJson
  | priority
  | createdAt
  | removedAt
  | isActive
  | tenantId
  | sessionId
  deriving DecidableEq

def subscriptions : Schema SubscriptionColumn where
  columns :=
    [.subscriptionId, .symbol, .topic, .streamType, .mode, .filtersJson,
      .priority, .createdAt, .removedAt, .isActive, .tenantId, .sessionId]
  sqlType
    | .subscriptionId | .tenantId | .sessionId => .uuid
    | .symbol => .varchar 50
    | .topic => .varchar 100
    | .streamType | .mode => .varchar 20
    | .filtersJson => .jsonb
    | .priority => .int4
    | .createdAt | .removedAt => .timestamptz
    | .isActive => .boolean
  default
    | .subscriptionId => .randomUuid
    | _ => .null
  notNull
    | .subscriptionId | .symbol | .topic | .createdAt => true
    | _ => false
  allowed _ := none
  references
    | .tenantId | .sessionId => true
    | _ => false
  unique := [[.subscriptionId]]

structure Subscription where
  subscriptionId : String
  symbol : String
  topic : String
  streamType : Option String
  mode : Option String
  filtersJson : Option String
  priority : Option ℤ
  createdAt : ℕ
  removedAt : Option ℕ
  isActive : Bool
  tenantId : Option String
  sessionId : Option String

/-- The field named like a column, as a parameter. -/
def Subscription.field (sub : Subscription) : SubscriptionColumn → Param
  | .subscriptionId => .text sub.subscriptionId
  | .symbol => .text sub.symbol
  | .topic => .text sub.topic
  | .streamType => appendOpt .text sub.streamType
  | .mode => appendOpt .text sub.mode
  | .filtersJson => appendOpt .text sub.filtersJson
  | .priority => appendOpt .integer sub.priority
  | .createdAt => .timestamp sub.createdAt
  | .removedAt => appendOpt .timestamp sub.removedAt
  | .isActive => appendBool sub.isActive
  | .tenantId => appendOpt .text sub.tenantId
  | .sessionId => appendOpt .text sub.sessionId

def insertSubscription : InsertStatement SubscriptionColumn where
  columns :=
    [.subscriptionId, .symbol, .topic, .streamType, .mode, .filtersJson,
      .priority, .createdAt, .removedAt, .isActive, .tenantId, .sessionId]
  placeholders := placeholdersUpTo 12

def updateSubscriptionStatement : UpdateStatement SubscriptionColumn where
  assignments :=
    [(.symbol, 1), (.topic, 2), (.streamType, 3), (.mode, 4),
      (.filtersJson, 5), (.priority, 6), (.removedAt, 7),
      (.isActive, 8), (.tenantId, 9), (.sessionId, 10)]
  key := .subscriptionId
  keyPlaceholder := 11

/-- What `create_subscription` appends to its statement. -/
def createSubscriptionParams (sub : Subscription) : List Param :=
  [.text sub.subscriptionId,
    .text sub.symbol,
    .text sub.topic,
    appendOpt .text sub.streamType,
    appendOpt .text sub.mode,
    appendOpt .text sub.filtersJson,
    appendOpt .integer sub.priority,
    .timestamp sub.createdAt,
    appendOpt .timestamp sub.removedAt,
    appendBool sub.isActive,
    appendOpt .text sub.tenantId,
    appendOpt .text sub.sessionId]

/-- What `update_subscription` appends to its statement. -/
def updateSubscriptionParams (sub : Subscription) : List Param :=
  [.text sub.symbol,
    .text sub.topic,
    appendOpt .text sub.streamType,
    appendOpt .text sub.mode,
    appendOpt .text sub.filtersJson,
    appendOpt .integer sub.priority,
    appendOpt .timestamp sub.removedAt,
    appendBool sub.isActive,
    appendOpt .text sub.tenantId,
    appendOpt .text sub.sessionId,
    .text sub.subscriptionId]

section

variable {Json : Type} [DecidableEq Json] (codec : Codec Json)
  {referenced : SubscriptionColumn → Datum Json → Bool}

def createSubscription (store : Store Json subscriptions referenced)
    (supply : Supply) (sub : Subscription) :
    Option Subscription × Store Json subscriptions referenced :=
  create codec store supply insertSubscription
      (createSubscriptionParams sub) fun row =>
    ((row .subscriptionId).asString codec).map fun subscriptionId =>
      { sub with subscriptionId := subscriptionId }

/-- The decoder of `get_subscription_by_id`. -/
def decodeSubscription (row : Row SubscriptionColumn Json) :
    Option Subscription := do
  let subscriptionId ← (row .subscriptionId).asString codec
  let symbol ← (row .symbol).asString codec
  let topic ← (row .topic).asString codec
  let streamType ← (row .streamType).optional (Datum.asString codec)
  let mode ← (row .mode).optional (Datum.asString codec)
  let filtersJson ← (row .filtersJson).optional (Datum.asString codec)
  let priority ← (row .priority).optional Datum.asInt64
  let createdAt ← (row .createdAt).asTimestamp
  let removedAt ← (row .removedAt).optional Datum.asTimestamp
  let isActive ← (row .isActive).asBool
  let tenantId ← (row .tenantId).optional (Datum.asString codec)
  let sessionId ← (row .sessionId).optional (Datum.asString codec)
  return ⟨subscriptionId, symbol, topic, streamType, mode, filtersJson,
    priority, createdAt, removedAt, isActive, tenantId, sessionId⟩

def getSubscriptionById (store : Store Json subscriptions referenced)
    (subscriptionId : String) : Option Subscription :=
  getById codec store .subscriptionId (.text subscriptionId)
    (decodeSubscription codec)

def updateSubscription (store : Store Json subscriptions referenced)
    (sub : Subscription) : Bool × Store Json subscriptions referenced :=
  update codec store updateSubscriptionStatement (updateSubscriptionParams sub)
    sub.subscriptionId

variable {codec}

theorem subscription_fillsNotNull (sub : Subscription)
    (columns : List SubscriptionColumn) :
    FillsNotNull subscriptions columns sub.field := by
  intro column _ hnotNull
  cases column <;> simp_all [subscriptions, Subscription.field]

omit [DecidableEq Json] in
/-- A row that holds the fields of a subscription decodes to it, with the
filters as the server prints them; the key and the creation time are those of
the row. -/
theorem decodeSubscription_of_holds {sub : Subscription}
    {row : Row SubscriptionColumn Json}
    (hholds : ∀ column, column ≠ .subscriptionId → column ≠ .createdAt →
      Holds codec subscriptions row sub.field column)
    {subscriptionId : String} {createdAt : ℕ}
    (hsubscriptionId :
      (row .subscriptionId).asString codec = some subscriptionId)
    (hcreatedAt : (row .createdAt).asTimestamp = some createdAt) :
    decodeSubscription codec row =
      some { sub with
        subscriptionId := subscriptionId
        filtersJson := sub.filtersJson.map (normalized codec)
        createdAt := createdAt } := by
  have hsymbol := (hholds .symbol (by decide) (by decide)).text trivial rfl
  have htopic := (hholds .topic (by decide) (by decide)).text trivial rfl
  have hstreamType := (hholds .streamType (by decide) (by decide)).optText
    trivial rfl
  have hmode := (hholds .mode (by decide) (by decide)).optText trivial rfl
  have hfiltersJson := (hholds .filtersJson (by decide) (by decide)).json
    rfl rfl
  have hpriority := (hholds .priority (by decide) (by decide)).optInteger
    trivial rfl
  have hremovedAt := (hholds .removedAt (by decide) (by decide)).optTimestamp
    rfl rfl
  have hisActive := (hholds .isActive (by decide) (by decide)).bool rfl rfl
  have htenantId := (hholds .tenantId (by decide) (by decide)).optText
    trivial rfl
  have hsessionId := (hholds .sessionId (by decide) (by decide)).optText
    trivial rfl
  simp [decodeSubscription, hsubscriptionId, hsymbol, htopic, hstreamType,
    hmode, hfiltersJson, hpriority, hcreatedAt, hremovedAt, hisActive,
    htenantId, hsessionId]

theorem mem_insertSubscription_columns (column : SubscriptionColumn) :
    column ∈ insertSubscription.columns := by
  cases column <;> decide

theorem createSubscription_reads :
    CreateReads subscriptions referenced (createSubscription codec)
      (fun store created =>
        getSubscriptionById codec store created.subscriptionId)
      (Insertable codec insertSubscription Subscription.field)
      (fun sub result => ∃ text, JsonEq codec sub.filtersJson text ∧
        result = { sub with filtersJson := text }) := by
  apply createReads_getById (fun sub => ⟨rfl, rfl⟩) (by decide)
    (fun sub => subscription_fillsNotNull sub _) (by decide)
  refine rowReads_listed trivial mem_insertSubscription_columns
    (fun _ => rfl) (fun _ => rfl) ?_
  intro sub row hholds
  have hsubscriptionId := (hholds .subscriptionId).text trivial rfl
  have hcreatedAt := (hholds .createdAt).timestamp rfl rfl
  exact ⟨_, decodeSubscription_of_holds (fun column _ _ => hholds column)
    hsubscriptionId hcreatedAt, _, jsonEq_normalized _, rfl⟩

omit [DecidableEq Json] in
theorem asTimestamp_of_decodeSubscription {row : Row SubscriptionColumn Json}
    {sub : Subscription} (hdecode : decodeSubscription codec row = some sub) :
    (row .createdAt).asTimestamp = some sub.createdAt := by
  simp only [decodeSubscription, Option.bind_eq_bind, Option.bind_eq_some_iff,
    Option.pure_def, Option.some.injEq] at hdecode
  grind

/-- The columns `update_subscription` assigns to. -/
def updatedSubscriptionColumns : List SubscriptionColumn :=
  updateSubscriptionStatement.assignments.map Prod.fst

theorem updateSubscription_aligned (sub : Subscription) :
    updateSubscriptionStatement.Aligned updatedSubscriptionColumns
      (updateSubscriptionParams sub) sub.field (.text sub.subscriptionId) :=
  ⟨rfl, rfl, by decide, rfl⟩

theorem updateSubscription_reads :
    UpdateReads subscriptions referenced (updateSubscription codec)
      (fun store sub => getSubscriptionById codec store sub.subscriptionId)
      (fun sub =>
        Admissible codec subscriptions referenced subscriptions.columns
          sub.field)
      (fun old sub result => ∃ text, JsonEq codec sub.filtersJson text ∧
        result =
          { sub with filtersJson := text, createdAt := old.createdAt }) := by
  apply updateReads_getById updateSubscription_aligned (by decide)
    (fun sub => subscription_fillsNotNull sub _) (by decide) rfl (fun _ => rfl)
  intro old sub row hadmissible hkey hold
  have hlisted : ∀ column, column ≠ SubscriptionColumn.subscriptionId →
      column ≠ SubscriptionColumn.createdAt →
      column ∈ updatedSubscriptionColumns := by
    intro column hsubscriptionId hcreatedAt
    cases column <;>
      simp_all [updatedSubscriptionColumns, updateSubscriptionStatement]
  have hcreatedAt := asTimestamp_of_decodeSubscription hold
  have hdecode := decodeSubscription_of_holds
    (fun column hsubscriptionId hother => holds_namedRow hadmissible row
      (hlisted column hsubscriptionId hother)) hkey hcreatedAt
  exact ⟨_, hdecode, _, jsonEq_normalized _, rfl⟩

end

end Datafeed.Storage
