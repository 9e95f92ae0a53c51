import Datafeed.Storage.Alerts
import Datafeed.Storage.Clients
import Datafeed.Storage.Intervals
import Datafeed.Storage.RowUpdates

/-!
# Thresholds and alerts as whole rows

The two record types that the services of the API read by key, change and write
back.  A timestamp is read from the text the server prints, so the time of an
alert's resolution may come back as another one; every other field comes back as
it is written.
-/

namespace Datafeed.Storage

open Sql

variable {Json : Type}

/-! ## Metric thresholds -/

/-- The field named like a column, as a parameter. -/
def MetricThreshold.field (t : MetricThreshold) : ThresholdColumn → Param
  | .id => .integer t.id
  | .instanceId => .text t.instanceId
  | .metricName => .text t.metricName
  | .source => .text t.source
  | .warningThreshold => appendOpt .double t.warningThreshold
  | .criticalThreshold => appendOpt .double t.criticalThreshold
  | .op => .text t.op
  | .enabled => appendBool t.enabled
  | .cooldownSeconds => appendOpt .integer t.cooldownSeconds
  | .createdAt => .timestamp t.createdAt
  | .updatedAt => .timestamp t.updatedAt

/-- `NOW()` is the placeholder before that of the key. -/
def updateMetricThresholdStatement : UpdateStatement ThresholdColumn where
  assignments :=
    [(.instanceId, 1), (.metricName, 2), (.source, 3),
      (.warningThreshold, 4), (.criticalThreshold, 5),
      (.op, 6), (.enabled, 7), (.cooldownSeconds, 8),
      (.updatedAt, 9)]
  key := .id
  keyPlaceholder := 10

/-- What `update_metric_threshold` appends to its statement, and `NOW()`. -/
def updateMetricThresholdParams (now : ℕ) (t : MetricThreshold) : List Param :=
  [.text t.instanceId,
    .text t.metricName,
    .text t.source,
    appendOpt .double t.warningThreshold,
    appendOpt .double t.criticalThreshold,
    .text t.op,
    appendBool t.enabled,
    appendOpt .integer t.cooldownSeconds,
    .timestamp now,
    .integer t.id]

/-- What a column is assigned. -/
def MetricThreshold.assigned (now : ℕ) (t : MetricThreshold) :
    ThresholdColumn → Param
  | .updatedAt => .timestamp now
  | column => t.field column

section

variable [DecidableEq Json] (codec : Codec Json)
  {referenced : ThresholdColumn → Datum Json → Bool}
  (readTime : Datum Json → Option ℕ)

/-- The decoder of `get_metric_threshold_by_id`, over its reader of
timestamps. -/
def decodeMetricThreshold (row : Row ThresholdColumn Json) :
    Option MetricThreshold := do
  let id ← (row .id).asInt64
  let instanceId ← (row .instanceId).asString codec
  let metricName ← (row .metricName).asString codec
  let source ← (row .source).asString codec
  let warningThreshold ← (row .warningThreshold).optional Datum.asDouble
  let criticalThreshold ← (row .criticalThreshold).optional Datum.asDouble
  let op ← (row .op).asString codec
  let enabled ← (row .enabled).asBool
  let cooldownSeconds ← (row .cooldownSeconds).optional Datum.asInt64
  let createdAt ← readTime (row .createdAt)
  let updatedAt ← readTime (row .updatedAt)
  return ⟨id, instanceId, metricName, source, warningThreshold,
    criticalThreshold, op, enabled, cooldownSeconds, createdAt, updatedAt⟩

def getMetricThresholdById (store : Store Json metricThresholds referenced)
    (id : ℤ) : Option MetricThreshold :=
  getById codec store .id (.integer id) (decodeMetricThreshold codec readTime)

/-- `update_metric_threshold` at a time of the server.  The other key of the
table is not checked: a record that was read assigns its columns what they
have. -/
def updateMetricThreshold (now : ℕ)
    (store : Store Json metricThresholds referenced) (t : MetricThreshold) :
    Bool × Store Json metricThresholds referenced :=
  if store.isConnected = false ∨ store.prepared = false then (false, store)
  else
    match store.table.execUpdate codec updateMetricThresholdStatement
        (updateMetricThresholdParams now t) with
    | .error _ => (false, store)
    | .ok (table, changed) => (0 < changed, { store with table := table })

/-- The columns that `update_metric_threshold` assigns a field to. -/
def writtenThresholdColumns : List ThresholdColumn :=
  [.instanceId, .metricName, .source, .warningThreshold, .criticalThreshold,
    .op, .enabled, .cooldownSeconds]

omit [DecidableEq Json] in
theorem threshold_field_of_decode {row : Row ThresholdColumn Json}
    {t : MetricThreshold}
    (hdecode : decodeMetricThreshold codec readTime row = some t)
    {column : ThresholdColumn} (hwritten : column ∈ writtenThresholdColumns)
    (hstored : IsStored codec (metricThresholds.sqlType column) (row column)) :
    stored codec (metricThresholds.sqlType column) (t.field column) =
      row column := by
  simp only [decodeMetricThreshold, Option.bind_eq_bind,
    Option.bind_eq_some_iff, Option.pure_def, Option.some.injEq] at hdecode
  obtain ⟨id, hid, instanceId, hinstanceId, metricName, hmetricName, source,
    hsource, warningThreshold, hwarning, criticalThreshold, hcritical, op, hop,
    enabled, henabled, cooldownSeconds, hcooldown, createdAt, hcreatedAt,
    updatedAt, hupdatedAt, rfl⟩ := hdecode
  cases column with
  | instanceId => exact sendsBack_text (by trivial) _ _ hstored hinstanceId
  | metricName => exact sendsBack_text (by trivial) _ _ hstored hmetricName
  | source => exact sendsBack_text (by trivial) _ _ hstored hsource
  | warningThreshold =>
      exact sendsBack_double.optional rfl _ _ hstored hwarning
  | criticalThreshold =>
      exact sendsBack_double.optional rfl _ _ hstored hcritical
  | op => exact sendsBack_text (by trivial) _ _ hstored hop
  | enabled => exact sendsBack_bool _ _ hstored henabled
  | cooldownSeconds =>
      exact (sendsBack_integer (by trivial)).optional rfl _ _ hstored hcooldown
  | _ => exact absurd hwritten (by decide)

omit [DecidableEq Json] in
theorem threshold_key_of_decode {row : Row ThresholdColumn Json}
    {t : MetricThreshold}
    (hdecode : decodeMetricThreshold codec readTime row = some t)
    (hstored : IsStored codec .int8 (row .id)) {datum : Datum Json}
    (hkey : Sql.store codec .int8 (.integer t.id) = some datum) :
    datum = row .id := by
  have hid : (row .id).asInt64 = some t.id := by
    simp only [decodeMetricThreshold, Option.bind_eq_bind,
      Option.bind_eq_some_iff, Option.pure_def, Option.some.injEq] at hdecode
    obtain ⟨id, hid, hrest⟩ := hdecode
    grind
  have hback := sendsBack_integer (by trivial) _ _ hstored hid
  rw [stored, hkey] at hback
  exact hback

/-- A threshold by its id, as its two adapter calls see it. -/
def thresholdRewriting (referenced : ThresholdColumn → Datum Json → Bool) :
    Rewriting codec metricThresholds referenced ℕ MetricThreshold where
  statement := updateMetricThresholdStatement
  columns := updateMetricThresholdStatement.assignments.map Prod.fst
  params := updateMetricThresholdParams
  field := MetricThreshold.field
  assigned := MetricThreshold.assigned
  written := writtenThresholdColumns
  decode := decodeMetricThreshold codec readTime
  back _ datum := datum
  update := updateMetricThreshold codec
  aligned _ _ := ⟨rfl, rfl, by decide, rfl⟩
  written_subset := by decide
  key_not_written := by decide
  assigned_eq := by
    intro now t column hwritten
    cases column with
    | updatedAt => exact absurd hwritten (by decide)
    | _ => rfl
  field_of_decode row t hdecode column hwritten hstored :=
    threshold_field_of_decode codec readTime hdecode hwritten hstored
  key_of_decode row t datum hdecode hstored hkey :=
    threshold_key_of_decode codec readTime hdecode hstored hkey
  exec_of_update := by
    intro now store t next hupdate
    rw [updateMetricThreshold] at hupdate
    split at hupdate
    · cases hupdate
    · split at hupdate
      · cases hupdate
      · next table changed hexec =>
          rw [Prod.mk.injEq, decide_eq_true_eq] at hupdate
          obtain ⟨hchanged, rfl⟩ := hupdate
          exact ⟨changed, hexec, hchanged⟩

end

/-! ## Alerts -/

section

variable [DecidableEq Json] (codec : Codec Json)
  {referenced : AlertColumn → Datum Json → Bool}
  (readTime : Datum Json → Option ℕ)

/-- The decoder of `get_alert_by_id`, over its reader of timestamps. -/
def decodeAlertThrough (row : Row AlertColumn Json) : Option Alert := do
  let alertId ← (row .alertId).asString codec
  let instanceId ← (row .instanceId).optional (Datum.asString codec)
  let severity ← (row .severity).asString codec
  let source ← (row .source).asString codec
  let metricName ← (row .metricName).asString codec
  let currentValue ← (row .currentValue).optional Datum.asDouble
  let threshold ← (row .threshold).optional Datum.asDouble
  let message ← (row .message).optional (Datum.asString codec)
  let acknowledged ← (row .acknowledged).asBool
  let createdAt ← readTime (row .createdAt)
  let resolvedAt ← (row .resolvedAt).optional readTime
  return ⟨alertId, instanceId, severity, source, metricName, currentValue,
    threshold, message, acknowledged, createdAt, resolvedAt⟩

def getAlertByIdThrough (store : Store Json alerts referenced)
    (alertId : String) : Option Alert :=
  getById codec store .alertId (.text alertId)
    (decodeAlertThrough codec readTime)

/-- What a column of an alert is read as. -/
def alertBack : AlertColumn → Datum Json → Datum Json
  | .resolvedAt, datum => timestampBack readTime datum
  | _, datum => datum

omit [DecidableEq Json] in
theorem readTimestamp_null (mktime : Tm → ℤ) (printTime : ℕ → PrintedTime) :
    readTimestamp mktime printTime (.null : Datum Json) = none := rfl

variable (hnull : readTime .null = none)

omit [DecidableEq Json] in
include hnull in
theorem alert_field_of_decode {row : Row AlertColumn Json} {alert : Alert}
    (hdecode : decodeAlertThrough codec readTime row = some alert)
    {column : AlertColumn} (hwritten : column ∈ updatedAlertColumns)
    (hstored : IsStored codec (alerts.sqlType column) (row column)) :
    stored codec (alerts.sqlType column) (alert.field column) =
      alertBack readTime column (row column) := by
  simp only [decodeAlertThrough, Option.bind_eq_bind, Option.bind_eq_some_iff,
    Option.pure_def, Option.some.injEq] at hdecode
  obtain ⟨alertId, halertId, instanceId, hinstanceId, severity, hseverity,
    source, hsource, metricName, hmetricName, currentValue, hcurrentValue,
    threshold, hthreshold, message, hmessage, acknowledged, hacknowledged,
    createdAt, hcreatedAt, resolvedAt, hresolvedAt, rfl⟩ := hdecode
  cases column with
  | instanceId =>
      exact (sendsBack_text (by trivial)).optional rfl _ _ hstored hinstanceId
  | severity => exact sendsBack_text (by trivial) _ _ hstored hseverity
  | source => exact sendsBack_text (by trivial) _ _ hstored hsource
  | metricName => exact sendsBack_text (by trivial) _ _ hstored hmetricName
  | currentValue =>
      exact sendsBack_double.optional rfl _ _ hstored hcurrentValue
  | threshold => exact sendsBack_double.optional rfl _ _ hstored hthreshold
  | message =>
      exact (sendsBack_text (by trivial)).optional rfl _ _ hstored hmessage
  | acknowledged => exact sendsBack_bool _ _ hstored hacknowledged
  | resolvedAt =>
      have hback : timestampBack readTime .null = (.null : Datum Json) := by
        rw [timestampBack, hnull]
      exact (sendsBack_timestamp readTime).optional hback _ _ hstored
        hresolvedAt
  | _ => exact absurd hwritten (by decide)

omit [DecidableEq Json] in
theorem alert_key_of_decode {row : Row AlertColumn Json} {alert : Alert}
    (hdecode : decodeAlertThrough codec readTime row = some alert)
    (hstored : IsStored codec .uuid (row .alertId)) {datum : Datum Json}
    (hkey : Sql.store codec .uuid (.text alert.alertId) = some datum) :
    datum = row .alertId := by
  have halertId : (row .alertId).asString codec = some alert.alertId := by
    simp only [decodeAlertThrough, Option.bind_eq_bind,
      Option.bind_eq_some_iff, Option.pure_def, Option.some.injEq] at hdecode
    obtain ⟨alertId, halertId, hrest⟩ := hdecode
    grind
  obtain ⟨param, hparam⟩ := hstored
  cases hrow : row .alertId with
  | text value =>
      rw [hrow] at halertId hparam
      obtain rfl : value = alert.alertId := Option.some.inj halertId
      have hread := readUuid_of_store hparam
      simp only [Sql.store, hread, Option.map_some, Option.some.injEq] at hkey
      exact hkey.symm
  | json value =>
      rw [hrow] at hparam
      cases param with
      | text sent =>
          obtain ⟨printed, -, hother⟩ := Option.map_eq_some_iff.mp hparam
          cases hother
      | _ => cases hparam
  | _ =>
      rw [hrow] at halertId
      cases halertId

/-- An alert by its id, as its two adapter calls see it. -/
def alertRewriting (referenced : AlertColumn → Datum Json → Bool) :
    Rewriting codec alerts referenced Unit Alert where
  statement := updateAlertStatement
  columns := updatedAlertColumns
  params _ := updateAlertParams
  field := Alert.field
  assigned _ := Alert.field
  written := updatedAlertColumns
  decode := decodeAlertThrough codec readTime
  back := alertBack readTime
  update _ := updateAlert codec
  aligned _ := updateAlert_aligned
  written_subset := List.Subset.refl _
  key_not_written := by decide
  assigned_eq _ _ _ _ := rfl
  field_of_decode row alert hdecode column hwritten hstored :=
    alert_field_of_decode codec readTime hnull hdecode hwritten hstored
  key_of_decode row alert datum hdecode hstored hkey :=
    alert_key_of_decode codec readTime hdecode hstored hkey
  exec_of_update _ _ _ _ hupdate := exec_of_update hupdate

end

end Datafeed.Storage
