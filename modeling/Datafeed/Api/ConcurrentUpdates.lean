import Datafeed.Storage.WholeRows

/-!
# Requests that change one row

`ConfigService::updateThresholds` and `AlertsService::acknowledgeAlert` read a
record by its key, change some of its fields and write the whole record back.
Each call of the adapter has the connection for itself; the calls of two
requests interleave.  The test for a connection in front of them is left out:
the read makes it again.
-/

namespace Datafeed.Api

open Sql Storage ReadModifyWrite

section

variable {Json : Type} [DecidableEq Json] (codec : Codec Json)
  (mktime : Tm → ℤ) (printTime : ℕ → PrintedTime)

/-! ## Items of `PUT /thresholds` -/

/-- What an item mentions.  A threshold that is `null` counts as absent; any
other `null` is an exception. -/
structure ThresholdItem where
  warningThreshold : Option ℚ
  criticalThreshold : Option ℚ
  enabled : Option Bool
  op : Option String

/-- What `updateThresholds` does to the record it has read. -/
def ThresholdItem.apply (item : ThresholdItem) (existing : MetricThreshold) :
    MetricThreshold :=
  { existing with
    warningThreshold := item.warningThreshold <|> existing.warningThreshold
    criticalThreshold := item.criticalThreshold <|> existing.criticalThreshold
    enabled := item.enabled.getD existing.enabled
    op := item.op.getD existing.op }

def ThresholdItem.param (item : ThresholdItem) : ThresholdColumn → Option Param
  | .warningThreshold => item.warningThreshold.map .double
  | .criticalThreshold => item.criticalThreshold.map .double
  | .enabled => item.enabled.map appendBool
  | .op => item.op.map .text
  | _ => none

theorem ThresholdItem.field_apply (item : ThresholdItem)
    (existing : MetricThreshold) (column : ThresholdColumn) :
    (item.apply existing).field column =
      (item.param column).getD (existing.field column) := by
  obtain ⟨warningThreshold, criticalThreshold, enabled, op⟩ := item
  cases column with
  | warningThreshold => cases warningThreshold <;> rfl
  | criticalThreshold => cases criticalThreshold <;> rfl
  | enabled => cases enabled <;> rfl
  | op => cases op <;> rfl
  | _ => rfl

/-- The threshold with an id. -/
abbrev thresholdRow (referenced : ThresholdColumn → Datum Json → Bool)
    (id : ℤ) :
    WholeRow (Store Json metricThresholds referenced) MetricThreshold ℕ
      ThresholdColumn (Datum Json) :=
  (thresholdRewriting codec (readTimestamp mktime printTime)
    referenced).wholeRow (.integer id)

def ThresholdItem.patch (referenced : ThresholdColumn → Datum Json → Bool)
    (id : ℤ) (item : ThresholdItem) :
    Patch (thresholdRow codec mktime printTime referenced id) :=
  (thresholdRewriting codec (readTimestamp mktime printTime) referenced).patch
    (.integer id) item.apply item.param
    (by
      intro column new hnew
      cases column with
      | warningThreshold | criticalThreshold | enabled | op =>
          change _ ∈ writtenThresholdColumns
          decide
      | _ => cases hnew)
    item.field_apply

/-! ## Updates of an alert -/

/-- The fields that a caller of `update_alert` has changed in the record it has
read. -/
structure AlertUpdate where
  instanceId : Option (Option String) := none
  severity : Option String := none
  source : Option String := none
  metricName : Option String := none
  currentValue : Option (Option ℚ) := none
  threshold : Option (Option ℚ) := none
  message : Option (Option String) := none
  acknowledged : Option Bool := none
  resolvedAt : Option (Option ℕ) := none

/-- What `acknowledgeAlert` changes. -/
def acknowledgement : AlertUpdate where
  acknowledged := some true

def AlertUpdate.apply (changes : AlertUpdate) (existing : Alert) : Alert :=
  { existing with
    instanceId := changes.instanceId.getD existing.instanceId
    severity := changes.severity.getD existing.severity
    source := changes.source.getD existing.source
    metricName := changes.metricName.getD existing.metricName
    currentValue := changes.currentValue.getD existing.currentValue
    threshold := changes.threshold.getD existing.threshold
    message := changes.message.getD existing.message
    acknowledged := changes.acknowledged.getD existing.acknowledged
    resolvedAt := changes.resolvedAt.getD existing.resolvedAt }

def AlertUpdate.param (changes : AlertUpdate) : AlertColumn → Option Param
  | .instanceId => changes.instanceId.map (appendOpt .text)
  | .severity => changes.severity.map .text
  | .source => changes.source.map .text
  | .metricName => changes.metricName.map .text
  | .currentValue => changes.currentValue.map (appendOpt .double)
  | .threshold => changes.threshold.map (appendOpt .double)
  | .message => changes.message.map (appendOpt .text)
  | .acknowledged => changes.acknowledged.map appendBool
  | .resolvedAt => changes.resolvedAt.map (appendOpt .timestamp)
  | .alertId | .createdAt => none

theorem AlertUpdate.field_apply (changes : AlertUpdate) (existing : Alert)
    (column : AlertColumn) :
    (changes.apply existing).field column =
      (changes.param column).getD (existing.field column) := by
  obtain ⟨instanceId, severity, source, metricName, currentValue, threshold,
    message, acknowledged, resolvedAt⟩ := changes
  cases column with
  | instanceId => cases instanceId <;> rfl
  | severity => cases severity <;> rfl
  | source => cases source <;> rfl
  | metricName => cases metricName <;> rfl
  | currentValue => cases currentValue <;> rfl
  | threshold => cases threshold <;> rfl
  | message => cases message <;> rfl
  | acknowledged => cases acknowledged <;> rfl
  | resolvedAt => cases resolvedAt <;> rfl
  | _ => rfl

/-- The alert with an id. -/
abbrev alertRow (referenced : AlertColumn → Datum Json → Bool)
    (alertId : String) :
    WholeRow (Store Json alerts referenced) Alert Unit AlertColumn
      (Datum Json) :=
  (alertRewriting codec (readTimestamp mktime printTime)
    (readTimestamp_null mktime printTime) referenced).wholeRow (.text alertId)

def AlertUpdate.patch (referenced : AlertColumn → Datum Json → Bool)
    (alertId : String) (changes : AlertUpdate) :
    Patch (alertRow codec mktime printTime referenced alertId) :=
  (alertRewriting codec (readTimestamp mktime printTime)
    (readTimestamp_null mktime printTime) referenced).patch
    (.text alertId) changes.apply changes.param
    (by
      intro column new hnew
      cases column with
      | alertId | createdAt => cases hnew
      | _ =>
          change _ ∈ updatedAlertColumns
          decide)
    changes.field_apply

/-! ## Two requests at a time -/

/-- Two items for one id, from two requests. -/
def updateThresholds (referenced : ThresholdColumn → Datum Json → Bool)
    (id : ℤ) (item : Side → ThresholdItem) :
    Store Json metricThresholds referenced →
      Machine (State (Store Json metricThresholds referenced) MetricThreshold)
        (Side × ℕ) :=
  requests (thresholdRow codec mktime printTime referenced id) fun side =>
    (item side).patch codec mktime printTime referenced id

/-- Two updates of one alert. -/
def updateAlerts (referenced : AlertColumn → Datum Json → Bool)
    (alertId : String) (changes : Side → AlertUpdate) :
    Store Json alerts referenced →
      Machine (State (Store Json alerts referenced) Alert) (Side × Unit) :=
  requests (alertRow codec mktime printTime referenced alertId) fun side =>
    (changes side).patch codec mktime printTime referenced alertId

/-- Every field of a threshold is read as it is written. -/
theorem threshold_readBack (referenced : ThresholdColumn → Datum Json → Bool)
    (id : ℤ) (item : ThresholdItem) :
    (item.patch codec mktime printTime referenced id).ReadBack :=
  fun _ _ _ => rfl

/-- Of an alert only the time of its resolution is read from a text. -/
theorem alert_readBack_iff (referenced : AlertColumn → Datum Json → Bool)
    (alertId : String) (changes : AlertUpdate) :
    (changes.patch codec mktime printTime referenced alertId).ReadBack ↔
      ∀ ms, changes.resolvedAt = some (some ms) →
        readTimestamp mktime printTime (.timestamp ms : Datum Json) =
          some ms := by
  have hpatch : (changes.patch codec mktime printTime referenced
        alertId).ReadBack ↔
      ∀ column new, changes.param column = some new →
        alertBack (readTimestamp mktime printTime) column
            (stored codec (alerts.sqlType column) new) =
          stored codec (alerts.sqlType column) new :=
    Rewriting.readBack_patch_iff _ _ _
  rw [hpatch]
  constructor
  · intro hback ms hresolved
    have hparam : changes.param .resolvedAt = some (.timestamp ms) := by
      rw [AlertUpdate.param, hresolved]
      rfl
    have hread : timestampBack (readTimestamp mktime printTime)
        (.timestamp ms : Datum Json) = .timestamp ms :=
      hback .resolvedAt (.timestamp ms) hparam
    rw [timestampBack] at hread
    split at hread
    · next other hother => rw [hother, Datum.timestamp.inj hread]
    · cases hread
  · intro hread column new hnew
    cases column with
    | resolvedAt =>
        obtain ⟨resolvedAt, hresolved, rfl⟩ := Option.map_eq_some_iff.mp hnew
        cases resolvedAt with
        | none => rfl
        | some ms =>
            change timestampBack (readTimestamp mktime printTime)
              (.timestamp ms : Datum Json) = .timestamp ms
            rw [timestampBack, hread ms hresolved]
    | _ => rfl

/-- Two updates of disjoint fields that succeed are both in the row exactly
where the first writer wrote before the other one read, and its time of
resolution, if it set one, is read as it is written, or where the row they both
read had the first writer's values already. -/
theorem updates_kept_iff :
    (∀ (referenced : ThresholdColumn → Datum Json → Bool) (id : ℤ)
      (item : Side → ThresholdItem)
      (store : Store Json metricThresholds referenced) calls final,
      Disjoint (fun side =>
        (item side).patch codec mktime printTime referenced id) →
      (updateThresholds codec mktime printTime referenced id item store).run
        (updateThresholds codec mktime printTime referenced id item
          store).initial calls = some final →
      final.Succeeded →
        ((∀ side, ((item side).patch codec mktime printTime referenced
            id).Kept final.store) ↔
          ∀ side, WritesFirst side (calls.map Prod.fst) → ∀ existing,
            getMetricThresholdById codec (readTimestamp mktime printTime) store
              id = some existing →
            ((item side).patch codec mktime printTime referenced id).In
              existing)) ∧
    ∀ (referenced : AlertColumn → Datum Json → Bool) (alertId : String)
      (changes : Side → AlertUpdate)
      (store : Store Json alerts referenced) calls final,
      Disjoint (fun side =>
        (changes side).patch codec mktime printTime referenced alertId) →
      (updateAlerts codec mktime printTime referenced alertId changes store).run
        (updateAlerts codec mktime printTime referenced alertId changes
          store).initial calls = some final →
      final.Succeeded →
        ((∀ side, ((changes side).patch codec mktime printTime referenced
            alertId).Kept final.store) ↔
          ∀ side,
            (GoesFirst side (calls.map Prod.fst) →
              ∀ ms, (changes side).resolvedAt = some (some ms) →
                readTimestamp mktime printTime (.timestamp ms : Datum Json) =
                  some ms) ∧
            (WritesFirst side (calls.map Prod.fst) → ∀ existing,
              getAlertByIdThrough codec (readTimestamp mktime printTime) store
                alertId = some existing →
              ((changes side).patch codec mktime printTime referenced
                alertId).In existing)) := by
  constructor
  · intro referenced id item store calls final hdisjoint hrun hsucceed
    rw [kept_iff hdisjoint hrun hsucceed]
    constructor
    · exact fun hall side => (hall side).2
    · exact fun hall side =>
        ⟨fun _ => threshold_readBack codec mktime printTime referenced id _,
          hall side⟩
  · intro referenced alertId changes store calls final hdisjoint hrun hsucceed
    rw [kept_iff hdisjoint hrun hsucceed]
    simp only [alert_readBack_iff]
    rfl

end

/-! ## Runs on one row -/

/-- One request after the other. -/
def consecutive : List Side := [.left, .left, .right, .right]

/-- Both requests read before either writes. -/
def overlapping : List Side := [.left, .right, .left, .right]

def latencyThreshold : MetricThreshold where
  id := 1
  instanceId := "live-1"
  metricName := "p99_latency_ms"
  source := "feed"
  warningThreshold := some 80
  criticalThreshold := some 200
  op := "gt"
  enabled := true
  cooldownSeconds := some 300
  createdAt := 1700000000000
  updatedAt := 1700000000000

def latencyStore : Store String metricThresholds fun _ _ => true where
  table :=
    { rows := [fun column => stored plainCodec (metricThresholds.sqlType column)
        (latencyThreshold.field column)]
      valid := by decide }
  isConnected := true
  prepared := true

/-- A new warning threshold, and an end of the checks. -/
def latencyItems : Side → ThresholdItem
  | .left => ⟨some 90, none, none, none⟩
  | .right => ⟨none, none, some false, none⟩

def latencyRun (callers : List Side) :
    Option (State (Store String metricThresholds fun _ _ => true)
      MetricThreshold) :=
  (updateThresholds plainCodec (mktime utc) timestamptzText (fun _ _ => true) 1
      latencyItems latencyStore).run
    (updateThresholds plainCodec (mktime utc) timestamptzText (fun _ _ => true)
      1 latencyItems latencyStore).initial
    (callers.map fun side => (side, 1700000060000))

theorem latencyItems_disjoint : Disjoint fun side =>
    (latencyItems side).patch plainCodec (mktime utc) timestamptzText
      (fun _ _ => true) 1 := by
  intro column
  cases column with
  | enabled => exact Or.inl rfl
  | _ => exact Or.inr rfl

def latencyAlert : Alert where
  alertId := "0a4c3f52-9b1d-4e7a-8c60-5d2e7f1b3a98"
  instanceId := some "live-1"
  severity := "warning"
  source := "feed"
  metricName := "p99_latency_ms"
  currentValue := some 95
  threshold := some 80
  message := none
  acknowledged := false
  createdAt := 1700000000000
  resolvedAt := none

def alertStore : Store String alerts fun _ _ => true where
  table :=
    { rows := [fun column => stored plainCodec (alerts.sqlType column)
        (latencyAlert.field column)]
      valid := by decide }
  isConnected := true
  prepared := true

/-- The end of the alert, and its acknowledgement. -/
def alertChanges : Side → AlertUpdate
  | .left => { resolvedAt := some (some 1700000120000) }
  | .right => acknowledgement

def alertRun (callers : List Side) :
    Option (State (Store String alerts fun _ _ => true) Alert) :=
  (updateAlerts plainCodec (mktime utc) timestamptzText (fun _ _ => true)
      latencyAlert.alertId alertChanges alertStore).run
    (updateAlerts plainCodec (mktime utc) timestamptzText (fun _ _ => true)
      latencyAlert.alertId alertChanges alertStore).initial
    (callers.map fun side => (side, ()))

theorem alertChanges_disjoint : Disjoint fun side =>
    (alertChanges side).patch plainCodec (mktime utc) timestamptzText
      (fun _ _ => true) latencyAlert.alertId := by
  intro column
  cases column with
  | acknowledged => exact Or.inl rfl
  | _ => exact Or.inr rfl

theorem updates_kept_iff_consecutive :
    (∃ final, latencyRun consecutive = some final ∧
      ∀ side, ((latencyItems side).patch plainCodec (mktime utc)
        timestamptzText (fun _ _ => true) 1).Kept final.store) ∧
    ∃ final, alertRun consecutive = some final ∧
      ∀ side, ((alertChanges side).patch plainCodec (mktime utc)
        timestamptzText (fun _ _ => true) latencyAlert.alertId).Kept
          final.store := by
  obtain ⟨hthresholds, halerts⟩ :=
    updates_kept_iff plainCodec (mktime utc) timestamptzText
  have hgoes : GoesFirst .left consecutive := rfl
  constructor
  · have hchecked : (latencyRun consecutive).any State.succeeded = true := by
      decide +kernel
    obtain ⟨final, hrun, hsucceed⟩ := exists_succeeded hchecked
    refine ⟨final, hrun, (hthresholds _ 1 latencyItems latencyStore _ final
      latencyItems_disjoint hrun hsucceed).mpr ?_⟩
    intro side hwrites
    exact absurd hgoes (not_goesFirst_of_writesFirst hwrites)
  · have hchecked : (alertRun consecutive).any State.succeeded = true := by
      decide +kernel
    obtain ⟨final, hrun, hsucceed⟩ := exists_succeeded hchecked
    refine ⟨final, hrun, (halerts _ latencyAlert.alertId alertChanges alertStore
      _ final alertChanges_disjoint hrun hsucceed).mpr fun side => ⟨?_, ?_⟩⟩
    · intro _ ms hresolved
      cases side with
      | left =>
          obtain rfl : 1700000120000 = ms :=
            Option.some.inj (Option.some.inj hresolved)
          decide +kernel
      | right => cases hresolved
    · intro hwrites
      exact absurd hgoes (not_goesFirst_of_writesFirst hwrites)

/-- Both requests report success, and the new warning threshold is gone. -/
theorem overlapping_update_is_lost :
    ∃ final, latencyRun overlapping = some final ∧ final.Succeeded ∧
      (Disjoint fun side => (latencyItems side).patch plainCodec (mktime utc)
        timestamptzText (fun _ _ => true) 1) ∧
      ¬ ∀ side, ((latencyItems side).patch plainCodec (mktime utc)
        timestamptzText (fun _ _ => true) 1).Kept final.store := by
  have hchecked : (latencyRun overlapping).any State.succeeded = true := by
    decide +kernel
  obtain ⟨final, hrun, hsucceed⟩ := exists_succeeded hchecked
  refine ⟨final, hrun, hsucceed, latencyItems_disjoint, ?_⟩
  rw [kept_iff latencyItems_disjoint hrun hsucceed]
  intro hall
  have hwrites : WritesFirst .left overlapping := Or.inl rfl
  have hread : (getMetricThresholdById plainCodec
      (readTimestamp (mktime utc) timestamptzText) latencyStore 1).map
        (fun t => t.warningThreshold) = some (some 80) := by
    decide +kernel
  obtain ⟨existing, hexisting, hwarning⟩ := Option.map_eq_some_iff.mp hread
  have hin := (hall .left).2 hwrites existing hexisting .warningThreshold
    (.float 90) rfl
  have hstored : stored plainCodec .float8
      (appendOpt .double existing.warningThreshold) =
        (.float 90 : Datum String) := hin
  rw [hwarning] at hstored
  exact absurd hstored (by decide)

end Datafeed.Api
