import Datafeed.Api.ConcurrentUpdates
import Datafeed.Api.Conditions
import Datafeed.Storage.AuditLog
import Datafeed.Storage.Selecting

/-!
# Lists with an order

`getAlerts`, `getAlertHistory`, `getThresholds` and `getTimeline`.  Each asks the
adapter for the rows of one table in an order.  Where nothing is to be filtered
the condition is the order alone, which the adapter puts behind `WHERE`; and the
history of the alerts passes a status that filters like any other.
-/

namespace Datafeed.Api

open Ranking Select Sql SqlLexer Storage

/-! ## Columns -/

def alertNames : Names AlertColumn :=
  [("alert_id", .alertId), ("instance_id", .instanceId),
    ("severity", .severity), ("source", .source),
    ("metric_name", .metricName), ("current_value", .currentValue),
    ("threshold", .threshold), ("message", .message),
    ("acknowledged", .acknowledged), ("created_at", .createdAt),
    ("resolved_at", .resolvedAt)]

def thresholdNames : Names ThresholdColumn :=
  [("id", .id), ("instance_id", .instanceId), ("metric_name", .metricName),
    ("source", .source), ("warning_threshold", .warningThreshold),
    ("critical_threshold", .criticalThreshold), ("operator", .op),
    ("enabled", .enabled), ("cooldown_seconds", .cooldownSeconds),
    ("created_at", .createdAt), ("updated_at", .updatedAt)]

def feedEventNames : Names FeedEventColumn :=
  [("event_id", .eventId), ("actor_type", .actorType),
    ("actor_id", .actorId), ("action_type", .actionType),
    ("target_type", .targetType), ("target_id", .targetId),
    ("result", .result), ("error_code", .errorCode), ("trace_id", .traceId),
    ("correlation_id", .correlationId), ("occurred_at", .occurredAt),
    ("metadata", .metadata)]

/-! ## The services -/

/-- What `getTimeline` shows of an event. -/
structure TimelineEntry where
  eventId : String
  actorType : Option String
  actorId : Option String
  actionType : String
  targetType : Option String
  targetId : Option String
  result : Option String
  errorCode : Option String
  occurredAt : ℕ

def timelineEntry (ev : FeedEvent) : TimelineEntry where
  eventId := ev.eventId
  actorType := ev.actorType
  actorId := ev.actorId
  actionType := ev.actionType
  targetType := ev.targetType
  targetId := ev.targetId
  result := ev.result
  errorCode := ev.errorCode
  occurredAt := ev.occurredAt

section

variable {Json : Type} (codec : Codec Json) (mktime : Tm → ℤ)
  (printTime : ℕ → PrintedTime)
  {alertReferenced : AlertColumn → Datum Json → Bool}
  {thresholdReferenced : ThresholdColumn → Datum Json → Bool}
  {eventReferenced : FeedEventColumn → Datum Json → Bool}

/-- An alert as `get_alerts_by_condition` reads it. -/
abbrev readAlert : Row AlertColumn Json → Option Alert :=
  decodeAlertThrough codec (readTimestamp mktime printTime)

abbrev readThreshold : Row ThresholdColumn Json → Option MetricThreshold :=
  decodeMetricThreshold codec (readTimestamp mktime printTime)

def readTimelineEntry (row : Row FeedEventColumn Json) :
    Option TimelineEntry :=
  (decodeFeedEvent codec (throughText (readTimestamp mktime printTime)
    row)).map timelineEntry

/-- The lists that `getAlerts` can return. -/
def GetAlerts (engine : Engine Json alerts)
    (store : Store Json alerts alertReferenced) (status : String)
    (records : List Alert) : Prop :=
  ReadsByCondition engine alertNames "alerts"
    (readAlert codec mktime printTime) store
    (compose (getByCondition "alerts" [.text (alertsWhere status)])) records

def GetAlertHistory (engine : Engine Json alerts)
    (store : Store Json alerts alertReferenced) (records : List Alert) :
    Prop :=
  GetAlerts codec mktime printTime engine store "all" records

def GetThresholds (engine : Engine Json metricThresholds)
    (store : Store Json metricThresholds thresholdReferenced)
    (records : List MetricThreshold) : Prop :=
  ReadsByCondition engine thresholdNames "metric_thresholds"
    (readThreshold codec mktime printTime) store
    (compose (getByCondition "metric_thresholds"
      [.text "ORDER BY metric_name ASC"])) records

def GetTimeline (engine : Engine Json feedEvents)
    (store : Store Json feedEvents eventReferenced)
    (entries : List TimelineEntry) : Prop :=
  ReadsByCondition engine feedEventNames "feed_events"
    (readTimelineEntry codec mktime printTime) store
    (compose (getByCondition "feed_events"
      [.text "ORDER BY occurred_at DESC LIMIT 100"])) entries

/-! ## What they are for -/

/-- The first row is as new as the second. -/
def newerFirst {Column : Type} (time : Column) (first second : Row Column Json) :
    Bool :=
  decide (rank (second time) ≤ rank (first time))

/-- The newest rows, as they are read; equally new rows stand in any order. -/
def NewestHundred {Column Record : Type} (time : Column)
    (decode : Row Column Json → Option Record) (rows : List (Row Column Json))
    (records : List Record) : Prop :=
  ∃ result, Top (newerFirst time) 100 rows result ∧
    ReadAs decode result records

/-- All rows, in the server's order of a column. -/
def SortedBy {Column Record : Type} {schema : Schema Column}
    (engine : Engine Json schema) (column : Column)
    (decode : Row Column Json → Option Record) (rows : List (Row Column Json))
    (records : List Record) : Prop :=
  ∃ arranged, Arranges (fun first second =>
      engine.le (first column) (second column)) rows arranged ∧
    ReadAs decode arranged records

def isAcknowledged (value : Bool) (row : Row AlertColumn Json) : Bool :=
  decide ((row .acknowledged).asBool = some value)

/-- The alerts of a status. -/
def hasStatus (status : String) (row : Row AlertColumn Json) : Bool :=
  if status = "active" then
    isAcknowledged false row && (row .resolvedAt).isNull
  else if status = "acknowledged" then isAcknowledged true row
  else if status ≠ "" then isAcknowledged false row
  else true

/-! ## Alerts of a status -/

theorem isPreorder_newerFirst {Column : Type} (time : Column) :
    IsPreorder (newerFirst time : Row Column Json → _ → Bool) :=
  (isPreorder_byKey fun row : Row Column Json => rank (row time)).flip

theorem selection_acknowledgedIs (engine : Engine Json alerts) (value : Bool) :
    ((acknowledgedIs value).resolve alertNames).bind engine.test =
      some (isAcknowledged value) := by
  have hresolve : (acknowledgedIs value).resolve alertNames =
      some (.compare (.column .acknowledged) ['='] (.boolean value)) := by
    cases value <;> decide +kernel
  rw [hresolve, Option.bind_some, engine.test_boolean _ _ rfl]
  rfl

theorem selection_resolvedAt (engine : Engine Json alerts) :
    ((Predicate.isNull (.column "resolved_at".toList) false).resolve
        alertNames).bind engine.test =
      some fun row => (row .resolvedAt).isNull := by
  have hresolve : (Predicate.isNull (.column "resolved_at".toList)
      false).resolve alertNames = some (.isNull (.column .resolvedAt) false) := by
    decide +kernel
  rw [hresolve, Option.bind_some, engine.test_isNull]

theorem selection_alertsComparisons (engine : Engine Json alerts)
    {status : String} (hstatus : status ≠ "") :
    selection engine alertNames (some [alertsComparisons status]) =
      some (hasStatus status) := by
  have hacknowledged := selection_acknowledgedIs engine
  have hresolved := selection_resolvedAt engine
  simp only [selection, alertsComparisons, List.map_cons, List.map_nil]
  by_cases hactive : status = "active"
  · simp only [if_pos hactive, List.map_cons, List.map_nil, hacknowledged,
      hresolved, allOrNone, Option.map_some, Option.some.injEq]
    funext row
    simp [hasStatus, hactive]
  · by_cases hother : status = "acknowledged"
    · simp only [if_neg hactive, if_pos hother, List.map_cons, List.map_nil,
        hacknowledged, allOrNone, Option.map_some, Option.some.injEq]
      funext row
      simp [hasStatus, hother]
    · simp only [if_neg hactive, if_neg hother, List.map_cons, List.map_nil,
        hacknowledged, allOrNone, Option.map_some, Option.some.injEq]
      funext row
      simp [hasStatus, hactive, hother, hstatus]

theorem planOf_getAlerts (engine : Engine Json alerts) {status : String}
    (hstatus : status ≠ "") :
    planOf engine alertNames "alerts"
        (compose (getByCondition "alerts" [.text (alertsWhere status)])) =
      some ⟨hasStatus status, some (.createdAt, true), some 100⟩ := by
  have hordering : ordering alertNames (some ("created_at".toList, true)) =
      some (some (.createdAt, true)) := by
    decide +kernel
  rw [planOf_of_parse engine alertNames (parse_getAlerts hstatus) rfl,
    Statement.plan, selection_alertsComparisons engine hstatus,
    Option.bind_some, hordering]
  rfl

/-! ## What is read of the alerts -/

variable {codec mktime printTime}

section

variable {store : Store Json alerts alertReferenced}
  (htyped : Typed codec store)

include htyped

theorem exists_readAlert (hyears : PrintsYears printTime store)
    {row : Row AlertColumn Json}
    (hrow : row ∈ store.table.rows) :
    ∃ alert, readAlert codec mktime printTime row = some alert := by
  have hstored := htyped row hrow
  have hpresent : ∀ column ∈ alerts.columns, alerts.notNull column = true →
      (row column).isNull = false :=
    fun column => isNull_of_notNull hrow
  have htime : ∀ column, alerts.sqlType column = .timestamptz →
      (row column).isNull = false →
        ∃ ms, readTimestamp mktime printTime (row column) = some ms := by
    intro column htype hcolumn
    have htimestamp : IsStored codec .timestamptz (row column) := by
      rw [← htype]
      exact hstored column
    exact exists_readTimestamp mktime htimestamp
      (hyears row hrow column) hcolumn
  have hacknowledged : ∃ value, (row .acknowledged).asBool = some value :=
    exists_asBool (hstored .acknowledged)
      (hpresent .acknowledged (by decide) rfl)
  rw [readAlert, decodeAlertThrough]
  refine exists_bind (exists_asString (by trivial) (hstored .alertId)
    (hpresent .alertId (by decide) rfl)) fun _ => ?_
  refine exists_bind (exists_optional
    (exists_asString (by trivial) (hstored .instanceId))) fun _ => ?_
  refine exists_bind (exists_asString (by trivial) (hstored .severity)
    (hpresent .severity (by decide) rfl)) fun _ => ?_
  refine exists_bind (exists_asString (by trivial) (hstored .source)
    (hpresent .source (by decide) rfl)) fun _ => ?_
  refine exists_bind (exists_asString (by trivial) (hstored .metricName)
    (hpresent .metricName (by decide) rfl)) fun _ => ?_
  refine exists_bind (exists_optional
    (exists_asDouble (hstored .currentValue))) fun _ => ?_
  refine exists_bind (exists_optional
    (exists_asDouble (hstored .threshold))) fun _ => ?_
  refine exists_bind (exists_optional
    (exists_asString (by trivial) (hstored .message))) fun _ => ?_
  refine exists_bind hacknowledged fun _ => ?_
  refine exists_bind (htime .createdAt rfl
    (hpresent .createdAt (by decide) rfl)) fun _ => ?_
  refine exists_bind (exists_optional (htime .resolvedAt rfl)) fun _ => ?_
  exact ⟨_, rfl⟩

omit htyped in
theorem asBool_of_readAlert {row : Row AlertColumn Json} {alert : Alert}
    (hread : readAlert codec mktime printTime row = some alert) :
    (row .acknowledged).asBool = some alert.acknowledged := by
  simp only [readAlert, decodeAlertThrough, Option.bind_eq_bind,
    Option.bind_eq_some_iff, Option.pure_def, Option.some.injEq] at hread
  obtain ⟨alertId, -, instanceId, -, severity, -, source, -, metricName, -,
    currentValue, -, threshold, -, message, -, acknowledged, hacknowledged,
    createdAt, -, resolvedAt, -, rfl⟩ := hread
  exact hacknowledged

theorem isAcknowledged_eq {row : Row AlertColumn Json}
    (hrow : row ∈ store.table.rows) :
    isAcknowledged false row = !isAcknowledged true row := by
  obtain ⟨value, hvalue⟩ := exists_boolean
    (htyped row hrow .acknowledged)
    (isNull_of_notNull hrow (by decide) rfl)
  rw [isAcknowledged, isAcknowledged, hvalue]
  cases value <;> rfl

/-- The order of the statement is the one by the time. -/
theorem le_createdAt (engine : Engine Json alerts)
    {first second : Row AlertColumn Json} (hfirst : first ∈ store.table.rows)
    (hsecond : second ∈ store.table.rows) :
    engine.le (second .createdAt) (first .createdAt) =
      newerFirst .createdAt first second := by
  obtain ⟨firstMs, hfirstMs⟩ := exists_timestamp
    (htyped first hfirst .createdAt)
    (isNull_of_notNull hfirst (by decide) rfl)
  obtain ⟨secondMs, hsecondMs⟩ := exists_timestamp
    (htyped second hsecond .createdAt)
    (isNull_of_notNull hsecond (by decide) rfl)
  rw [newerFirst, hfirstMs, hsecondMs, engine.le_timestamp]
  rfl

/-- With a status, the list is one of the newest alerts that have it. -/
theorem getAlerts_iff (hyears : PrintsYears printTime store)
    (engine : Engine Json alerts) (hconnected : store.isConnected = true)
    {status : String} (hstatus : status ≠ "") (records : List Alert) :
    GetAlerts codec mktime printTime engine store status records ↔
      NewestHundred .createdAt (readAlert codec mktime printTime)
        (store.table.rows.filter (hasStatus status)) records := by
  rw [GetAlerts, readsByCondition_of_plan hconnected
    (planOf_getAlerts engine hstatus)]
  have hsame : ∀ first ∈ store.table.rows.filter (hasStatus status),
      ∀ second ∈ store.table.rows.filter (hasStatus status),
        engine.le (second .createdAt) (first .createdAt) =
          newerFirst .createdAt first second :=
    fun first hfirst second hsecond => le_createdAt htyped engine
      (List.mem_of_mem_filter hfirst) (List.mem_of_mem_filter hsecond)
  have hread : ∀ arranged : List (Row AlertColumn Json),
      arranged.Perm (store.table.rows.filter (hasStatus status)) →
        ReadAs (readAlert codec mktime printTime) (arranged.take 100)
          (decodeRows (readAlert codec mktime printTime)
            (arranged.take 100)) := by
    intro arranged hperm
    apply readAs_decodeRows
    intro row hrow
    exact exists_readAlert htyped hyears (List.mem_of_mem_filter
      (hperm.mem_iff.mp (List.mem_of_mem_take hrow)))
  constructor
  · rintro ⟨-, ⟨arranged, harranged, rfl⟩, rfl⟩
    exact ⟨_, ⟨arranged, harranged.congr hsame, rfl⟩,
      hread arranged harranged.perm⟩
  · rintro ⟨-, ⟨arranged, harranged, rfl⟩, hrecords⟩
    refine ⟨arranged.take 100, ⟨arranged, harranged.congr ?_, rfl⟩,
      eq_of_readAs hrecords (hread arranged harranged.perm)⟩
    exact fun first hfirst second hsecond =>
      (hsame first hfirst second hsecond).symm

end

/-! ## Which lists are right -/

theorem hasStatus_empty :
    (hasStatus "" : Row AlertColumn Json → Bool) = fun _ => true := by
  funext row
  simp [hasStatus]

theorem newestHundred_nil_iff {Column Record : Type} {time : Column}
    {decode : Row Column Json → Option Record}
    {rows : List (Row Column Json)} :
    NewestHundred time decode rows [] ↔ rows = [] := by
  constructor
  · rintro ⟨-, ⟨arranged, harranged, rfl⟩, hread⟩
    have hnil : arranged.take 100 = [] := readAs_nil_iff.mp hread
    rw [List.take_eq_nil_iff] at hnil
    obtain rfl := hnil.resolve_left (by decide)
    exact List.nil_perm.mp harranged.perm
  · rintro rfl
    exact ⟨[], ⟨[], ⟨List.Perm.refl _, List.Pairwise.nil⟩, rfl⟩, rfl⟩

/-- The newest rows of a selection are the newest of all exactly where every
other row has enough selected rows that are as new. -/
theorem newestHundred_filter_iff {Column Record : Type} {time : Column}
    {decode : Row Column Json → Option Record} {rows : List (Row Column Json)}
    (hdecode : ∀ row ∈ rows, ∃ record, decode row = some record)
    {selected : Row Column Json → Bool}
    (htells : ∀ first ∈ rows, ∀ second ∈ rows, decode first = decode second →
      selected first = selected second) :
    (∀ records, NewestHundred time decode (rows.filter selected) records →
        NewestHundred time decode rows records) ↔
      ∀ row ∈ rows, selected row = false →
        100 ≤ (rows.filter selected).countP
          fun other => newerFirst time other row := by
  rw [← top_filter_iff (isPreorder_newerFirst time) 100 htells]
  constructor
  · intro hall result hresult
    have hread : ReadAs decode result (decodeRows decode result) := by
      apply readAs_decodeRows
      intro row hrow
      obtain ⟨arranged, harranged, rfl⟩ := hresult
      exact hdecode row (List.mem_of_mem_filter
        (harranged.perm.mem_iff.mp (List.mem_of_mem_take hrow)))
    obtain ⟨other, hother, hsame⟩ := hall _ ⟨result, hresult, hread⟩
    exact ⟨other, hother, Eq.trans hsame hread.symm⟩
  · rintro hall records ⟨result, hresult, hread⟩
    obtain ⟨other, hother, hsame⟩ := hall result hresult
    exact ⟨other, hother, hsame.trans hread⟩

theorem sortedBy_nil_iff {Column Record : Type} {schema : Schema Column}
    {engine : Engine Json schema} {column : Column}
    {decode : Row Column Json → Option Record}
    {rows : List (Row Column Json)} :
    SortedBy engine column decode rows [] ↔ rows = [] := by
  constructor
  · rintro ⟨arranged, harranged, hread⟩
    rw [readAs_nil_iff.mp hread] at harranged
    exact List.nil_perm.mp harranged.perm
  · rintro rfl
    exact ⟨[], ⟨List.Perm.refl _, List.Pairwise.nil⟩, rfl⟩

theorem planOf_of_sortsOnly {Column : Type} {schema : Schema Column}
    (engine : Engine Json schema) (names : Names Column) (table : String)
    (caller : Caller) (hsorts : caller.sortsOnly = true)
    {statement : List Piece} (hstatement : statement ∈ caller.statements) :
    planOf engine names table (compose statement) = none :=
  planOf_of_not_grammatical engine names table
    (not_grammatical_of_sortsOnly hsorts statement hstatement)

section

variable {store : Store Json alerts alertReferenced}
  (htyped : Typed codec store) (hyears : PrintsYears printTime store)
  (hconnected : store.isConnected = true) (engine : Engine Json alerts)

include htyped hyears hconnected

theorem getAlerts_newest_iff (status : String) :
    (∀ records, GetAlerts codec mktime printTime engine store status records →
        NewestHundred .createdAt (readAlert codec mktime printTime)
          (store.table.rows.filter (hasStatus status)) records) ↔
      status ≠ "" ∨ store.table.rows = [] := by
  by_cases hstatus : status = ""
  · subst hstatus
    have hrejected := planOf_of_sortsOnly engine alertNames "alerts"
      (.getAlerts "") rfl (List.mem_singleton_self _)
    rw [hasStatus_empty, List.filter_true]
    refine ((forall_reads_of_rejected hrejected _).trans
      newestHundred_nil_iff).trans ?_
    exact (or_iff_right (not_not_intro rfl)).symm
  · refine iff_of_true ?_ (Or.inl hstatus)
    exact fun records hrecords =>
      (getAlerts_iff htyped hyears engine hconnected hstatus records).mp hrecords

/-- The history of the alerts is right exactly where every acknowledged alert has
a hundred that are not and as new. -/
theorem getAlertHistory_newest_iff :
    (∀ records, GetAlertHistory codec mktime printTime engine store records →
        NewestHundred .createdAt (readAlert codec mktime printTime)
          store.table.rows records) ↔
      ∀ row ∈ store.table.rows, isAcknowledged true row = true →
        100 ≤ (store.table.rows.filter (isAcknowledged false)).countP
          fun other => newerFirst .createdAt other row := by
  have hstatus : (hasStatus "all" : Row AlertColumn Json → Bool) =
      isAcknowledged false := by
    funext row
    simp [hasStatus]
  have hreads : ∀ records,
      GetAlertHistory codec mktime printTime engine store records ↔
        NewestHundred .createdAt (readAlert codec mktime printTime)
          (store.table.rows.filter (isAcknowledged false)) records := by
    intro records
    rw [← hstatus]
    exact getAlerts_iff htyped hyears engine hconnected (by decide) records
  have hdecode : ∀ row ∈ store.table.rows,
      ∃ alert, readAlert codec mktime printTime row = some alert :=
    fun row hrow => exists_readAlert htyped hyears hrow
  have htells : ∀ first ∈ store.table.rows, ∀ second ∈ store.table.rows,
      readAlert codec mktime printTime first =
          readAlert codec mktime printTime second →
        isAcknowledged false first = isAcknowledged false second := by
    intro first hfirst second _ hsame
    obtain ⟨alert, halert⟩ := hdecode first hfirst
    rw [isAcknowledged, isAcknowledged, asBool_of_readAlert halert,
      asBool_of_readAlert (hsame.symm.trans halert)]
  simp only [hreads]
  rw [newestHundred_filter_iff hdecode htells]
  refine forall₂_congr fun row hrow => ?_
  rw [isAcknowledged_eq htyped hrow, Bool.not_eq_false']

end

theorem getThresholds_sorted_iff
    (store : Store Json metricThresholds thresholdReferenced)
    (engine : Engine Json metricThresholds) :
    (∀ records, GetThresholds codec mktime printTime engine store records →
        SortedBy engine .metricName (readThreshold codec mktime printTime)
          store.table.rows records) ↔ store.table.rows = [] :=
  (forall_reads_of_rejected (planOf_of_sortsOnly engine thresholdNames
    "metric_thresholds" .getThresholds rfl (List.mem_singleton_self _)) _).trans
    sortedBy_nil_iff

theorem getTimeline_newest_iff
    (store : Store Json feedEvents eventReferenced)
    (engine : Engine Json feedEvents) :
    (∀ entries, GetTimeline codec mktime printTime engine store entries →
        NewestHundred .occurredAt (readTimelineEntry codec mktime printTime)
          store.table.rows entries) ↔ store.table.rows = [] :=
  (forall_reads_of_rejected (planOf_of_sortsOnly engine feedEventNames
    "feed_events" .getTimeline rfl (List.mem_singleton_self _)) _).trans
    newestHundred_nil_iff

/-- Which lists are right for every content and every answer that the server can
give: those of the alerts of a status unless that is empty, the history where
the acknowledged alerts are not among the newest hundred, and the other two only
where there is nothing to list.  The conditions that begin with the order are the
ones that make no statement. -/
theorem sortedLists_right_iff
    {alertStore : Store Json alerts alertReferenced}
    (htyped : Typed codec alertStore)
    (hyears : PrintsYears printTime alertStore)
    (hconnected : alertStore.isConnected = true)
    (alertEngine : Engine Json alerts)
    (thresholdStore : Store Json metricThresholds thresholdReferenced)
    (thresholdEngine : Engine Json metricThresholds)
    (eventStore : Store Json feedEvents eventReferenced)
    (eventEngine : Engine Json feedEvents) :
    (∀ status,
      (∀ records,
        GetAlerts codec mktime printTime alertEngine alertStore status records →
          NewestHundred .createdAt (readAlert codec mktime printTime)
            (alertStore.table.rows.filter (hasStatus status)) records) ↔
        status ≠ "" ∨ alertStore.table.rows = []) ∧
    ((∀ records,
        GetAlertHistory codec mktime printTime alertEngine alertStore
            records →
          NewestHundred .createdAt (readAlert codec mktime printTime)
            alertStore.table.rows records) ↔
      ∀ row ∈ alertStore.table.rows, isAcknowledged true row = true →
        100 ≤ (alertStore.table.rows.filter (isAcknowledged false)).countP
          fun other => newerFirst .createdAt other row) ∧
    ((∀ records,
        GetThresholds codec mktime printTime thresholdEngine thresholdStore
            records →
          SortedBy thresholdEngine .metricName
            (readThreshold codec mktime printTime)
            thresholdStore.table.rows records) ↔
      thresholdStore.table.rows = []) ∧
    ((∀ entries,
        GetTimeline codec mktime printTime eventEngine eventStore entries →
          NewestHundred .occurredAt (readTimelineEntry codec mktime printTime)
            eventStore.table.rows entries) ↔
      eventStore.table.rows = []) ∧
    ∀ caller : Caller, caller.Plain →
      ((∀ statement ∈ caller.statements, Grammatical (compose statement)) ↔
        caller.sortsOnly = false) :=
  ⟨getAlerts_newest_iff htyped hyears hconnected alertEngine,
    getAlertHistory_newest_iff htyped hyears hconnected alertEngine,
    getThresholds_sorted_iff thresholdStore thresholdEngine,
    getTimeline_newest_iff eventStore eventEngine,
    fun _ hplain => grammatical_iff hplain⟩

end

/-! ## One alert -/

def subscribedStore : Store String feedEvents fun _ _ => true where
  table :=
    { rows := [fun column => stored plainCodec (feedEvents.sqlType column)
        (subscribeEvent.field column)]
      valid := by decide }
  isConnected := true
  prepared := true

theorem typed_alertStore : Typed plainCodec alertStore := by
  intro row hrow column
  obtain rfl := List.mem_singleton.mp hrow
  refine ⟨latencyAlert.field column, ?_⟩
  cases column <;> decide +kernel

theorem printsYears_alertStore : PrintsYears timestamptzText alertStore := by
  intro row hrow column ms htime
  obtain rfl := List.mem_singleton.mp hrow
  apply timestamptzText_printsIso
  cases column <;> cases htime
  decide

/-- An earlier alert, which was acknowledged, and two that are active. -/
def severalAlerts : List Alert :=
  [latencyAlert,
    { latencyAlert with
      alertId := "1c5d3f52-9b1d-4e7a-8c60-5d2e7f1b3a98"
      acknowledged := true
      createdAt := 1690000000000 },
    { latencyAlert with
      alertId := "2d6e3f52-9b1d-4e7a-8c60-5d2e7f1b3a98"
      currentValue := none
      createdAt := 1710000000000 }]

def severalStore : Store String alerts fun _ _ => true where
  table :=
    { rows := severalAlerts.map fun alert column =>
        stored plainCodec (alerts.sqlType column) (alert.field column)
      valid := by decide +kernel }
  isConnected := true
  prepared := true

theorem typed_severalStore : Typed plainCodec severalStore := by
  intro row hrow column
  obtain ⟨alert, halert, rfl⟩ := List.mem_map.mp hrow
  refine ⟨alert.field column, ?_⟩
  simp only [severalAlerts, List.mem_cons, List.not_mem_nil, or_false] at halert
  rcases halert with rfl | rfl | rfl <;> cases column <;> decide +kernel

theorem printsYears_severalStore :
    PrintsYears timestamptzText severalStore := by
  intro row hrow column ms htime
  obtain ⟨alert, halert, rfl⟩ := List.mem_map.mp hrow
  apply timestamptzText_printsIso
  simp only [severalAlerts, List.mem_cons, List.not_mem_nil, or_false] at halert
  rcases halert with rfl | rfl | rfl <;> cases column <;> cases htime <;> decide

/-- The lists of a status are right, the history is not: it leaves the
acknowledged alert out. -/
theorem sortedLists_right_latencyAlert :
    (∀ records,
      GetAlerts plainCodec (mktime utc) timestamptzText
          (plainEngine String alerts) severalStore "active" records →
        NewestHundred .createdAt
          (readAlert plainCodec (mktime utc) timestamptzText)
          (severalStore.table.rows.filter (hasStatus "active")) records) ∧
    ¬ ∀ records,
      GetAlertHistory plainCodec (mktime utc) timestamptzText
          (plainEngine String alerts) severalStore records →
        NewestHundred .createdAt
          (readAlert plainCodec (mktime utc) timestamptzText)
          severalStore.table.rows records := by
  obtain ⟨hstatus, hhistory, -⟩ := sortedLists_right_iff typed_severalStore
    printsYears_severalStore rfl (plainEngine String alerts) latencyStore
    (plainEngine String metricThresholds) subscribedStore
    (plainEngine String feedEvents)
  refine ⟨(hstatus "active").mpr (Or.inl (by decide)), fun hall => ?_⟩
  have hnewer := hhistory.mp hall _
    (List.mem_cons_of_mem _ List.mem_cons_self) (by decide +kernel)
  exact absurd hnewer (by decide +kernel)

/-- The alert is not listed without a status, nor the threshold and the event at
all. -/
theorem not_sortedLists_right :
    (¬ ∀ status records,
      GetAlerts plainCodec (mktime utc) timestamptzText
          (plainEngine String alerts) alertStore status records →
        NewestHundred .createdAt
          (readAlert plainCodec (mktime utc) timestamptzText)
          (alertStore.table.rows.filter (hasStatus status)) records) ∧
    (¬ ∀ records,
      GetThresholds plainCodec (mktime utc) timestamptzText
          (plainEngine String metricThresholds) latencyStore records →
        SortedBy (plainEngine String metricThresholds) .metricName
          (readThreshold plainCodec (mktime utc) timestamptzText)
          latencyStore.table.rows records) ∧
    (¬ ∀ entries,
      GetTimeline plainCodec (mktime utc) timestamptzText
          (plainEngine String feedEvents) subscribedStore entries →
        NewestHundred .occurredAt
          (readTimelineEntry plainCodec (mktime utc) timestamptzText)
          subscribedStore.table.rows entries) ∧
    ¬ ∀ statement ∈ Caller.getTimeline.statements,
      Grammatical (compose statement) := by
  have hsorts : Caller.getTimeline.sortsOnly = true := rfl
  refine ⟨?_, ?_, ?_, ?_⟩
  · intro hall
    have hlists := (getAlerts_newest_iff typed_alertStore
      printsYears_alertStore rfl _ "").mp (hall "")
    exact hlists.elim (fun hne => hne rfl) (List.cons_ne_nil _ _)
  · rw [getThresholds_sorted_iff]
    exact List.cons_ne_nil _ _
  · rw [getTimeline_newest_iff]
    exact List.cons_ne_nil _ _
  · exact fun hall => not_grammatical_of_sortsOnly hsorts _
      (List.mem_singleton_self _) (hall _ (List.mem_singleton_self _))

end Datafeed.Api
