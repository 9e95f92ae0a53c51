import Datafeed.Api.ConcurrentUpdates
import Datafeed.Core.Batch
import Datafeed.Server.OnRead

/-!
# `PUT /api/v1/thresholds`

`updateThresholds` reads, changes and writes one row for each element of the
array, each in a transaction of its own, and the members of an element are
looked at when its turn comes.  A member of another type is an exception, which
`handlePutThresholds` answers with 400; an update that the database refuses is
not counted, and nothing more.  The JSON parser is a parameter, with no value
for a text it throws on.
-/

namespace Datafeed.Server.Json

/-- `get<int64_t>()`: the fraction of a number is cut off, and a number outside
the range wraps. -/
def getInt64 : Json → Option ℤ
  | .number value => some (Int.bmod (Sql.Datum.truncate value) (2 ^ 64))
  | _ => none

/-- `get<double>()`. -/
def getDouble : Json → Option ℚ
  | .number value => some value
  | _ => none

/-- `get<bool>()`. -/
def getBool : Json → Option Bool
  | .bool value => some value
  | _ => none

/-- A member that is read only where it is present. -/
def member? {Value : Type} (read : Json → Option Value) (key : String)
    (json : Json) : Option (Option Value) :=
  match json.find? key with
  | none => some none
  | some value => (read value).map some

/-- A member that is read only where it is present and not `null`. -/
def nullable? {Value : Type} (read : Json → Option Value) (key : String)
    (json : Json) : Option (Option Value) :=
  match json.find? key with
  | none | some .null => some none
  | some value => (read value).map some

end Datafeed.Server.Json

namespace Datafeed.Api.PutThresholds

open Batch Sql Storage
open Server (Json)

/-- The members of an element that are read once its row is found. -/
def readItem (item : Json) : Option ThresholdItem := do
  let warningThreshold ← item.nullable? Json.getDouble "warning_threshold"
  let criticalThreshold ← item.nullable? Json.getDouble "critical_threshold"
  let enabled ← item.member? Json.getBool "enabled"
  let op ← item.member? Json.getString "op"
  return ⟨warningThreshold, criticalThreshold, enabled, op⟩

/-- A value of `NOW()`. -/
abbrev Moment := {ms : ℕ // ms < clockLimit}

/-- What the request is answered with. -/
inductive Reply
  | error (text : String)
  | updated (count : ℕ)
  deriving DecidableEq

/-- An answer, and what the loop has done until then.  The body of a 400 is the
text of the exception. -/
structure Answer (State : Type) where
  status : ℕ
  reply : Option Reply
  outcome : Outcome State

section

variable {Json' : Type} [DecidableEq Json'] (codec : Codec Json')
  {referenced : ThresholdColumn → Datum Json' → Bool}
  (readTime : Datum Json' → Option ℕ)

/-- One element, and the time at which the server takes its update. -/
def updateItem (store : Store Json' metricThresholds referenced)
    (item : Json × Moment) : Step (Store Json' metricThresholds referenced) :=
  match item.1.find? "id" with
  | none => .skipped
  | some member =>
      match member.getInt64 with
      | none => .thrown
      | some id =>
          match getMetricThresholdById codec readTime store id with
          | none => .skipped
          | some existing =>
              match readItem item.1 with
              | none => .thrown
              | some changes =>
                  match updateMetricThreshold codec item.2.1 store
                      (changes.apply existing) with
                  | (true, next) => .applied next
                  | (false, next) => .refused next

/-- The elements with the times of their updates. -/
def timed (clock : ℕ → Moment) (items : List Json) :
    List (Json × Moment) :=
  items.zipIdx.map fun item => (item.1, clock item.2)

/-- No reply where an exception leaves the loop. -/
def updateThresholds (clock : ℕ → Moment)
    (store : Store Json' metricThresholds referenced) (thresholds : Json) :
    Option Reply × Outcome (Store Json' metricThresholds referenced) :=
  if store.isConnected = false then
    (some (.error "database not connected"), ⟨0, 0, false, store⟩)
  else
    match thresholds with
    | .array items =>
        let outcome := run (updateItem codec readTime) store (timed clock items)
        (if outcome.thrown then none else some (.updated outcome.applied),
          outcome)
    | _ =>
        (some (.error "expected array of threshold updates"),
          ⟨0, 0, false, store⟩)

def handlePutThresholds (parse : String → Option Json)
    (clock : ℕ → Moment)
    (store : Store Json' metricThresholds referenced) (body : String) :
    Answer (Store Json' metricThresholds referenced) :=
  match parse body with
  | none => ⟨400, none, ⟨0, 0, true, store⟩⟩
  | some thresholds =>
      match updateThresholds codec readTime clock store thresholds with
      | (none, outcome) => ⟨400, none, outcome⟩
      | (some reply, outcome) => ⟨200, some reply, outcome⟩

end

/-- A request that is answered with 400 has changed nothing, and a batch is
applied without error or not at all. -/
def Answer.AllOrNothing {State : Type} (answer : Answer State) (state : State) :
    Prop :=
  (answer.status = 400 → answer.outcome.Unchanged state) ∧
    answer.outcome.Atomic state

/-- The operators that the `CHECK` of the table admits. -/
def operators : List String := ["gt", "lt", "gte", "lte", "eq"]

/-- What becomes of an element, told by its members and by the ids that have a
row.  The `CHECK` of the table is all that can refuse an update. -/
def kindOf (found : ℤ → Bool) (item : Json) : Kind :=
  match item.find? "id" with
  | none => .skipped
  | some member =>
      match member.getInt64 with
      | none => .thrown
      | some id =>
          if found id then
            match readItem item with
            | none => .thrown
            | some changes =>
                if changes.op.all operators.contains then .applied
                else .refused
          else .skipped

/-! ## One update -/

section

variable {Json' : Type} [DecidableEq Json'] {codec : Codec Json'}
  {referenced : ThresholdColumn → Datum Json' → Bool}
  {readTime : Datum Json' → Option ℕ}

/-- Every value of the table is one that its column can have. -/
def Typed (codec : Codec Json')
    (store : Store Json' metricThresholds referenced) : Prop :=
  ∀ row ∈ store.table.rows, ∀ column,
    IsStored codec (metricThresholds.sqlType column) (row column)

/-- The columns that `update_metric_threshold` assigns. -/
def assignedColumns : List ThresholdColumn :=
  updateMetricThresholdStatement.assignments.map Prod.fst

omit [DecidableEq Json'] in
theorem fits_of_asString {length : ℕ} {datum : Datum Json'} {value : String}
    (hstored : IsStored codec (.varchar length) datum)
    (hread : datum.asString codec = some value) :
    Fits codec (.varchar length) (.text value) := by
  obtain ⟨param, hparam⟩ := hstored
  cases param with
  | null =>
      obtain rfl : .null = datum := Option.some.inj hparam
      cases hread
  | text sent =>
      obtain ⟨hsent, hdatum⟩ := Option.ite_none_right_eq_some.mp hparam
      obtain rfl : .text sent = datum := Option.some.inj hdatum
      obtain rfl : sent = value := Option.some.inj hread
      exact hsent
  | _ => cases hparam

omit [DecidableEq Json'] in
theorem fits_of_optional_asInt64 {datum : Datum Json'} {value : Option ℤ}
    (hstored : IsStored codec .int4 datum)
    (hread : datum.optional Datum.asInt64 = some value) :
    Fits codec .int4 (appendOpt .integer value) := by
  obtain ⟨param, hparam⟩ := hstored
  cases param with
  | null =>
      obtain rfl : .null = datum := Option.some.inj hparam
      obtain rfl : none = value := Option.some.inj hread
      trivial
  | integer sent =>
      obtain ⟨hsent, hdatum⟩ := Option.ite_none_right_eq_some.mp hparam
      obtain rfl : .integer sent = datum := Option.some.inj hdatum
      obtain rfl : some sent = value := Option.some.inj hread
      exact hsent
  | _ => cases hparam

omit [DecidableEq Json'] in
/-- A field that was read can be sent back. -/
theorem fits_of_decode {row : Row ThresholdColumn Json'} {t : MetricThreshold}
    (hdecode : decodeMetricThreshold codec readTime row = some t)
    {column : ThresholdColumn} (hwritten : column ∈ writtenThresholdColumns)
    (hstored : IsStored codec (metricThresholds.sqlType column) (row column)) :
    Fits codec (metricThresholds.sqlType column) (t.field column) := by
  simp only [decodeMetricThreshold, Option.bind_eq_bind,
    Option.bind_eq_some_iff, Option.pure_def, Option.some.injEq] at hdecode
  obtain ⟨id, hid, instanceId, hinstanceId, metricName, hmetricName, source,
    hsource, warningThreshold, hwarning, criticalThreshold, hcritical, op, hop,
    enabled, henabled, cooldownSeconds, hcooldown, createdAt, hcreatedAt,
    updatedAt, hupdatedAt, rfl⟩ := hdecode
  cases column with
  | instanceId => exact fits_of_asString hstored hinstanceId
  | metricName => exact fits_of_asString hstored hmetricName
  | source => exact fits_of_asString hstored hsource
  | warningThreshold => cases warningThreshold <;> trivial
  | criticalThreshold => cases criticalThreshold <;> trivial
  | op => exact fits_of_asString hstored hop
  | enabled =>
      cases enabled with
      | false => exact Or.inr rfl
      | true => exact Or.inl rfl
  | cooldownSeconds => exact fits_of_optional_asInt64 hstored hcooldown
  | _ => exact absurd hwritten (by decide)

omit [DecidableEq Json'] in
theorem fits_operator {op : String} (hop : operators.contains op = true) :
    Fits codec (.varchar 10) (.text op) := by
  have hmem : op ∈ operators := List.contains_iff_mem.mp hop
  simp only [operators, List.mem_cons, List.not_mem_nil, or_false] at hmem
  rcases hmem with rfl | rfl | rfl | rfl | rfl
  all_goals
    change _ ≤ _ ∧ _
    decide

omit [DecidableEq Json'] in
theorem fits_param {changes : ThresholdItem}
    (hop : changes.op.all operators.contains = true)
    {column : ThresholdColumn} {new : Param}
    (hnew : changes.param column = some new) :
    Fits codec (metricThresholds.sqlType column) new := by
  cases column with
  | warningThreshold | criticalThreshold =>
      obtain ⟨value, -, rfl⟩ := Option.map_eq_some_iff.mp hnew
      trivial
  | enabled =>
      obtain ⟨value, -, rfl⟩ := Option.map_eq_some_iff.mp hnew
      cases value with
      | false => exact Or.inr rfl
      | true => exact Or.inl rfl
  | op =>
      obtain ⟨value, hvalue, rfl⟩ := Option.map_eq_some_iff.mp hnew
      rw [hvalue] at hop
      exact fits_operator hop
  | _ => cases hnew

omit [DecidableEq Json'] in
theorem checkPasses_param {changes : ThresholdItem}
    (hop : changes.op.all operators.contains = true)
    {column : ThresholdColumn} {new : Param}
    (hnew : changes.param column = some new) :
    checkPasses (metricThresholds.allowed column)
      (stored codec (metricThresholds.sqlType column) new) = true := by
  cases column with
  | op =>
      obtain ⟨value, hvalue, rfl⟩ := Option.map_eq_some_iff.mp hnew
      rw [hvalue] at hop
      have hstored : stored codec (.varchar 10) (.text value) = .text value :=
        stored_text (by trivial) (fits_operator hop)
      change checkPasses _ (stored codec (.varchar 10) (.text value)) = true
      rw [hstored]
      exact hop
  | _ => rfl

theorem assigned_apply {changes : ThresholdItem} {existing : MetricThreshold}
    {now : ℕ} {column : ThresholdColumn} (hcolumn : column ≠ .updatedAt) :
    (changes.apply existing).assigned now column =
      (changes.param column).getD (existing.field column) := by
  rw [← changes.field_apply]
  cases column with
  | updatedAt => exact absurd rfl hcolumn
  | _ => rfl

theorem mem_written_of_assigned {column : ThresholdColumn}
    (hassigned : column ∈ assignedColumns) (hcolumn : column ≠ .updatedAt) :
    column ∈ writtenThresholdColumns := by
  cases column with
  | id | createdAt => exact absurd hassigned (by decide)
  | updatedAt => exact absurd rfl hcolumn
  | _ => decide

theorem fillsNotNull_assigned (now : ℕ) (t : MetricThreshold) :
    FillsNotNull metricThresholds assignedColumns (t.assigned now) := by
  intro column _ hnotNull
  cases column with
  | instanceId | warningThreshold | criticalThreshold | cooldownSeconds =>
      cases hnotNull
  | _ => exact Param.noConfusion

omit [DecidableEq Json'] in
/-- A record that was read, with an operator the `CHECK` admits, can be written
back. -/
theorem admissible_assigned {store : Store Json' metricThresholds referenced}
    (htyped : Typed codec store) {row : Row ThresholdColumn Json'}
    (hrow : row ∈ store.table.rows) {existing : MetricThreshold}
    (hdecode : decodeMetricThreshold codec readTime row = some existing)
    {changes : ThresholdItem}
    (hop : changes.op.all operators.contains = true) (now : ℕ) :
    Admissible codec metricThresholds referenced assignedColumns
      ((changes.apply existing).assigned now) := by
  have hsame : ∀ {column}, column ∈ assignedColumns → column ≠ .updatedAt →
      stored codec (metricThresholds.sqlType column) (existing.field column) =
        row column := fun hassigned hcolumn =>
    threshold_field_of_decode codec readTime hdecode
      (mem_written_of_assigned hassigned hcolumn) (htyped row hrow _)
  have hvalid := fun column hcolumn => store.table.valid row hrow column hcolumn
  refine ⟨?_, ?_, ?_⟩
  · intro column hassigned
    by_cases hcolumn : column = .updatedAt
    · subst hcolumn
      trivial
    · rw [assigned_apply hcolumn]
      cases hnew : changes.param column with
      | none =>
          exact fits_of_decode hdecode
            (mem_written_of_assigned hassigned hcolumn) (htyped row hrow column)
      | some new => exact fits_param hop hnew
  · intro column hassigned
    by_cases hcolumn : column = .updatedAt
    · subst hcolumn
      rfl
    · rw [assigned_apply hcolumn]
      cases hnew : changes.param column with
      | none =>
          rw [Option.getD_none, hsame hassigned hcolumn]
          exact (hvalid column (by cases column <;> decide)).check
      | some new => exact checkPasses_param hop hnew
  · intro column hassigned hreferences
    cases column with
    | instanceId =>
        have hback := hsame hassigned (by decide)
        rcases (hvalid .instanceId (by decide)).references rfl with hnull | href
        · have hfits := fits_of_decode hdecode
            (mem_written_of_assigned hassigned (by decide))
            (htyped row hrow .instanceId)
          rw [← hback, isNull_stored_of_ne_null hfits Param.noConfusion] at hnull
          cases hnull
        · rw [← hback] at href
          exact Or.inr href
    | _ => cases hreferences

/-- What `get_metric_threshold_by_id` has found. -/
theorem exists_row_of_get {store : Store Json' metricThresholds referenced}
    {id : ℤ} {existing : MetricThreshold}
    (hget : getMetricThresholdById codec readTime store id = some existing) :
    store.Ready ∧ ∃ row, rowOf codec store .id (.integer id) = some row ∧
      decodeMetricThreshold codec readTime row = some existing := by
  refine ⟨?_, exists_rowOf_of_getById hget⟩
  rw [getMetricThresholdById, getById] at hget
  split at hget
  · cases hget
  · next hready =>
      rw [not_or] at hready
      exact ⟨by simpa using hready.1, by simpa using hready.2⟩

omit [DecidableEq Json'] in
theorem asInt64_id_of_decode {row : Row ThresholdColumn Json'}
    {t : MetricThreshold}
    (hdecode : decodeMetricThreshold codec readTime row = some t) :
    (row .id).asInt64 = some t.id := by
  simp only [decodeMetricThreshold, Option.bind_eq_bind,
    Option.bind_eq_some_iff, Option.pure_def, Option.some.injEq] at hdecode
  obtain ⟨id, hid, hrest⟩ := hdecode
  grind

theorem integer_of_rowOf {store : Store Json' metricThresholds referenced}
    {id : ℤ} {row : Row ThresholdColumn Json'}
    (hrow : rowOf codec store .id (.integer id) = some row) :
    row .id = .integer id ∧ inInt8Range id = true := by
  obtain ⟨hrange, hdatum⟩ :=
    Option.ite_none_right_eq_some.mp (store_key_of_rowOf hrow)
  exact ⟨(Option.some.inj hdatum).symm, hrange⟩

/-- The key of the record found by an id is that of its row. -/
theorem key_of_rowOf {store : Store Json' metricThresholds referenced} {id : ℤ}
    {row : Row ThresholdColumn Json'}
    (hrow : rowOf codec store .id (.integer id) = some row)
    {t : MetricThreshold}
    (hdecode : decodeMetricThreshold codec readTime row = some t) :
    Fits codec (metricThresholds.sqlType .id) (.integer t.id) ∧
      stored codec (metricThresholds.sqlType .id) (.integer t.id) =
        row .id := by
  obtain ⟨hkey, hrange⟩ := integer_of_rowOf hrow
  have hid := asInt64_id_of_decode hdecode
  rw [hkey] at hid
  obtain rfl : id = t.id := Option.some.inj hid
  rw [hkey]
  exact ⟨hrange, stored_integer (by trivial) hrange⟩

/-- The statement of `update_metric_threshold` and its parameters. -/
theorem updateMetricThreshold_aligned (now : ℕ) (t : MetricThreshold) :
    updateMetricThresholdStatement.Aligned assignedColumns
      (updateMetricThresholdParams now t) (t.assigned now) (.integer t.id) :=
  ⟨rfl, rfl, by decide, rfl⟩

/-- What an update with an admitted operator does to a row that was found. -/
theorem update_of_operator {store : Store Json' metricThresholds referenced}
    (htyped : Typed codec store) {id : ℤ} {row : Row ThresholdColumn Json'}
    (hready : store.Ready)
    (hrow : rowOf codec store .id (.integer id) = some row)
    {existing : MetricThreshold}
    (hdecode : decodeMetricThreshold codec readTime row = some existing)
    {changes : ThresholdItem}
    (hop : changes.op.all operators.contains = true) (now : ℕ) :
    ∃ next, updateMetricThreshold codec now store (changes.apply existing) =
        (true, next) ∧ next.Ready ∧
      next.table.rows = store.table.rows.map fun other =>
        if other .id = row .id then
          namedRow codec metricThresholds assignedColumns
            ((changes.apply existing).assigned now) other
        else other := by
  obtain ⟨hfits, hstored⟩ := key_of_rowOf hrow hdecode
  have hmem := mem_of_rowOf hrow
  obtain ⟨table, hexec, hrows⟩ := store.table.execUpdate_of_aligned
    (updateMetricThreshold_aligned now (changes.apply existing))
    (fillsNotNull_assigned now _)
    (admissible_assigned htyped hmem hdecode hop now) hfits
  have hchanged : 0 < (store.table.rows.filter fun other =>
      other .id = row .id).length :=
    List.length_pos_of_mem (List.mem_filter.mpr ⟨hmem, decide_eq_true rfl⟩)
  change store.table.execUpdate codec _ _ =
    .ok (table, (store.table.rows.filter fun other => other .id =
      stored codec (metricThresholds.sqlType .id)
        (.integer existing.id)).length) at hexec
  change table.rows = store.table.rows.map fun other => if other .id =
      stored codec (metricThresholds.sqlType .id)
        (.integer existing.id) then _ else _ at hrows
  rw [hstored] at hexec hrows
  refine ⟨{ store with table := table }, ?_, hready, hrows⟩
  rw [updateMetricThreshold, hexec, hready.1, hready.2]
  simp [hchanged]

/-- An update with another operator is refused, and changes nothing. -/
theorem update_of_not_operator
    {store : Store Json' metricThresholds referenced} {id : ℤ}
    {row : Row ThresholdColumn Json'}
    (hrow : rowOf codec store .id (.integer id) = some row)
    {existing : MetricThreshold}
    (hdecode : decodeMetricThreshold codec readTime row = some existing)
    {changes : ThresholdItem}
    (hop : changes.op.all operators.contains = false) (now : ℕ) :
    updateMetricThreshold codec now store (changes.apply existing) =
      (false, store) := by
  rw [updateMetricThreshold]
  split
  · rfl
  split
  · rfl
  next table changed hexec =>
    -- an accepted update would have put the operator into the row it found
    exfalso
    obtain ⟨-, haccepted, hrows, -⟩ := Table.of_execUpdate_ok
      (updateMetricThreshold_aligned now (changes.apply existing)) hexec
    have hmem : namedRow codec metricThresholds assignedColumns
        ((changes.apply existing).assigned now) row ∈ table.rows := by
      rw [hrows]
      refine List.mem_map.mpr ⟨row, mem_of_rowOf hrow, ?_⟩
      exact if_pos (key_of_rowOf hrow hdecode).2.symm
    have hcheck := (table.valid _ hmem .op (by decide)).check
    obtain ⟨op, hmentioned, hother⟩ : ∃ op, changes.op = some op ∧
        operators.contains op = false := by
      cases hmentioned : changes.op with
      | none =>
          rw [hmentioned] at hop
          cases hop
      | some op =>
          rw [hmentioned] at hop
          exact ⟨op, rfl, hop⟩
    have hassigned : (changes.apply existing).assigned now .op = .text op := by
      rw [assigned_apply (by decide), ThresholdItem.param, hmentioned]
      rfl
    have htext : stored codec (metricThresholds.sqlType .op) (.text op) =
        .text op := by
      have hlisted : ThresholdColumn.op ∈ assignedColumns := by decide
      have hstore := store_eq_of_accepted haccepted hlisted
      rw [hassigned] at hstore
      have hsent := (Option.ite_none_right_eq_some.mp hstore).2
      exact (Option.some.inj hsent).symm
    rw [namedRow, if_pos (by decide), hassigned, htext] at hcheck
    exact Bool.noConfusion (hother.symm.trans hcheck)

omit [DecidableEq Json'] in
/-- A row that was read is read again once fields that fit are put into it. -/
theorem isSome_decode_namedRow {row : Row ThresholdColumn Json'}
    {t changed : MetricThreshold} {now : ℕ}
    (hdecode : decodeMetricThreshold codec readTime row = some t)
    (hfits : ∀ column ∈ assignedColumns,
      Fits codec (metricThresholds.sqlType column) (changed.assigned now column))
    (hnow : (readTime (.timestamp now)).isSome) :
    (decodeMetricThreshold codec readTime (namedRow codec metricThresholds
      assignedColumns (changed.assigned now) row)).isSome := by
  have hstored : ∀ column ∈ assignedColumns,
      Sql.store codec (metricThresholds.sqlType column)
          (changed.assigned now column) =
        some (namedRow codec metricThresholds assignedColumns
          (changed.assigned now) row column) := by
    intro column hassigned
    rw [namedRow, if_pos hassigned]
    exact store_eq_stored (hfits column hassigned)
  simp only [decodeMetricThreshold, Option.bind_eq_bind,
    Option.bind_eq_some_iff, Option.pure_def, Option.some.injEq] at hdecode
  obtain ⟨id, hid, -, -, -, -, -, -, -, -, -, -, -, -, -, -, -, -, createdAt,
    hcreatedAt, -⟩ := hdecode
  obtain ⟨instanceId, hinstanceId⟩ := readable_text (by trivial) _ _
    (hstored .instanceId (by decide))
  obtain ⟨metricName, hmetricName⟩ := readable_text (by trivial) _ _
    (hstored .metricName (by decide))
  obtain ⟨source, hsource⟩ := readable_text (by trivial) _ _
    (hstored .source (by decide))
  have hwarning : (namedRow codec metricThresholds assignedColumns
      (changed.assigned now) row .warningThreshold).optional Datum.asDouble =
        some changed.warningThreshold := optional_asDouble_stored _
  have hcritical : (namedRow codec metricThresholds assignedColumns
      (changed.assigned now) row .criticalThreshold).optional Datum.asDouble =
        some changed.criticalThreshold := optional_asDouble_stored _
  obtain ⟨op, hop⟩ := readable_text (by trivial) _ _
    (hstored .op (by decide))
  obtain ⟨enabled, henabled⟩ := readable_bool _ _
    (hstored .enabled (by decide))
  obtain ⟨cooldownSeconds, hcooldown⟩ := readable_optInteger (by trivial) _ _
    (hstored .cooldownSeconds (by decide))
  obtain ⟨updatedAt, hupdatedAt⟩ := Option.isSome_iff_exists.mp hnow
  have hnamedId : namedRow codec metricThresholds assignedColumns
      (changed.assigned now) row .id = row .id := rfl
  have hnamedCreated : namedRow codec metricThresholds assignedColumns
      (changed.assigned now) row .createdAt = row .createdAt := rfl
  have hnamedUpdated : namedRow codec metricThresholds assignedColumns
      (changed.assigned now) row .updatedAt = .timestamp now := rfl
  simp [decodeMetricThreshold, hnamedId, hid, hinstanceId, hmetricName, hsource,
    hwarning, hcritical, hop, henabled, hcooldown, hnamedCreated, hcreatedAt,
    hnamedUpdated, hupdatedAt]

/-- The rows of a key, after a change that leaves every key alone. -/
theorem rowOf_changed {store next : Store Json' metricThresholds referenced}
    {change : Row ThresholdColumn Json' → Row ThresholdColumn Json'}
    (hchange : ∀ row, change row .id = row .id)
    (hrows : next.table.rows = store.table.rows.map change) (id : ℤ) :
    rowOf codec next .id (.integer id) =
      (rowOf codec store .id (.integer id)).map change := by
  rw [rowOf, rowOf, hrows]
  cases Sql.store codec (metricThresholds.sqlType .id) (.integer id) with
  | none => rfl
  | some datum =>
      simp only [Option.bind_some, List.find?_map]
      have hcomp : ((fun row : Row ThresholdColumn Json' =>
          decide (row .id = datum)) ∘ change) =
            fun row => decide (row .id = datum) := by
        funext row
        simp only [Function.comp, hchange]
      rw [hcomp]

theorem get_of_ready {store : Store Json' metricThresholds referenced}
    (hready : store.Ready) (id : ℤ) :
    getMetricThresholdById codec readTime store id =
      (rowOf codec store .id (.integer id)).bind
        (decodeMetricThreshold codec readTime) := by
  rw [getMetricThresholdById, getById, hready.1, hready.2, rowOf,
    Option.bind_assoc]
  rfl

/-- An update leaves the same ids to be found, and values of the columns'
types. -/
theorem keeps_of_update {store next : Store Json' metricThresholds referenced}
    (htyped : Typed codec store) (hready : store.Ready) (hnext : next.Ready)
    {id : ℤ} {row : Row ThresholdColumn Json'}
    (hrow : rowOf codec store .id (.integer id) = some row)
    {existing changed : MetricThreshold} {now : ℕ}
    (hdecode : decodeMetricThreshold codec readTime row = some existing)
    (hfits : ∀ column ∈ assignedColumns,
      Fits codec (metricThresholds.sqlType column) (changed.assigned now column))
    (hnow : (readTime (.timestamp now)).isSome)
    (hrows : next.table.rows = store.table.rows.map fun other =>
      if other .id = row .id then
        namedRow codec metricThresholds assignedColumns (changed.assigned now)
          other
      else other) :
    Typed codec next ∧ ∀ other,
      (getMetricThresholdById codec readTime next other).isSome =
        (getMetricThresholdById codec readTime store other).isSome := by
  constructor
  · intro after hafter column
    rw [hrows] at hafter
    obtain ⟨before, hbefore, rfl⟩ := List.mem_map.mp hafter
    split
    · rw [namedRow]
      split
      · next hassigned => exact ⟨_, store_eq_stored (hfits column hassigned)⟩
      · exact htyped before hbefore column
    · exact htyped before hbefore column
  · intro other
    rw [get_of_ready hready, get_of_ready hnext, rowOf_changed _ hrows]
    · cases hother : rowOf codec store .id (.integer other) with
      | none => rfl
      | some found =>
          simp only [Option.map_some, Option.bind_some]
          split
          · next hkey =>
              -- the row that was found by the other id is the changed one
              rw [(integer_of_rowOf hother).1, (integer_of_rowOf hrow).1] at hkey
              obtain rfl : other = id := Datum.integer.inj hkey
              obtain rfl : found = row := Option.some.inj (hother.symm.trans hrow)
              rw [isSome_decode_namedRow hdecode hfits hnow, hdecode]
              rfl
          · rfl
    · intro before
      split
      · rfl
      · rfl

/-! ## The loop -/

/-- What holds of every table that the loop comes to. -/
def Keeps (codec : Codec Json') (readTime : Datum Json' → Option ℕ)
    (found : ℤ → Bool) (store : Store Json' metricThresholds referenced) :
    Prop :=
  Typed codec store ∧ ∀ id,
    (getMetricThresholdById codec readTime store id).isSome = found id

/-- What one element does: its kind is told by the element and by which rows can
be read, and only an applied one changes the store. -/
theorem updateItem_spec
    (hread : ∀ now : Moment, (readTime (.timestamp now.1)).isSome)
    {found : ℤ → Bool} {store : Store Json' metricThresholds referenced}
    (hkeeps : Keeps codec readTime found store) (item : Json × Moment) :
    (updateItem codec readTime store item).kind = kindOf found item.1 ∧
      (∀ next, updateItem codec readTime store item = .applied next →
        Keeps codec readTime found next) ∧
      ∀ next, updateItem codec readTime store item = .refused next →
        next = store := by
  obtain ⟨htyped, hfound⟩ := hkeeps
  rw [updateItem, kindOf]
  cases item.1.find? "id" with
  | none => exact ⟨rfl, nofun, nofun⟩
  | some member =>
  dsimp only
  cases member.getInt64 with
  | none => exact ⟨rfl, nofun, nofun⟩
  | some id =>
  dsimp only
  rw [← hfound]
  cases hget : getMetricThresholdById codec readTime store id with
  | none => exact ⟨rfl, nofun, nofun⟩
  | some existing =>
  obtain ⟨hready, row, hrow, hdecode⟩ := exists_row_of_get hget
  dsimp only
  cases readItem item.1 with
  | none => exact ⟨rfl, nofun, nofun⟩
  | some changes =>
  dsimp only
  cases hop : changes.op.all operators.contains with
  | false =>
      rw [update_of_not_operator hrow hdecode hop]
      refine ⟨rfl, nofun, ?_⟩
      rintro next ⟨⟩
      rfl
  | true =>
      obtain ⟨next, hupdate, hnext, hrows⟩ := update_of_operator htyped
        hready hrow hdecode hop item.2.1
      rw [hupdate]
      refine ⟨rfl, ?_, nofun⟩
      rintro next ⟨⟩
      have hadmissible := admissible_assigned htyped (mem_of_rowOf hrow)
        hdecode hop item.2.1
      obtain ⟨htypedNext, hsame⟩ := keeps_of_update htyped hready hnext hrow
        hdecode hadmissible.fits (hread item.2) hrows
      exact ⟨htypedNext, fun other => (hsame other).trans (hfound other)⟩

theorem classifies_updateItem
    (hread : ∀ now : Moment, (readTime (.timestamp now.1)).isSome)
    (found : ℤ → Bool) :
    Classifies (updateItem codec readTime)
      (fun item : Json × Moment => kindOf found item.1)
      (Keeps codec readTime found :
        Store Json' metricThresholds referenced → Prop) where
  kind_step := fun item hkeeps => (updateItem_spec hread hkeeps item).1
  inv_applied := fun hkeeps happlied =>
    (updateItem_spec hread hkeeps _).2.1 _ happlied
  eq_refused := fun hkeeps hrefused =>
    (updateItem_spec hread hkeeps _).2.2 _ hrefused

theorem map_kindOf_timed (found : ℤ → Bool) (clock : ℕ → Moment)
    (items : List Json) :
    ((timed clock items).map fun item => kindOf found item.1) =
      items.map (kindOf found) := by
  rw [timed, List.map_map]
  have hcomp : (fun item : Json × Moment => kindOf found item.1) ∘
      (fun item : Json × ℕ => (item.1, clock item.2)) =
        kindOf found ∘ Prod.fst := rfl
  rw [hcomp, ← List.map_map, List.zipIdx_map_fst]

theorem Answer.allOrNothing_of_unchanged {State : Type} {state : State}
    {answer : Answer State} (hunchanged : answer.outcome.Unchanged state) :
    answer.AllOrNothing state :=
  ⟨fun _ => hunchanged, Or.inr hunchanged⟩

theorem Answer.allOrNothing_iff_atomic {State : Type} {state : State}
    {answer : Answer State}
    (hthrown : answer.status = 400 → answer.outcome.thrown = true) :
    answer.AllOrNothing state ↔ answer.outcome.Atomic state := by
  refine ⟨And.right, fun hatomic => ⟨fun hstatus => ?_, hatomic⟩⟩
  rcases hatomic with hfaultless | hunchanged
  · have hnone := hfaultless.1
    rw [hthrown hstatus] at hnone
    cases hnone
  · exact hunchanged

/-- The answer to an array. -/
theorem handle_of_array {parse : String → Option Json} (clock : ℕ → Moment)
    {store : Store Json' metricThresholds referenced} {body : String}
    {items : List Json} (hconnected : store.isConnected = true)
    (hparse : parse body = some (.array items)) :
    let answer := handlePutThresholds codec readTime parse clock store body
    answer.outcome =
        run (updateItem codec readTime) store (timed clock items) ∧
      (answer.status = 400 → answer.outcome.thrown = true) := by
  simp only [handlePutThresholds, hparse, updateThresholds, hconnected,
    Bool.true_eq_false, if_false]
  cases hthrown :
      (run (updateItem codec readTime) store (timed clock items)).thrown with
  | true => exact ⟨rfl, fun _ => hthrown⟩
  | false => exact ⟨rfl, fun hstatus => by cases hstatus⟩

/-- Without an array, or a connection, nothing is changed. -/
theorem unchanged_of_not_array {parse : String → Option Json}
    {clock : ℕ → Moment} {store : Store Json' metricThresholds referenced}
    {body : String}
    (hnone : ∀ items, store.isConnected = true →
      parse body ≠ some (.array items)) :
    (handlePutThresholds codec readTime parse clock store
      body).outcome.Unchanged store := by
  cases hparse : parse body with
  | none =>
      rw [handlePutThresholds, hparse]
      exact ⟨rfl, rfl⟩
  | some thresholds =>
      cases hconnected : store.isConnected with
      | false =>
          simp only [handlePutThresholds, hparse, updateThresholds, hconnected,
            if_true]
          exact ⟨rfl, rfl⟩
      | true =>
          simp only [handlePutThresholds, hparse, updateThresholds, hconnected,
            Bool.true_eq_false, if_false]
          cases thresholds with
          | array items => exact absurd hparse (hnone items hconnected)
          | _ => exact ⟨rfl, rfl⟩

end

/-- An update of the threshold with id 1. -/
def raise : Json :=
  .object [("id", .number 1), ("warning_threshold", .number 90)]

/-- An update of a threshold that the table does not have. -/
def unknown : Json :=
  .object [("id", .number 7), ("warning_threshold", .number 70)]

def disable : Json := .object [("id", .number 1), ("enabled", .bool false)]

/-- An element whose id is a text. -/
def misnamed : Json := .object [("id", .string "x")]

def raiseBody : String :=
  "[\x7b\"id\":1,\"warning_threshold\":90\x7d,\x7b\"id\":7," ++
    "\"warning_threshold\":70\x7d,\x7b\"id\":1,\"enabled\":false\x7d]"

def misnamedBody : String :=
  "[\x7b\"id\":1,\"warning_threshold\":90\x7d,\x7b\"id\":\"x\"\x7d]"

/-- The parser on the two bodies. -/
def parseBodies (body : String) : Option Json :=
  if body = raiseBody then some (.array [raise, unknown, disable])
  else if body = misnamedBody then some (.array [raise, misnamed])
  else none

/-- A minute after the other. -/
def minutes (index : ℕ) : Moment :=
  ⟨(1700000060000 + 60000 * index) % clockLimit, Nat.mod_lt _ (by decide)⟩

theorem latencyStore_typed : Typed plainCodec latencyStore := by
  intro row hrow column
  obtain rfl := List.mem_singleton.mp hrow
  exact ⟨latencyThreshold.field column,
    store_eq_stored (by cases column <;> decide)⟩

end Datafeed.Api.PutThresholds
