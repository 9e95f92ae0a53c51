import Datafeed.Core.Select
import Datafeed.Storage.Intervals
import Datafeed.Storage.RowUpdates

/-!
# Reads by a condition

What a `get_*_by_condition` returns for the text of its statement.  A statement
that the server rejects is an exception, and the result is as empty as that of a
table without rows.
-/

namespace Datafeed.Storage

open Ranking Select Sql

variable {Column Json Record : Type} {schema : Schema Column}
  {referenced : Column → Datum Json → Bool}

/-- The records that a `get_*_by_condition` can return. -/
def ReadsByCondition (engine : Engine Json schema) (names : Names Column)
    (table : String) (decode : Row Column Json → Option Record)
    (store : Store Json schema referenced) (text : List Char)
    (records : List Record) : Prop :=
  if store.isConnected = false then records = []
  else
    match planOf engine names table text with
    | none => records = []
    | some plan => ∃ result, plan.Returns engine store.table.rows result ∧
        records = decodeRows decode result

/-- Every row is read, as the record in its place. -/
def ReadAs (decode : Row Column Json → Option Record)
    (rows : List (Row Column Json)) (records : List Record) : Prop :=
  rows.map decode = records.map some

section

variable {engine : Engine Json schema} {names : Names Column} {table : String}
  {decode : Row Column Json → Option Record}
  {store : Store Json schema referenced} {text : List Char}

theorem readsByCondition_of_rejected
    (hrejected : planOf engine names table text = none)
    (records : List Record) :
    ReadsByCondition engine names table decode store text records ↔
      records = [] := by
  rw [ReadsByCondition, hrejected]
  split <;> rfl

/-- What is said of every answer to a rejected statement. -/
theorem forall_reads_of_rejected
    (hrejected : planOf engine names table text = none)
    (right : List Record → Prop) :
    (∀ records,
      ReadsByCondition engine names table decode store text records →
        right records) ↔ right [] := by
  simp only [readsByCondition_of_rejected hrejected, forall_eq]

theorem readsByCondition_of_plan (hconnected : store.isConnected = true)
    {plan : Plan Column Json}
    (hplan : planOf engine names table text = some plan)
    (records : List Record) :
    ReadsByCondition engine names table decode store text records ↔
      ∃ result, plan.Returns engine store.table.rows result ∧
        records = decodeRows decode result := by
  rw [ReadsByCondition, hplan, if_neg (by rw [hconnected]; decide)]

/-- The server gives some result. -/
theorem exists_readsByCondition (engine : Engine Json schema)
    (names : Names Column) (table : String)
    (decode : Row Column Json → Option Record)
    (store : Store Json schema referenced) (text : List Char) :
    ∃ records, ReadsByCondition engine names table decode store text
      records := by
  cases hplan : planOf engine names table text with
  | none => exact ⟨[], (readsByCondition_of_rejected hplan []).mpr rfl⟩
  | some plan =>
      cases hconnected : store.isConnected with
      | false =>
          refine ⟨[], ?_⟩
          rw [ReadsByCondition, if_pos hconnected]
      | true =>
          obtain ⟨result, hresult⟩ :=
            plan.exists_returns engine store.table.rows
          exact ⟨_, (readsByCondition_of_plan hconnected hplan _).mpr
            ⟨result, hresult, rfl⟩⟩

theorem readAs_nil_iff {rows : List (Row Column Json)} :
    ReadAs decode rows [] ↔ rows = [] := List.map_eq_nil_iff

/-- The loop of a reader reads every row if it can. -/
theorem readAs_decodeRows {rows : List (Row Column Json)}
    (hdecode : ∀ row ∈ rows, ∃ record, decode row = some record) :
    ReadAs decode rows (decodeRows decode rows) := by
  rw [ReadAs]
  induction rows with
  | nil => rfl
  | cons row rows ih =>
      obtain ⟨record, hrecord⟩ := hdecode row List.mem_cons_self
      have htail := ih fun other hother =>
        hdecode other (List.mem_cons_of_mem _ hother)
      rw [decodeRows, hrecord, List.map_cons, List.map_cons, hrecord, htail]

theorem eq_of_readAs {rows : List (Row Column Json)}
    {records others : List Record} (hrecords : ReadAs decode rows records)
    (hothers : ReadAs decode rows others) : records = others :=
  List.map_injective_iff.mpr (Option.some_injective _)
    (hrecords.symm.trans hothers)

end

/-- A row with its timestamps as they are read from their text. -/
def throughText (readTime : Datum Json → Option ℕ) (row : Row Column Json) :
    Row Column Json := fun column =>
  match row column with
  | .timestamp ms => timestampBack readTime (.timestamp ms)
  | datum => datum

/-! ## Values of a column -/

/-- Every value is one that its column can have. -/
def Typed (codec : Codec Json) (store : Store Json schema referenced) : Prop :=
  ∀ row ∈ store.table.rows, ∀ column,
    IsStored codec (schema.sqlType column) (row column)

/-- The years of the printed times have at most four digits. -/
def PrintsYears (printTime : ℕ → PrintedTime)
    (store : Store Json schema referenced) : Prop :=
  ∀ row ∈ store.table.rows, ∀ column ms, row column = .timestamp ms →
    (printTime ms).tm.year ≤ 9999

theorem isNull_of_notNull {store : Store Json schema referenced}
    {row : Row Column Json} (hrow : row ∈ store.table.rows) {column : Column}
    (hcolumn : column ∈ schema.columns)
    (hnotNull : schema.notNull column = true) : (row column).isNull = false :=
  (store.table.valid row hrow column hcolumn).notNull hnotNull

/-- A reader that reads one column after the other. -/
theorem exists_bind {Value Result : Type} {first : Option Value}
    {rest : Value → Option Result}
    (hfirst : ∃ value, first = some value)
    (hrest : ∀ value, ∃ result, rest value = some result) :
    ∃ result, (do let value ← first; rest value) = some result := by
  obtain ⟨value, rfl⟩ := hfirst
  exact hrest value

section

variable {Value : Type} {codec : Codec Json} {sqlType : SqlType}
  {datum : Datum Json}

theorem isNull_of_store_null {datum : Datum Json}
    (hstore : Sql.store codec sqlType .null = some datum) :
    datum.isNull = true := by
  cases sqlType <;> cases hstore <;> rfl

theorem exists_asString (htextual : sqlType.IsTextual)
    (hstored : IsStored codec sqlType datum) (hpresent : datum.isNull = false) :
    ∃ value, datum.asString codec = some value := by
  obtain ⟨param, hparam⟩ := hstored
  cases param with
  | null =>
      rw [isNull_of_store_null hparam] at hpresent
      cases hpresent
  | text value => exact readable_text htextual value datum hparam
  | _ =>
      cases sqlType <;>
        first
          | exact htextual.elim
          | cases hparam

theorem exists_asDouble (hstored : IsStored codec .float8 datum)
    (hpresent : datum.isNull = false) :
    ∃ value, datum.asDouble = some value := by
  obtain ⟨param, hparam⟩ := hstored
  cases param with
  | null =>
      rw [isNull_of_store_null hparam] at hpresent
      cases hpresent
  | double value | integer value =>
      cases hparam
      exact ⟨_, rfl⟩
  | _ => cases hparam

theorem exists_boolean (hstored : IsStored codec .boolean datum)
    (hpresent : datum.isNull = false) :
    ∃ value, datum = .boolean value := by
  obtain ⟨param, hparam⟩ := hstored
  cases param with
  | null =>
      rw [isNull_of_store_null hparam] at hpresent
      cases hpresent
  | text value =>
      rw [Sql.store] at hparam
      split_ifs at hparam
      · exact ⟨true, (Option.some.inj hparam).symm⟩
      · exact ⟨false, (Option.some.inj hparam).symm⟩
  | _ => cases hparam

theorem exists_asBool (hstored : IsStored codec .boolean datum)
    (hpresent : datum.isNull = false) :
    ∃ value, datum.asBool = some value := by
  obtain ⟨value, rfl⟩ := exists_boolean hstored hpresent
  exact ⟨value, rfl⟩

theorem exists_asInt64 (hinteger : sqlType.IsInteger)
    (hstored : IsStored codec sqlType datum) (hpresent : datum.isNull = false) :
    ∃ value, datum.asInt64 = some value := by
  obtain ⟨param, hparam⟩ := hstored
  cases param with
  | null =>
      rw [isNull_of_store_null hparam] at hpresent
      cases hpresent
  | integer value => exact readable_integer hinteger value datum hparam
  | _ =>
      cases sqlType <;>
        first
          | exact hinteger.elim
          | cases hparam

theorem exists_timestamp (hstored : IsStored codec .timestamptz datum)
    (hpresent : datum.isNull = false) : ∃ ms, datum = .timestamp ms := by
  obtain ⟨param, hparam⟩ := hstored
  cases param with
  | null =>
      rw [isNull_of_store_null hparam] at hpresent
      cases hpresent
  | timestamp ms =>
      cases hparam
      exact ⟨ms, rfl⟩
  | _ => cases hparam

theorem exists_asTimestamp (hstored : IsStored codec .timestamptz datum)
    (hpresent : datum.isNull = false) :
    ∃ value, datum.asTimestamp = some value := by
  obtain ⟨ms, rfl⟩ := exists_timestamp hstored hpresent
  exact ⟨ms, rfl⟩

theorem exists_readTimestamp (mktime : Tm → ℤ) {printTime : ℕ → PrintedTime}
    (hstored : IsStored codec .timestamptz datum)
    (hyear : ∀ ms, datum = .timestamp ms → (printTime ms).tm.year ≤ 9999)
    (hpresent : datum.isNull = false) :
    ∃ value, readTimestamp mktime printTime datum = some value := by
  obtain ⟨ms, rfl⟩ := exists_timestamp hstored hpresent
  have hsome := (isSome_stringToTimestamp_iff mktime (printTime ms)).mpr
    (hyear ms rfl)
  exact Option.isSome_iff_exists.mp hsome

/-- A value that may be absent is read where it is present. -/
theorem exists_optional {read : Datum Json → Option Value}
    (hread : datum.isNull = false → ∃ value, read datum = some value) :
    ∃ value, datum.optional read = some value := by
  rw [Datum.optional]
  split
  · exact ⟨none, rfl⟩
  · next hpresent =>
      obtain ⟨value, hvalue⟩ := hread (Bool.eq_false_of_not_eq_true hpresent)
      exact ⟨some value, by rw [hvalue]; rfl⟩

end

end Datafeed.Storage
