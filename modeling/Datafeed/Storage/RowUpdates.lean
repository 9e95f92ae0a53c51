import Datafeed.Core.ReadModifyWrite
import Datafeed.Storage.Adapter

/-!
# Rows that are read and written as a whole

A record type whose reader by key gives every column a field, and whose
`UPDATE` assigns every one of these fields.  Its rows are rows in the sense of
`ReadModifyWrite`: what an update is given is what the row has after it, and
what the row has is what the reader gives, up to what reading does to a value.
-/

namespace Datafeed.Storage

open Sql ReadModifyWrite

/-! ## Reading and storing again -/

section Reading

variable {Json Value : Type} {codec : Codec Json} {sqlType : SqlType}

/-- A value that a column of the type can have. -/
def IsStored (codec : Codec Json) (sqlType : SqlType) (datum : Datum Json) :
    Prop :=
  ∃ param, Sql.store codec sqlType param = some datum

/-- What is read from a column and sent again is stored as `back` says. -/
def SendsBack (codec : Codec Json) (sqlType : SqlType) (append : Value → Param)
    (read : Datum Json → Option Value) (back : Datum Json → Datum Json) : Prop :=
  ∀ datum value, IsStored codec sqlType datum → read datum = some value →
    stored codec sqlType (append value) = back datum

/-- The types whose text is stored as it is sent. -/
def IsPlainText : SqlType → Prop
  | .varchar _ | .text => True
  | _ => False

/-- A reader that gives back every parameter that is not `NULL`. -/
theorem sendsBack_of_sent {append : Value → Param}
    {read : Datum Json → Option Value} (hnull : read .null = none)
    (hsent : ∀ param datum, Sql.store codec sqlType param = some datum →
      param = .null ∨ ∃ value, param = append value ∧ read datum = some value) :
    SendsBack codec sqlType append read id := by
  intro datum value ⟨param, hparam⟩ hread
  rcases hsent param datum hparam with rfl | ⟨sent, rfl, hback⟩
  · have hdatum : Sql.store codec sqlType .null = some (.null : Datum Json) := by
      cases sqlType <;> rfl
    rw [hdatum, Option.some.injEq] at hparam
    rw [← hparam, hnull] at hread
    cases hread
  · obtain rfl : value = sent := Option.some.inj (hread.symm.trans hback)
    rw [stored, hparam]
    rfl

theorem sendsBack_text (hplain : IsPlainText sqlType) :
    SendsBack codec sqlType .text (Datum.asString codec) id := by
  apply sendsBack_of_sent rfl
  intro param datum hparam
  cases param with
  | null => exact Or.inl rfl
  | text sent =>
      refine Or.inr ⟨sent, rfl, ?_⟩
      cases sqlType with
      | varchar length =>
          have hsent := (Option.ite_none_right_eq_some.mp hparam).2
          rw [← Option.some.inj hsent]
          rfl
      | text =>
          have hsent := (Option.ite_none_right_eq_some.mp hparam).2
          rw [← Option.some.inj hsent]
          rfl
      | _ => exact hplain.elim
  | _ =>
      cases sqlType with
      | varchar length => cases hparam
      | text => cases hparam
      | _ => exact hplain.elim

theorem sendsBack_integer (hinteger : sqlType.IsInteger) :
    SendsBack codec sqlType .integer Datum.asInt64 id := by
  apply sendsBack_of_sent rfl
  intro param datum hparam
  cases param with
  | null => exact Or.inl rfl
  | integer sent =>
      refine Or.inr ⟨sent, rfl, ?_⟩
      cases sqlType with
      | int4 =>
          have hsent := (Option.ite_none_right_eq_some.mp hparam).2
          rw [← Option.some.inj hsent]
          rfl
      | int8 =>
          have hsent := (Option.ite_none_right_eq_some.mp hparam).2
          rw [← Option.some.inj hsent]
          rfl
      | _ => exact hinteger.elim
  | _ =>
      cases sqlType with
      | int4 => cases hparam
      | int8 => cases hparam
      | _ => exact hinteger.elim

/-- An integer sent to the column is stored, and read, as a double. -/
theorem sendsBack_double :
    SendsBack codec .float8 .double Datum.asDouble id := by
  intro datum value ⟨param, hparam⟩ hread
  cases datum with
  | float number =>
      obtain rfl : number = value := Option.some.inj hread
      rfl
  | integer number => cases param <;> cases hparam
  | _ => cases hread

theorem sendsBack_bool :
    SendsBack codec .boolean appendBool Datum.asBool id := by
  intro datum value _ hread
  cases datum with
  | boolean flag =>
      obtain rfl : flag = value := Option.some.inj hread
      exact stored_bool flag
  | _ => cases hread

/-- A reader that throws on `NULL`, over the columns that may have it. -/
theorem SendsBack.optional {append : Value → Param}
    {read : Datum Json → Option Value} {back : Datum Json → Datum Json}
    (hsends : SendsBack codec sqlType append read back)
    (hnull : back .null = .null) :
    SendsBack codec sqlType (appendOpt append) (Datum.optional read) back := by
  intro datum value hstored hread
  cases datum with
  | null =>
      obtain rfl : none = value := Option.some.inj hread
      rw [hnull]
      exact stored_null sqlType
  | _ =>
      obtain ⟨present, hpresent, rfl⟩ := Option.map_eq_some_iff.mp hread
      exact hsends _ present hstored hpresent

/-- What a timestamp is after a reader of its text. -/
def timestampBack (readTime : Datum Json → Option ℕ) (datum : Datum Json) :
    Datum Json :=
  match readTime datum with
  | some ms => .timestamp ms
  | none => .null

theorem sendsBack_timestamp (readTime : Datum Json → Option ℕ) :
    SendsBack codec .timestamptz .timestamp readTime
      (timestampBack readTime) := by
  intro datum value _ hread
  rw [timestampBack, hread]
  rfl

end Reading

/-! ## Records of a row -/

variable {Column Json Record Env : Type} {schema : Schema Column}
  {referenced : Column → Datum Json → Bool} {codec : Codec Json}

/-- The row that a key finds. -/
def rowOf [DecidableEq Json] (codec : Codec Json)
    (store : Store Json schema referenced) (key : Column) (id : Param) :
    Option (Row Column Json) :=
  (Sql.store codec (schema.sqlType key) id).bind fun datum =>
    store.table.rows.find? fun row => row key = datum

theorem store_key_of_rowOf [DecidableEq Json]
    {store : Store Json schema referenced} {key : Column} {id : Param}
    {row : Row Column Json} (hrow : rowOf codec store key id = some row) :
    Sql.store codec (schema.sqlType key) id = some (row key) := by
  obtain ⟨datum, hdatum, hfind⟩ := Option.bind_eq_some_iff.mp hrow
  have hkey : row key = datum := by simpa using List.find?_some hfind
  rw [hkey]
  exact hdatum

theorem mem_of_rowOf [DecidableEq Json]
    {store : Store Json schema referenced} {key : Column} {id : Param}
    {row : Row Column Json} (hrow : rowOf codec store key id = some row) :
    row ∈ store.table.rows := by
  obtain ⟨datum, -, hfind⟩ := Option.bind_eq_some_iff.mp hrow
  exact List.mem_of_find?_eq_some hfind

theorem exists_rowOf_of_getById [DecidableEq Json]
    {store : Store Json schema referenced} {key : Column} {id : Param}
    {decode : Row Column Json → Option Record} {record : Record}
    (hread : getById codec store key id decode = some record) :
    ∃ row, rowOf codec store key id = some row ∧ decode row = some record := by
  rw [getById] at hread
  split at hread
  · cases hread
  · obtain ⟨datum, hdatum, hrest⟩ := Option.bind_eq_some_iff.mp hread
    obtain ⟨row, hfind, hdecode⟩ := Option.bind_eq_some_iff.mp hrest
    refine ⟨row, ?_, hdecode⟩
    rw [rowOf, hdatum, Option.bind_some]
    exact hfind

/-- An `UPDATE` that changes a row has put the fields into it. -/
theorem rowOf_of_execUpdate [DecidableEq Column] [DecidableEq Json]
    {store next : Store Json schema referenced}
    {statement : UpdateStatement Column} {columns : List Column}
    {params : List Param} {field : Column → Param} {key id : Param}
    {changed : ℕ} (haligned : statement.Aligned columns params field key)
    (hexec : store.table.execUpdate codec statement params =
      .ok (next.table, changed)) (hchanged : 0 < changed)
    (hsame : Sql.store codec (schema.sqlType statement.key) id =
      some (stored codec (schema.sqlType statement.key) key)) :
    ∃ row, rowOf codec next statement.key id =
      some (namedRow codec schema columns field row) := by
  obtain ⟨-, -, hrows, hcount⟩ := Table.of_execUpdate_ok haligned hexec
  have hkeep : ∀ row : Row Column Json,
      namedRow codec schema columns field row statement.key =
        row statement.key := by
    intro row
    rw [namedRow, if_neg haligned.keyNotAssigned]
  rw [hcount] at hchanged
  obtain ⟨row, hmem⟩ := List.exists_mem_of_length_pos hchanged
  obtain ⟨hrow, hkey⟩ := List.mem_filter.mp hmem
  have hfound : (store.table.rows.find? fun row => row statement.key =
      stored codec (schema.sqlType statement.key) key).isSome :=
    List.find?_isSome.mpr ⟨row, hrow, hkey⟩
  obtain ⟨first, hfirst⟩ := Option.isSome_iff_exists.mp hfound
  refine ⟨first, ?_⟩
  rw [rowOf, hsame, Option.bind_some, hrows, find?_changed hkeep, hfirst]
  rfl

/-- A record type with a reader by key and an update by the same key.  `Env` is
what the server adds to the parameters of the update. -/
structure Rewriting (codec : Codec Json) (schema : Schema Column)
    (referenced : Column → Datum Json → Bool) (Env Record : Type)
    [DecidableEq Column] [DecidableEq Json] where
  statement : UpdateStatement Column
  /-- The columns that the statement assigns. -/
  columns : List Column
  params : Env → Record → List Param
  /-- The field of the column's name. -/
  field : Record → Column → Param
  /-- What the column is assigned. -/
  assigned : Env → Record → Column → Param
  /-- The columns that are assigned the field of their name. -/
  written : List Column
  decode : Row Column Json → Option Record
  back : Column → Datum Json → Datum Json
  update : Env → Store Json schema referenced → Record →
    Bool × Store Json schema referenced
  aligned : ∀ env record, statement.Aligned columns (params env record)
    (assigned env record) (field record statement.key)
  written_subset : written ⊆ columns
  key_not_written : statement.key ∉ written
  assigned_eq : ∀ env record, ∀ column ∈ written,
    assigned env record column = field record column
  field_of_decode : ∀ row record, decode row = some record →
    ∀ column ∈ written,
      IsStored codec (schema.sqlType column) (row column) →
        stored codec (schema.sqlType column) (field record column) =
          back column (row column)
  key_of_decode : ∀ row record datum, decode row = some record →
    IsStored codec (schema.sqlType statement.key) (row statement.key) →
      Sql.store codec (schema.sqlType statement.key)
          (field record statement.key) = some datum →
        datum = row statement.key
  exec_of_update : ∀ env store record next,
    update env store record = (true, next) → ∃ changed,
      store.table.execUpdate codec statement (params env record) =
        .ok (next.table, changed) ∧ 0 < changed

namespace Rewriting

variable [DecidableEq Column] [DecidableEq Json]
  (rewriting : Rewriting codec schema referenced Env Record)

/-- The row of a key. -/
def wholeRow (id : Param) : WholeRow (Store Json schema referenced) Record Env
    Column (Datum Json) where
  get store := getById codec store rewriting.statement.key id rewriting.decode
  update := rewriting.update
  field record column :=
    stored codec (schema.sqlType column) (rewriting.field record column)
  Holds store column datum :=
    ∃ row, rowOf codec store rewriting.statement.key id = some row ∧
      row column = datum ∧ IsStored codec (schema.sqlType column) datum
  written := {column | column ∈ rewriting.written}
  back := rewriting.back
  Keyed record := ∀ datum,
    Sql.store codec (schema.sqlType rewriting.statement.key)
        (rewriting.field record rewriting.statement.key) = some datum →
      Sql.store codec (schema.sqlType rewriting.statement.key) id = some datum
  keyed_of_get := by
    intro store record hget datum hdatum
    obtain ⟨row, hrow, hdecode⟩ := exists_rowOf_of_getById hget
    have hkey := store_key_of_rowOf hrow
    rw [rewriting.key_of_decode row record datum hdecode ⟨id, hkey⟩ hdatum]
    exact hkey
  field_of_get := by
    rintro store record column datum hget hwritten ⟨row, hrow, rfl, hstored⟩
    obtain ⟨other, hother, hdecode⟩ := exists_rowOf_of_getById hget
    obtain rfl : row = other := Option.some.inj (hrow.symm.trans hother)
    exact rewriting.field_of_decode row record hdecode column hwritten hstored
  holds_of_update := by
    intro env store record next hkeyed hupdate column hwritten
    obtain ⟨changed, hexec, hchanged⟩ :=
      rewriting.exec_of_update env store record next hupdate
    have haligned := rewriting.aligned env record
    obtain ⟨hkey, haccepted, -⟩ := Table.of_execUpdate_ok haligned hexec
    obtain ⟨row, hrow⟩ := rowOf_of_execUpdate haligned hexec hchanged
      (hkeyed _ hkey)
    have hassigned := rewriting.assigned_eq env record column hwritten
    have hlisted := rewriting.written_subset hwritten
    refine ⟨_, hrow, ?_, ?_⟩
    · rw [namedRow, if_pos hlisted, hassigned]
    · exact ⟨_, hassigned ▸ store_eq_of_accepted haccepted hlisted⟩
  holds_unique := by
    rintro store column datum other ⟨row, hrow, rfl, -⟩
      ⟨row', hrow', rfl, -⟩
    rw [Option.some.inj (hrow.symm.trans hrow')]

/-- A change of written fields of the record. -/
def patch (id : Param) (apply : Record → Record) (param : Column → Option Param)
    (hwritten : ∀ column new, param column = some new →
      column ∈ rewriting.written)
    (hfield : ∀ record column, rewriting.field (apply record) column =
      (param column).getD (rewriting.field record column)) :
    Patch (rewriting.wholeRow id) where
  apply := apply
  value column := (param column).map (stored codec (schema.sqlType column))
  value_written := by
    intro column new hnew
    obtain ⟨sent, hsent, -⟩ := Option.map_eq_some_iff.mp hnew
    exact hwritten column sent hsent
  keyed_apply := by
    intro record hkeyed datum hdatum
    apply hkeyed datum
    rw [hfield] at hdatum
    cases hkey : param rewriting.statement.key with
    | none =>
        rw [hkey, Option.getD_none] at hdatum
        exact hdatum
    | some new =>
        exact absurd (hwritten _ new hkey) rewriting.key_not_written
  field_apply := by
    intro record column
    change stored codec (schema.sqlType column)
        (rewriting.field (apply record) column) = _
    rw [hfield]
    cases param column <;> rfl

theorem readBack_patch_iff {id : Param} {apply : Record → Record}
    {param : Column → Option Param}
    (hwritten : ∀ column new, param column = some new →
      column ∈ rewriting.written)
    (hfield : ∀ record column, rewriting.field (apply record) column =
      (param column).getD (rewriting.field record column)) :
    (rewriting.patch id apply param hwritten hfield).ReadBack ↔
      ∀ column new, param column = some new →
        rewriting.back column (stored codec (schema.sqlType column) new) =
          stored codec (schema.sqlType column) new := by
  constructor
  · intro hback column new hnew
    exact hback column _ (Option.map_eq_some_iff.mpr ⟨new, hnew, rfl⟩)
  · intro hback column datum hdatum
    obtain ⟨new, hnew, rfl⟩ := Option.map_eq_some_iff.mp hdatum
    exact hback column new hnew

end Rewriting

end Datafeed.Storage
