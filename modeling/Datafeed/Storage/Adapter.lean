import Datafeed.Core.Statement

/-!
# The pattern of the database adapter

Every `create_*`, `update_*`, `get_*_by_id` and `get_*_by_condition` of
`SAdapter` has one shape: leave with an empty result unless connected, run one
statement in a transaction, and turn any exception into an empty result.  The
four shapes are defined once, over the statement, the parameters and the decoder
that the members of a family pass.
-/

namespace Datafeed.Storage

open Sql

variable {Column Json Record : Type} {schema : Schema Column}
  {referenced : Column → Datum Json → Bool}

/-- The adapter's view of one table: its rows, whether the connection is open,
and whether the statements on the table are prepared. -/
structure Store (Json : Type) (schema : Schema Column)
    (referenced : Column → Datum Json → Bool) where
  table : Table Json schema referenced
  isConnected : Bool
  prepared : Bool

/-- Just connected, to an empty table. -/
def Store.empty (Json : Type) (schema : Schema Column)
    (referenced : Column → Datum Json → Bool) : Store Json schema referenced where
  table := { rows := [], valid := by simp }
  isConnected := true
  prepared := true

def Store.Ready (store : Store Json schema referenced) : Prop :=
  store.isConnected = true ∧ store.prepared = true

variable [DecidableEq Column] [DecidableEq Json] (codec : Codec Json)

/-- A `create_*`: the record with the key the server returned.  The
transaction is committed before the key is read. -/
def create (store : Store Json schema referenced) (supply : Supply)
    (statement : InsertStatement Column) (params : List Param)
    (withKey : Row Column Json → Option Record) :
    Option Record × Store Json schema referenced :=
  if store.isConnected = false ∨ store.prepared = false then (none, store)
  else
    match store.table.execInsert codec supply statement params with
    | .error _ => (none, store)
    | .ok (row, table) => (withKey row, { store with table := table })

/-- An `update_*` of the record with a key: whether a row was changed. -/
def update (store : Store Json schema referenced)
    (statement : UpdateStatement Column) (params : List Param) (key : String) :
    Bool × Store Json schema referenced :=
  if store.isConnected = false ∨ key = "" then (false, store)
  else if store.prepared = false then (false, store)
  else
    match store.table.execUpdate codec statement params with
    | .error _ => (false, store)
    | .ok (table, changed) => (0 < changed, { store with table := table })

/-- A `get_*_by_id` through the prepared `SELECT * .. WHERE key = $1`. -/
def getById (store : Store Json schema referenced) (key : Column) (id : Param)
    (decode : Row Column Json → Option Record) : Option Record :=
  if store.isConnected = false ∨ store.prepared = false then none
  else
    (Sql.store codec (schema.sqlType key) id).bind fun datum =>
      (store.table.rows.find? fun row => row key = datum).bind decode

/-- The loop of a reader: an exception leaves it with the records so far. -/
def decodeRows (decode : Row Column Json → Option Record) :
    List (Row Column Json) → List Record
  | [] => []
  | row :: rows =>
      match decode row with
      | some record => record :: decodeRows decode rows
      | none => []

omit [DecidableEq Column] [DecidableEq Json] in
/-- A `get_*_by_condition`, with the condition as a predicate on rows. -/
def getByCondition (store : Store Json schema referenced)
    (condition : Row Column Json → Bool)
    (decode : Row Column Json → Option Record) : List Record :=
  if store.isConnected = false then []
  else decodeRows decode (store.table.rows.filter condition)

omit [DecidableEq Column] [DecidableEq Json] in
theorem decodeRows_eq_filterMap {decode : Row Column Json → Option Record}
    {rows : List (Row Column Json)}
    (hreads : ∀ row ∈ rows, (decode row).isSome = true) :
    decodeRows decode rows = rows.filterMap decode := by
  induction rows with
  | nil => rfl
  | cons row rows ih =>
      obtain ⟨record, hrecord⟩ := Option.isSome_iff_exists.mp
        (hreads row List.mem_cons_self)
      rw [decodeRows, hrecord, List.filterMap_cons, hrecord]
      exact congrArg (record :: ·)
        (ih fun other hother => hreads other (List.mem_cons_of_mem _ hother))

variable {codec}

theorem create_of_aligned {store : Store Json schema referenced}
    (hready : store.Ready) {supply : Supply}
    {statement : InsertStatement Column} {params : List Param}
    {field : Column → Param} (haligned : statement.Aligned params field)
    (homits : OmitsGenerated schema statement.columns)
    (hfills : FillsNotNull schema statement.columns field)
    (hadmissible :
      Admissible codec schema referenced statement.columns field)
    (hunique : RespectsUnique schema store.table.rows
      (namedRow codec schema statement.columns field
        (defaultDatum schema supply)))
    (withKey : Row Column Json → Option Record) :
    ∃ next, create codec store supply statement params withKey =
        (withKey (namedRow codec schema statement.columns field
          (defaultDatum schema supply)), next) ∧
      next.Ready ∧
      next.table.rows = store.table.rows ++
        [namedRow codec schema statement.columns field
          (defaultDatum schema supply)] := by
  rcases store.table.execInsert_of_aligned haligned homits hfills hadmissible
    hunique with ⟨table, hexec, hrows⟩
  refine ⟨{ store with table := table }, ?_, hready, hrows⟩
  simp [create, hready.1, hready.2, hexec]

theorem create_of_error {store : Store Json schema referenced}
    {supply : Supply} {statement : InsertStatement Column}
    {params : List Param} {error : SqlError}
    (herror : store.table.execInsert codec supply statement params =
      .error error)
    (withKey : Row Column Json → Option Record) :
    create codec store supply statement params withKey = (none, store) := by
  rw [create, herror]
  simp

/-- An `update_*` that reports success has changed a row. -/
theorem exec_of_update {store next : Store Json schema referenced}
    {statement : UpdateStatement Column} {params : List Param} {key : String}
    (hupdate : update codec store statement params key = (true, next)) :
    ∃ changed, store.table.execUpdate codec statement params =
      .ok (next.table, changed) ∧ 0 < changed := by
  rw [update] at hupdate
  split at hupdate
  · cases hupdate
  · split at hupdate
    · cases hupdate
    · split at hupdate
      · cases hupdate
      · next table changed hexec =>
          rw [Prod.mk.injEq, decide_eq_true_eq] at hupdate
          obtain ⟨hchanged, rfl⟩ := hupdate
          exact ⟨changed, hexec, hchanged⟩

omit [DecidableEq Column] in
/-- A row with a new key is the one its key finds. -/
theorem getById_of_append {store : Store Json schema referenced}
    (hready : store.Ready) {before : List (Row Column Json)}
    {row : Row Column Json} (hrows : store.table.rows = before ++ [row])
    {key : Column} {id : Param}
    (hfits : Fits codec (schema.sqlType key) id)
    (hkey : row key = stored codec (schema.sqlType key) id)
    (hfresh : ∀ other ∈ before, other key ≠ row key)
    (decode : Row Column Json → Option Record) :
    getById codec store key id decode = decode row := by
  have hfind : store.table.rows.find? (fun other =>
      other key = stored codec (schema.sqlType key) id) = some row := by
    rw [hrows, List.find?_append, List.find?_eq_none.mpr]
    · simp [hkey]
    · intro other hother
      rw [← hkey]
      simpa using hfresh other hother
  simp [getById, hready.1, hready.2, store_eq_stored hfits, hfind]

omit [DecidableEq Column] [DecidableEq Json] in
theorem getByCondition_of_append {store : Store Json schema referenced}
    (hready : store.Ready) {before : List (Row Column Json)}
    {row : Row Column Json} (hrows : store.table.rows = before ++ [row])
    {condition : Row Column Json → Bool} (hrow : condition row = true)
    (hothers : ∀ other ∈ before, condition other = false)
    {decode : Row Column Json → Option Record} {record : Record}
    (hdecode : decode row = some record) :
    getByCondition store condition decode = [record] := by
  have hbefore : before.filter condition = [] := by
    simpa using hothers
  simp [getByCondition, hready.1, hrows, List.filter_append, hbefore, hrow,
    decodeRows, hdecode]

omit [DecidableEq Column] in
/-- A change that leaves the key alone does not move what the key finds. -/
theorem find?_changed {rows : List (Row Column Json)} {key : Column}
    {datum : Datum Json} {change : Row Column Json → Row Column Json}
    (hchange : ∀ row, change row key = row key) :
    (rows.map fun row => if row key = datum then change row else row).find?
        (fun row => row key = datum) =
      (rows.find? fun row => row key = datum).map change := by
  rw [List.find?_map]
  have hcomp : ((fun row : Row Column Json => decide (row key = datum)) ∘
      fun row => if row key = datum then change row else row) =
        fun row => decide (row key = datum) := by
    funext row
    simp only [Function.comp]
    split
    · rw [hchange]
    · rfl
  rw [hcomp]
  cases hcase : rows.find? fun row => row key = datum with
  | none => rfl
  | some row =>
      have hkey := List.find?_some hcase
      simp only [decide_eq_true_eq] at hkey
      simp [hkey]

omit [DecidableEq Column] in
/-- After an `UPDATE` that leaves the key alone, the key finds the changed
row. -/
theorem getById_of_update {store next : Store Json schema referenced}
    (hready : store.Ready) (hnext : next.Ready) {key : Column} {id : Param}
    (hfits : Fits codec (schema.sqlType key) id)
    {change : Row Column Json → Row Column Json}
    (hchange : ∀ row, change row key = row key)
    (hrows : next.table.rows = store.table.rows.map fun row =>
      if row key = stored codec (schema.sqlType key) id then change row
      else row)
    (decode : Row Column Json → Option Record) :
    getById codec next key id decode =
      getById codec store key id fun row => decode (change row) := by
  have hfind : next.table.rows.find? (fun row =>
        row key = stored codec (schema.sqlType key) id) =
      (store.table.rows.find? fun row =>
        row key = stored codec (schema.sqlType key) id).map change := by
    rw [hrows]
    exact find?_changed hchange
  simp only [getById, hready.1, hready.2, hnext.1, hnext.2,
    store_eq_stored hfits, Option.bind_some, hfind]
  cases store.table.rows.find? fun row =>
    decide (row key = stored codec (schema.sqlType key) id) <;> rfl

/-! ## Reading fields back by name -/

/-- A row holds the field of a column's name in that column. -/
structure Holds (codec : Codec Json) (schema : Schema Column)
    (row : Row Column Json) (field : Column → Param) (column : Column) :
    Prop where
  fits : Fits codec (schema.sqlType column) (field column)
  row_eq : row column = stored codec (schema.sqlType column) (field column)

omit [DecidableEq Json] in
theorem holds_namedRow {columns : List Column} {field : Column → Param}
    (hadmissible : Admissible codec schema referenced columns field)
    (row : Row Column Json) {column : Column} (hlisted : column ∈ columns) :
    Holds codec schema (namedRow codec schema columns field row) field
      column where
  fits := hadmissible.fits column hlisted
  row_eq := by rw [namedRow, if_pos hlisted]

namespace Holds

omit [DecidableEq Column] [DecidableEq Json]

variable {row : Row Column Json} {field : Column → Param} {column : Column}

theorem text (hholds : Holds codec schema row field column)
    (htype : (schema.sqlType column).IsTextual) {value : String}
    (hfield : field column = .text value) :
    (row column).asString codec = some value := by
  have hfits := hholds.fits
  rw [hfield] at hfits
  rw [hholds.row_eq, hfield]
  exact asString_stored htype hfits

theorem optText (hholds : Holds codec schema row field column)
    (htype : (schema.sqlType column).IsTextual) {value : Option String}
    (hfield : field column = appendOpt .text value) :
    (row column).optional (Datum.asString codec) = some value := by
  have hfits := hholds.fits
  rw [hfield] at hfits
  rw [hholds.row_eq, hfield]
  exact optional_asString_stored htype hfits

theorem integer (hholds : Holds codec schema row field column)
    (htype : (schema.sqlType column).IsInteger) {value : ℤ}
    (hfield : field column = .integer value) :
    (row column).asInt64 = some value := by
  have hfits := hholds.fits
  rw [hfield] at hfits
  rw [hholds.row_eq, hfield]
  exact asInt64_stored htype hfits

theorem optInteger (hholds : Holds codec schema row field column)
    (htype : (schema.sqlType column).IsInteger) {value : Option ℤ}
    (hfield : field column = appendOpt .integer value) :
    (row column).optional Datum.asInt64 = some value := by
  have hfits := hholds.fits
  rw [hfield] at hfits
  rw [hholds.row_eq, hfield]
  exact optional_asInt64_stored htype hfits

theorem optDouble (hholds : Holds codec schema row field column)
    (htype : schema.sqlType column = .float8) {value : Option ℚ}
    (hfield : field column = appendOpt .double value) :
    (row column).optional Datum.asDouble = some value := by
  rw [hholds.row_eq, hfield, htype]
  exact optional_asDouble_stored value

theorem optTruncated (hholds : Holds codec schema row field column)
    (htype : schema.sqlType column = .float8) {value : Option ℤ}
    (hfield : field column = appendOpt .integer value) :
    (row column).optional Datum.asTruncated = some value := by
  have hfits := hholds.fits
  rw [hfield, htype] at hfits
  rw [hholds.row_eq, hfield, htype]
  exact optional_asTruncated_stored hfits

theorem bool (hholds : Holds codec schema row field column)
    (htype : schema.sqlType column = .boolean) {value : Bool}
    (hfield : field column = appendBool value) :
    (row column).asBool = some value := by
  rw [hholds.row_eq, hfield, htype, stored_bool]
  rfl

theorem timestamp (hholds : Holds codec schema row field column)
    (htype : schema.sqlType column = .timestamptz) {value : ℕ}
    (hfield : field column = .timestamp value) :
    (row column).asTimestamp = some value := by
  rw [hholds.row_eq, hfield, htype, stored_timestamp]
  rfl

theorem optTimestamp (hholds : Holds codec schema row field column)
    (htype : schema.sqlType column = .timestamptz) {value : Option ℕ}
    (hfield : field column = appendOpt .timestamp value) :
    (row column).optional Datum.asTimestamp = some value := by
  rw [hholds.row_eq, hfield, htype]
  exact optional_asTimestamp_stored value

theorem json (hholds : Holds codec schema row field column)
    (htype : schema.sqlType column = .jsonb) {value : Option String}
    (hfield : field column = appendOpt .text value) :
    (row column).optional (Datum.asString codec) =
      some (value.map (normalized codec)) := by
  have hfits := hholds.fits
  rw [hfield, htype] at hfits
  rw [hholds.row_eq, hfield, htype]
  exact optional_json_stored hfits

end Holds

/-! ## Round trips of a record type -/

/-- The row an aligned `INSERT` makes of a record. -/
def insertedRow (codec : Codec Json) (schema : Schema Column)
    (statement : InsertStatement Column) (field : Column → Param)
    (supply : Supply) : Row Column Json :=
  namedRow codec schema statement.columns field (defaultDatum schema supply)

/-- A record can be inserted: its fields are admissible and its keys are new. -/
structure Insertable (codec : Codec Json) (statement : InsertStatement Column)
    (field : Record → Column → Param) (store : Store Json schema referenced)
    (supply : Supply) (record : Record) : Prop where
  admissible :
    Admissible codec schema referenced statement.columns (field record)
  unique : RespectsUnique schema store.table.rows
    (insertedRow codec schema statement (field record) supply)

omit [DecidableEq Json] in
theorem insertable_empty {statement : InsertStatement Column}
    {field : Record → Column → Param} {record : Record}
    (hadmissible :
      Admissible codec schema referenced statement.columns (field record))
    (supply : Supply) :
    Insertable codec statement field (Store.empty Json schema referenced) supply
      record where
  admissible := hadmissible
  unique := by
    intro key hkey other hother
    cases hother

/-- Creating a record succeeds, and the reader gives it back under the key of
the created record, up to `same`. -/
def ReadsBack
    (create : Store Json schema referenced → Supply → Record →
      Option Record × Store Json schema referenced)
    (read : Store Json schema referenced → Record → Option Record)
    (same : Record → Record → Prop) (store : Store Json schema referenced)
    (supply : Supply) (record : Record) : Prop :=
  ∃ created next result, create store supply record = (some created, next) ∧
    read next created = some result ∧ same record result

section ReadsBack

omit [DecidableEq Column] [DecidableEq Json]

variable
  {create : Store Json schema referenced → Supply → Record →
    Option Record × Store Json schema referenced}
  {read : Store Json schema referenced → Record → Option Record}
  {same other : Record → Record → Prop} {store : Store Json schema referenced}
  {supply : Supply} {record : Record}

theorem ReadsBack.imp
    (hreads : ReadsBack create read same store supply record)
    (himp : ∀ result, same record result → other record result) :
    ReadsBack create read other store supply record := by
  obtain ⟨created, next, result, hcreate, hread, hsame⟩ := hreads
  exact ⟨created, next, result, hcreate, hread, himp result hsame⟩

/-- There is only one result to read back. -/
theorem ReadsBack.exists_both
    (hreads : ReadsBack create read same store supply record)
    (hother : ReadsBack create read other store supply record) :
    ∃ result, same record result ∧ other record result := by
  obtain ⟨created, next, result, hcreate, hread, hsame⟩ := hreads
  obtain ⟨created', next', result', hcreate', hread', hsame'⟩ := hother
  rw [hcreate, Prod.mk.injEq, Option.some.injEq] at hcreate'
  rw [← hcreate'.1, ← hcreate'.2, hread, Option.some.injEq] at hread'
  rw [← hread'] at hsame'
  exact ⟨result, hsame, hsame'⟩

/-- A record that is not created does not read back. -/
theorem not_readsBack_of_create_eq {next : Store Json schema referenced}
    (hcreate : create store supply record = (none, next)) :
    ¬ ReadsBack create read same store supply record := by
  intro ⟨created, _, _, hcreated, _⟩
  rw [hcreate] at hcreated
  cases hcreated

end ReadsBack

/-- Every insertable record reads back. -/
def CreateReads (schema : Schema Column)
    (referenced : Column → Datum Json → Bool)
    (create : Store Json schema referenced → Supply → Record →
      Option Record × Store Json schema referenced)
    (read : Store Json schema referenced → Record → Option Record)
    (insertable : Store Json schema referenced → Supply → Record → Prop)
    (same : Record → Record → Prop) : Prop :=
  ∀ store supply record, store.Ready → insertable store supply record →
    ReadsBack create read same store supply record

/-- Updating a stored record succeeds, and the reader then gives the new
record with what `same` takes over from the old one. -/
def UpdateReads (schema : Schema Column)
    (referenced : Column → Datum Json → Bool)
    (update : Store Json schema referenced → Record →
      Bool × Store Json schema referenced)
    (read : Store Json schema referenced → Record → Option Record)
    (admissible : Record → Prop)
    (same : Record → Record → Record → Prop) : Prop :=
  ∀ store old record, store.Ready → admissible record →
    read store record = some old →
      ∃ next result, update store record = (true, next) ∧
        read next record = some result ∧ same old record result

/-- The only element of a list. -/
def theOnly : List Record → Option Record
  | [record] => some record
  | _ => none

/-- The inserted row carries the key of the created record, and decodes to the
record up to `same`. -/
def RowReads (codec : Codec Json) (schema : Schema Column)
    (referenced : Column → Datum Json → Bool)
    (statement : InsertStatement Column) (field : Record → Column → Param)
    (withKey : Record → Row Column Json → Option Record) (key : Column)
    (keyParam : Record → Param) (decode : Row Column Json → Option Record)
    (same : Record → Record → Prop) : Prop :=
  ∀ supply record,
    Admissible codec schema referenced statement.columns (field record) →
      ∃ created result,
        withKey record
            (insertedRow codec schema statement (field record) supply) =
          some created ∧
        (Fits codec (schema.sqlType key) (keyParam created) ∧
          keyParam created ≠ .null ∧
          insertedRow codec schema statement (field record) supply key =
            stored codec (schema.sqlType key) (keyParam created)) ∧
        decode (insertedRow codec schema statement (field record) supply) =
          some result ∧
        same record result

omit [DecidableEq Json] in
/-- A key left to `gen_random_uuid()`. -/
theorem insertedRow_uuid {statement : InsertStatement Column}
    {field : Column → Param} {key : Column}
    (htype : schema.sqlType key = .uuid)
    (hdefault : schema.default key = .randomUuid)
    (homitted : key ∉ statement.columns) (supply : Supply) :
    Fits codec (schema.sqlType key) (.text supply.uuid) ∧
      Param.text supply.uuid ≠ .null ∧
      insertedRow codec schema statement field supply key =
        stored codec (schema.sqlType key) (.text supply.uuid) := by
  have hfits : Fits codec .uuid (.text supply.uuid) := supply.uuid_canonical
  have hstored : stored codec .uuid (.text supply.uuid) = .text supply.uuid :=
    stored_text trivial hfits
  rw [htype, hstored, insertedRow, namedRow, if_neg homitted, defaultDatum,
    hdefault]
  exact ⟨hfits, by simp, rfl⟩

omit [DecidableEq Json] in
/-- A key left to the sequence of a `BIGSERIAL` column. -/
theorem insertedRow_serial {statement : InsertStatement Column}
    {field : Column → Param} {key : Column}
    (htype : schema.sqlType key = .int8)
    (hdefault : schema.default key = .serial)
    (homitted : key ∉ statement.columns) (supply : Supply) :
    Fits codec (schema.sqlType key) (.integer supply.serial) ∧
      Param.integer supply.serial ≠ .null ∧
      insertedRow codec schema statement field supply key =
        stored codec (schema.sqlType key) (.integer supply.serial) := by
  have hfits : Fits codec .int8 (.integer supply.serial) :=
    supply.serial_inRange
  have hstored : stored codec .int8 (.integer supply.serial) =
      .integer supply.serial := stored_integer trivial hfits
  rw [htype, hstored, insertedRow, namedRow, if_neg homitted, defaultDatum,
    hdefault]
  exact ⟨hfits, by simp, rfl⟩

section RowReads

omit [DecidableEq Json]

variable {statement : InsertStatement Column}
  {field : Record → Column → Param} {key : Column}
  {decode : Row Column Json → Option Record} {same : Record → Record → Prop}

/-- A record type whose statement lists every column but a generated key. -/
theorem rowReads_generated {Key : Type} {keyOf : Record → Key}
    {withKey : Record → Key → Record}
    (append : Key → Param) (readKey : Datum Json → Option Key)
    (generated : Supply → Key)
    (hgenerated : ∀ record supply,
      Fits codec (schema.sqlType key) (append (generated supply)) ∧
        append (generated supply) ≠ .null ∧
        insertedRow codec schema statement (field record) supply key =
          stored codec (schema.sqlType key) (append (generated supply)))
    (hreadKey : ∀ supply,
      readKey (stored codec (schema.sqlType key) (append (generated supply))) =
        some (generated supply))
    (hkeyOf : ∀ record value, keyOf (withKey record value) = value)
    (hlisted : ∀ column, column ≠ key → column ∈ statement.columns)
    (hdecode : ∀ record row value,
      (∀ column, column ≠ key →
        Holds codec schema row (field record) column) →
        readKey (row key) = some value →
          ∃ result, decode row = some result ∧ same record result) :
    RowReads codec schema referenced statement field
      (fun record row => (readKey (row key)).map (withKey record)) key
      (fun record => append (keyOf record)) decode same := by
  intro supply record hadmissible
  have hrow := hgenerated record supply
  have hkey : readKey
      (insertedRow codec schema statement (field record) supply key) =
        some (generated supply) := by
    rw [hrow.2.2]
    exact hreadKey supply
  have hholds (column : Column) (hne : column ≠ key) : Holds codec schema
      (insertedRow codec schema statement (field record) supply)
      (field record) column :=
    holds_namedRow hadmissible _ (hlisted column hne)
  obtain ⟨result, hresult, hsame⟩ := hdecode record _ _ hholds hkey
  refine ⟨withKey record (generated supply), result, ?_, ?_, hresult, hsame⟩
  · exact congrArg (Option.map (withKey record)) hkey
  · simp only [hkeyOf]
    exact hrow

theorem rowReads_serial {keyOf : Record → ℤ} {withKey : Record → ℤ → Record}
    (htype : schema.sqlType key = .int8)
    (hdefault : schema.default key = .serial)
    (homitted : key ∉ statement.columns)
    (hkeyOf : ∀ record value, keyOf (withKey record value) = value)
    (hlisted : ∀ column, column ≠ key → column ∈ statement.columns)
    (hdecode : ∀ record row value,
      (∀ column, column ≠ key →
        Holds codec schema row (field record) column) →
        (row key).asInt64 = some value →
          ∃ result, decode row = some result ∧ same record result) :
    RowReads codec schema referenced statement field
      (fun record row => (row key).asInt64.map (withKey record)) key
      (fun record => .integer (keyOf record)) decode same := by
  apply rowReads_generated .integer Datum.asInt64 Supply.serial
    (fun _ supply => insertedRow_serial htype hdefault homitted supply) _
    hkeyOf hlisted hdecode
  intro supply
  have hinteger : SqlType.int8.IsInteger := trivial
  have hfits : Fits codec .int8 (.integer supply.serial) :=
    supply.serial_inRange
  rw [htype]
  exact asInt64_stored hinteger hfits

theorem rowReads_uuid {keyOf : Record → String}
    {withKey : Record → String → Record}
    (htype : schema.sqlType key = .uuid)
    (hdefault : schema.default key = .randomUuid)
    (homitted : key ∉ statement.columns)
    (hkeyOf : ∀ record value, keyOf (withKey record value) = value)
    (hlisted : ∀ column, column ≠ key → column ∈ statement.columns)
    (hdecode : ∀ record row value,
      (∀ column, column ≠ key →
        Holds codec schema row (field record) column) →
        (row key).asString codec = some value →
          ∃ result, decode row = some result ∧ same record result) :
    RowReads codec schema referenced statement field
      (fun record row => ((row key).asString codec).map (withKey record)) key
      (fun record => .text (keyOf record)) decode same := by
  apply rowReads_generated .text (Datum.asString codec) Supply.uuid
    (fun _ supply => insertedRow_uuid htype hdefault homitted supply) _
    hkeyOf hlisted hdecode
  intro supply
  have htextual : SqlType.uuid.IsTextual := trivial
  have hfits : Fits codec .uuid (.text supply.uuid) := supply.uuid_canonical
  rw [htype]
  exact asString_stored htextual hfits

/-- A record type whose statement lists every column, the key among them. -/
theorem rowReads_listed {keyOf : Record → String}
    {withKey : Record → String → Record}
    (htextual : (schema.sqlType key).IsTextual)
    (hlisted : ∀ column, column ∈ statement.columns)
    (hfield : ∀ record, field record key = .text (keyOf record))
    (hwithKey : ∀ record, withKey record (keyOf record) = record)
    (hdecode : ∀ record row,
      (∀ column, Holds codec schema row (field record) column) →
        ∃ result, decode row = some result ∧ same record result) :
    RowReads codec schema referenced statement field
      (fun record row => ((row key).asString codec).map (withKey record)) key
      (fun record => .text (keyOf record)) decode same := by
  intro supply record hadmissible
  have hholds (column : Column) : Holds codec schema
      (insertedRow codec schema statement (field record) supply)
      (field record) column :=
    holds_namedRow hadmissible _ (hlisted column)
  have hkey := (hholds key).text htextual (hfield record)
  obtain ⟨result, hresult, hsame⟩ := hdecode record _ hholds
  refine ⟨record, result, ?_, ?_, hresult, hsame⟩
  · have hcreated := congrArg (Option.map (withKey record)) hkey
    rw [Option.map_some, hwithKey] at hcreated
    exact hcreated
  · have hfits := (hholds key).fits
    have hrow := (hholds key).row_eq
    rw [hfield] at hfits hrow
    exact ⟨hfits, by simp, hrow⟩

end RowReads

omit [DecidableEq Column] [DecidableEq Json] in
theorem key_ne_of_respectsUnique {rows : List (Row Column Json)}
    {row : Row Column Json} (hunique : RespectsUnique schema rows row)
    {key : Column} (hkey : [key] ∈ schema.unique)
    (hpresent : (row key).isNull = false) :
    ∀ other ∈ rows, other key ≠ row key := by
  intro other hother hsame
  obtain ⟨column, hcolumn, hcase⟩ := hunique [key] hkey other hother
  rw [List.mem_singleton.mp hcolumn] at hcase
  rcases hcase with hne | hnull
  · exact hne hsame.symm
  · rw [hpresent] at hnull
    cases hnull

omit [DecidableEq Column] [DecidableEq Json] in
theorem isNull_stored_of_ne_null {sqlType : SqlType} {param : Param}
    (hfits : Fits codec sqlType param) (hparam : param ≠ .null) :
    (stored codec sqlType param).isNull = false := by
  have hne := stored_ne_null hfits hparam
  cases hdatum : stored codec sqlType param with
  | null => exact absurd hdatum hne
  | _ => rfl

section RoundTrips

variable {statement : InsertStatement Column} {params : Record → List Param}
  {field : Record → Column → Param}
  {withKey : Record → Row Column Json → Option Record} {key : Column}
  {keyParam : Record → Param} {decode : Row Column Json → Option Record}
  {same : Record → Record → Prop}

/-- A record type with an aligned statement reads back through a reader that
finds the last row by its new key. -/
theorem createReads_of_reader
    (haligned : ∀ record, statement.Aligned (params record) (field record))
    (homits : OmitsGenerated schema statement.columns)
    (hfills : ∀ record, FillsNotNull schema statement.columns (field record))
    (hkey : [key] ∈ schema.unique)
    (hreads : RowReads codec schema referenced statement field withKey key
      keyParam decode same)
    {reader : Store Json schema referenced → Record → Option Record}
    (hreader : ∀ (next : Store Json schema referenced) before row created
      result, next.Ready → next.table.rows = before ++ [row] →
        Fits codec (schema.sqlType key) (keyParam created) →
        row key = stored codec (schema.sqlType key) (keyParam created) →
        (∀ other ∈ before, other key ≠ row key) →
        decode row = some result → reader next created = some result) :
    CreateReads schema referenced
      (fun store supply record =>
        create codec store supply statement (params record) (withKey record))
      reader (Insertable codec statement field) same := by
  intro store supply record hready hinsertable
  rcases hreads supply record hinsertable.admissible with
    ⟨created, result, hcreated, ⟨hfits, hpresent, hrow⟩, hdecode, hsame⟩
  rcases create_of_aligned hready (haligned record) homits (hfills record)
    hinsertable.admissible hinsertable.unique (withKey record) with
    ⟨next, hcreate, hnext, hrows⟩
  rw [insertedRow] at hcreated
  rw [hcreated] at hcreate
  have hfresh := key_ne_of_respectsUnique hinsertable.unique hkey
    (by rw [hrow]; exact isNull_stored_of_ne_null hfits hpresent)
  have hread := hreader next store.table.rows _ created result hnext hrows
    hfits hrow hfresh hdecode
  exact ⟨created, next, result, hcreate, hread, hsame⟩

/-- A record type with an aligned statement reads back through its reader by
key. -/
theorem createReads_getById
    (haligned : ∀ record, statement.Aligned (params record) (field record))
    (homits : OmitsGenerated schema statement.columns)
    (hfills : ∀ record, FillsNotNull schema statement.columns (field record))
    (hkey : [key] ∈ schema.unique)
    (hreads : RowReads codec schema referenced statement field withKey key
      keyParam decode same) :
    CreateReads schema referenced
      (fun store supply record =>
        create codec store supply statement (params record) (withKey record))
      (fun store created => getById codec store key (keyParam created) decode)
      (Insertable codec statement field) same := by
  apply createReads_of_reader haligned homits hfills hkey hreads
  intro next before row created result hready hrows hfits hrow hfresh hdecode
  exact (getById_of_append hready hrows hfits hrow hfresh decode).trans hdecode

/-- A record type with an aligned statement is the only one its reader by
condition finds under its key. -/
theorem createReads_getByCondition
    (haligned : ∀ record, statement.Aligned (params record) (field record))
    (homits : OmitsGenerated schema statement.columns)
    (hfills : ∀ record, FillsNotNull schema statement.columns (field record))
    (hkey : [key] ∈ schema.unique)
    (hreads : RowReads codec schema referenced statement field withKey key
      keyParam decode same) :
    CreateReads schema referenced
      (fun store supply record =>
        create codec store supply statement (params record) (withKey record))
      (fun store created => theOnly (getByCondition store
        (fun row => row key =
          stored codec (schema.sqlType key) (keyParam created)) decode))
      (Insertable codec statement field) same := by
  apply createReads_of_reader haligned homits hfills hkey hreads
  intro next before row created result hready hrows hfits hrow hfresh hdecode
  have hothers : ∀ other ∈ before, decide (other key =
      stored codec (schema.sqlType key) (keyParam created)) = false := by
    intro other hother
    rw [← hrow]
    simpa using hfresh other hother
  have hlist := getByCondition_of_append hready hrows
    (decide_eq_true hrow) hothers hdecode
  exact congrArg theOnly hlist

end RoundTrips

omit [DecidableEq Column] in
/-- A reader by key that gives a record has found a row. -/
theorem exists_row_of_getById {store : Store Json schema referenced}
    {key : Column} {id : Param} (hfits : Fits codec (schema.sqlType key) id)
    {decode : Row Column Json → Option Record} {record : Record}
    (hread : getById codec store key id decode = some record) :
    ∃ row, store.table.rows.find? (fun row =>
        row key = stored codec (schema.sqlType key) id) = some row ∧
      decode row = some record := by
  rw [getById, store_eq_stored hfits, Option.bind_some] at hread
  split at hread
  · cases hread
  · exact Option.bind_eq_some_iff.mp hread

/-- A record type with an aligned `UPDATE` reads back what was updated. -/
theorem updateReads_getById {statement : UpdateStatement Column}
    {columns : List Column} {params : Record → List Param}
    {field : Record → Column → Param} {key : Record → String}
    {decode : Row Column Json → Option Record}
    {same : Record → Record → Record → Prop}
    (haligned : ∀ record, statement.Aligned columns (params record)
      (field record) (.text (key record)))
    (hcolumns : columns ⊆ schema.columns)
    (hfills : ∀ record, FillsNotNull schema columns (field record))
    (hkeyColumn : statement.key ∈ schema.columns)
    (hkeyType : schema.sqlType statement.key = .uuid)
    (hkey : ∀ record, field record statement.key = .text (key record))
    (hreads : ∀ old record row,
      Admissible codec schema referenced columns (field record) →
        (row statement.key).asString codec = some (key record) →
        decode row = some old →
          ∃ result, decode (namedRow codec schema columns (field record) row) =
            some result ∧ same old record result) :
    UpdateReads schema referenced
      (fun store record =>
        update codec store statement (params record) (key record))
      (fun store record =>
        getById codec store statement.key (.text (key record)) decode)
      (fun record =>
        Admissible codec schema referenced schema.columns (field record))
      same := by
  intro store old record hready hadmissible hold
  have hfits := hadmissible.fits statement.key hkeyColumn
  rw [hkey] at hfits
  have hnonempty : key record ≠ "" := by
    intro hempty
    rw [hkeyType, hempty] at hfits
    have hcanonical : isCanonicalUuid "" = true := hfits
    exact absurd hcanonical (by decide)
  have hassigned := hadmissible.mono hcolumns
  rcases store.table.execUpdate_of_aligned (haligned record) (hfills record)
    hassigned hfits with ⟨table, hexec, hrows⟩
  obtain ⟨row, hfind, hdecode⟩ := exists_row_of_getById hfits hold
  have hrowKey : row statement.key =
      stored codec (schema.sqlType statement.key) (.text (key record)) := by
    simpa using List.find?_some hfind
  have hrowText : (row statement.key).asString codec = some (key record) := by
    rw [hrowKey]
    exact asString_stored (by rw [hkeyType]; trivial) hfits
  rcases hreads old record row hassigned hrowText hdecode with
    ⟨result, hresult, hsame⟩
  have hchanged : 0 < (store.table.rows.filter fun row =>
      row statement.key =
        stored codec (schema.sqlType statement.key)
          (.text (key record))).length := by
    apply List.length_pos_of_mem
    exact List.mem_filter.mpr
      ⟨List.mem_of_find?_eq_some hfind, decide_eq_true hrowKey⟩
  refine ⟨{ store with table := table }, result, ?_, ?_, hsame⟩
  · simp [update, hready.1, hready.2, hnonempty, hexec, hchanged]
  · have hkeep : ∀ row : Row Column Json,
        namedRow codec schema columns (field record) row statement.key =
          row statement.key := by
      intro row
      rw [namedRow, if_neg (haligned record).keyNotAssigned]
    have hnext : Store.Ready { store with table := table } := hready
    have hmoved := getById_of_update hready hnext hfits hkeep hrows decode
    refine hmoved.trans ?_
    simp [getById, hready.1, hready.2, store_eq_stored hfits, hfind, hresult]

end Datafeed.Storage
