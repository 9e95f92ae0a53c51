import Datafeed.Core.SqlValue

/-!
# Tables and prepared statements

A table is described by the types and constraints of its columns; a row gives
each column a value.  An `INSERT` pairs its column list with the placeholders of
its `VALUES` list by position, and the parameters of an execution fill the
placeholders by number; an `UPDATE` names the column of each placeholder.  The
rules below reduce both to the parameters by column name, for statements whose
lists are aligned, and say when a statement is rejected whatever its parameters.
-/

namespace Datafeed.Sql

variable {Column Json : Type}

abbrev Row (Column Json : Type) := Column → Datum Json

/-- What a column left out of an `INSERT` receives. -/
inductive Default
  | null
  /-- The sequence of a `BIGSERIAL` column. -/
  | serial
  /-- `gen_random_uuid()`. -/
  | randomUuid
  deriving DecidableEq

/-- The values the server makes up while it runs a statement. -/
structure Supply where
  serial : ℤ
  uuid : String
  serial_inRange : inInt8Range serial = true
  uuid_canonical : isCanonicalUuid uuid = true

/-- A first row of a table. -/
def Supply.first : Supply where
  serial := 1
  uuid := "0a4c3f52-9b1d-4e7a-8c60-5d2e7f1b3a98"
  serial_inRange := by decide
  uuid_canonical := by decide

structure Schema (Column : Type) where
  columns : List Column
  sqlType : Column → SqlType
  default : Column → Default
  notNull : Column → Bool
  /-- The texts a `CHECK (column IN (..))` admits. -/
  allowed : Column → Option (List String)
  /-- Columns with a foreign key. -/
  references : Column → Bool
  /-- The primary key and the `UNIQUE` constraints. -/
  unique : List (List Column)

/-- An `INSERT` with its column list and the numbers of the placeholders in its
`VALUES` list. -/
structure InsertStatement (Column : Type) where
  columns : List Column
  placeholders : List ℕ

/-- An `UPDATE` of the rows whose key column equals a placeholder. -/
structure UpdateStatement (Column : Type) where
  assignments : List (Column × ℕ)
  key : Column
  keyPlaceholder : ℕ

inductive SqlError
  | moreExpressionsThanColumns
  | moreColumnsThanExpressions
  | parameterCount (expected supplied : ℕ)
  | invalidInput
  | constraintViolation
  | uniqueViolation
  deriving DecidableEq

/-- `$1, $2, ..` up to a number. -/
def placeholdersUpTo (count : ℕ) : List ℕ := List.range' 1 count

/-- The number of parameters a statement takes: its greatest placeholder. -/
def placeholderCount (placeholders : List ℕ) : ℕ := placeholders.foldl max 0

/-- The parameter that fills a placeholder. -/
def parameter (params : List Param) (placeholder : ℕ) : Param :=
  params.getD (placeholder - 1) .null

/-! ## Constraints -/

/-- The text is one of those a `CHECK` admits; `NULL` passes. -/
def checkPasses (allowed : Option (List String)) (datum : Datum Json) : Bool :=
  match allowed, datum with
  | some texts, .text value => texts.contains value
  | _, _ => true

/-- A value satisfies the `NOT NULL`, `CHECK` and foreign key constraints of its
column. -/
structure RespectsAt (schema : Schema Column)
    (referenced : Column → Datum Json → Bool) (column : Column)
    (datum : Datum Json) : Prop where
  notNull : schema.notNull column = true → datum.isNull = false
  check : checkPasses (schema.allowed column) datum = true
  references : schema.references column = true →
    datum.isNull = true ∨ referenced column datum = true

def Respects (schema : Schema Column) (referenced : Column → Datum Json → Bool)
    (row : Row Column Json) : Prop :=
  ∀ column ∈ schema.columns, RespectsAt schema referenced column (row column)

instance (schema : Schema Column) (referenced : Column → Datum Json → Bool)
    (row : Row Column Json) : Decidable (Respects schema referenced row) :=
  have (column : Column) :
      Decidable (RespectsAt schema referenced column (row column)) :=
    decidable_of_iff
      ((schema.notNull column = true → (row column).isNull = false) ∧
        checkPasses (schema.allowed column) (row column) = true ∧
        (schema.references column = true →
          (row column).isNull = true ∨ referenced column (row column) = true))
      ⟨fun h => ⟨h.1, h.2.1, h.2.2⟩, fun h => ⟨h.1, h.2, h.3⟩⟩
  inferInstanceAs (Decidable (∀ column ∈ schema.columns, _))

/-- No row of the table has the same values in the columns of a key. -/
def RespectsUnique (schema : Schema Column) (rows : List (Row Column Json))
    (row : Row Column Json) : Prop :=
  ∀ key ∈ schema.unique, ∀ other ∈ rows,
    ∃ column ∈ key, row column ≠ other column ∨ (row column).isNull = true

instance [DecidableEq Json] (schema : Schema Column)
    (rows : List (Row Column Json)) (row : Row Column Json) :
    Decidable (RespectsUnique schema rows row) :=
  inferInstanceAs (Decidable (∀ _ ∈ _, ∀ _ ∈ _, ∃ _ ∈ _, _))

/-- The rows of a table, each of which satisfies the column constraints. -/
structure Table (Json : Type) (schema : Schema Column)
    (referenced : Column → Datum Json → Bool) where
  rows : List (Row Column Json)
  valid : ∀ row ∈ rows, Respects schema referenced row

variable [DecidableEq Column] (codec : Codec Json) (schema : Schema Column)

/-- The parameter bound to a column, if it is listed. -/
def lookup (bindings : List (Column × Param)) (column : Column) :
    Option Param :=
  (bindings.find? fun binding => binding.1 = column).map Prod.snd

/-- The column-parameter pairs of an `INSERT`. -/
def InsertStatement.bindings (statement : InsertStatement Column)
    (params : List Param) : List (Column × Param) :=
  statement.columns.zip (statement.placeholders.map (parameter params))

/-- The column-parameter pairs of an `UPDATE`. -/
def UpdateStatement.bindings (statement : UpdateStatement Column)
    (params : List Param) : List (Column × Param) :=
  statement.assignments.map fun assignment =>
    (assignment.1, parameter params assignment.2)

def defaultDatum (supply : Supply) (column : Column) : Datum Json :=
  match schema.default column with
  | .null => .null
  | .serial => .integer supply.serial
  | .randomUuid => .text supply.uuid

/-- The bound values over the values a row has without them. -/
def boundRow (bindings : List (Column × Param)) (row : Row Column Json) :
    Row Column Json := fun column =>
  match lookup bindings column with
  | some param => stored codec (schema.sqlType column) param
  | none => row column

/-- Every binding is accepted by the type of its column. -/
def Accepted (bindings : List (Column × Param)) : Prop :=
  ∀ binding ∈ bindings,
    (store codec (schema.sqlType binding.1) binding.2).isSome

instance (bindings : List (Column × Param)) :
    Decidable (Accepted codec schema bindings) :=
  inferInstanceAs (Decidable (∀ _ ∈ _, _))

/-! ## Executing a statement -/

variable {schema} {referenced : Column → Datum Json → Bool}

/-- Runs an `INSERT`: the new row and the table with it, or the error. -/
def Table.execInsert [DecidableEq Json] (table : Table Json schema referenced)
    (supply : Supply) (statement : InsertStatement Column)
    (params : List Param) :
    Except SqlError (Row Column Json × Table Json schema referenced) :=
  let bindings := statement.bindings params
  let row := boundRow codec schema bindings (defaultDatum schema supply)
  if statement.columns.length < statement.placeholders.length then
    .error .moreExpressionsThanColumns
  else if statement.placeholders.length < statement.columns.length then
    .error .moreColumnsThanExpressions
  else if placeholderCount statement.placeholders ≠ params.length then
    .error (.parameterCount (placeholderCount statement.placeholders)
      params.length)
  else if ¬ Accepted codec schema bindings then .error .invalidInput
  else if hrespects : Respects schema referenced row then
    if ¬ RespectsUnique schema table.rows row then .error .uniqueViolation
    else
      .ok (row,
        { rows := table.rows ++ [row]
          valid := by
            intro other hother
            rcases List.mem_append.mp hother with hmem | hnew
            · exact table.valid other hmem
            · rw [List.mem_singleton.mp hnew]
              exact hrespects })
  else .error .constraintViolation

/-- Runs an `UPDATE`: the table with its rows changed and the number of rows it
changed.  The columns of a key are not assigned to. -/
def Table.execUpdate [DecidableEq Json] (table : Table Json schema referenced)
    (statement : UpdateStatement Column) (params : List Param) :
    Except SqlError (Table Json schema referenced × ℕ) :=
  let bindings := statement.bindings params
  let count := placeholderCount
    (statement.assignments.map Prod.snd ++ [statement.keyPlaceholder])
  let keyType := schema.sqlType statement.key
  let key := parameter params statement.keyPlaceholder
  let change (row : Row Column Json) : Row Column Json :=
    if row statement.key = stored codec keyType key then
      boundRow codec schema bindings row
    else row
  if count ≠ params.length then .error (.parameterCount count params.length)
  else if (store codec keyType key).isNone ∨
      ¬ Accepted codec schema bindings then .error .invalidInput
  else if hrespects : ∀ row ∈ table.rows.map change,
      Respects schema referenced row then
    .ok ({ rows := table.rows.map change, valid := hrespects },
      (table.rows.filter fun row =>
        row statement.key = stored codec keyType key).length)
  else .error .constraintViolation

/-! ## Aligned statements -/

/-- One placeholder and one parameter for each listed column, the parameter
being the field of the column's name. -/
structure InsertStatement.Aligned (statement : InsertStatement Column)
    (params : List Param) (field : Column → Param) : Prop where
  placeholders : statement.placeholders =
    placeholdersUpTo statement.columns.length
  params : params = statement.columns.map field

/-- The listed columns are assigned the fields of their names, and the last
parameter is the key. -/
structure UpdateStatement.Aligned (statement : UpdateStatement Column)
    (columns : List Column) (params : List Param) (field : Column → Param)
    (key : Param) : Prop where
  assignments : statement.assignments =
    columns.zip (placeholdersUpTo columns.length)
  keyPlaceholder : statement.keyPlaceholder = columns.length + 1
  keyNotAssigned : statement.key ∉ columns
  params : params = columns.map field ++ [key]

/-- The row that gives each listed column the field of its own name. -/
def namedRow (schema : Schema Column) (columns : List Column)
    (field : Column → Param) (row : Row Column Json) : Row Column Json :=
  fun column =>
    if column ∈ columns then stored codec (schema.sqlType column) (field column)
    else row column

/-- The fields of a record can be stored in the columns of their names: they
fit the column types, pass the checks and refer to rows that exist. -/
structure Admissible (schema : Schema Column)
    (referenced : Column → Datum Json → Bool) (columns : List Column)
    (field : Column → Param) : Prop where
  fits : ∀ column ∈ columns, Fits codec (schema.sqlType column) (field column)
  checks : ∀ column ∈ columns, checkPasses (schema.allowed column)
    (stored codec (schema.sqlType column) (field column)) = true
  references : ∀ column ∈ columns, schema.references column = true →
    field column = .null ∨ referenced column
      (stored codec (schema.sqlType column) (field column)) = true

instance (referenced : Column → Datum Json → Bool) (columns : List Column)
    (field : Column → Param) :
    Decidable (Admissible codec schema referenced columns field) :=
  decidable_of_iff
    ((∀ column ∈ columns,
      Fits codec (schema.sqlType column) (field column)) ∧
      (∀ column ∈ columns, checkPasses (schema.allowed column)
        (stored codec (schema.sqlType column) (field column)) = true) ∧
      ∀ column ∈ columns, schema.references column = true →
        field column = .null ∨ referenced column
          (stored codec (schema.sqlType column) (field column)) = true)
    ⟨fun h => ⟨h.1, h.2.1, h.2.2⟩, fun h => ⟨h.1, h.2, h.3⟩⟩

/-- Mandatory columns among the listed ones are bound to fields that are always
present. -/
def FillsNotNull (schema : Schema Column) (columns : List Column)
    (field : Column → Param) : Prop :=
  ∀ column ∈ columns, schema.notNull column = true → field column ≠ .null

/-- The columns left out have a default and no constraint but `NOT NULL`. -/
def OmitsGenerated (schema : Schema Column) (columns : List Column) : Prop :=
  ∀ column ∈ schema.columns, column ∉ columns →
    schema.default column ≠ .null ∧ schema.allowed column = none ∧
      schema.references column = false

instance (columns : List Column) : Decidable (OmitsGenerated schema columns) :=
  inferInstanceAs (Decidable (∀ _ ∈ _, _))

variable {codec}

section Lists

omit [DecidableEq Column]

theorem foldl_max_range' (start count accumulator : ℕ) :
    (List.range' start count).foldl max accumulator =
      if count = 0 then accumulator else max accumulator (start + count - 1) := by
  induction count generalizing start accumulator with
  | zero => rfl
  | succ count ih =>
      rw [List.range'_succ, List.foldl_cons, ih]
      by_cases hcount : count = 0
      · simp [hcount]
      · rw [if_neg hcount, if_neg (Nat.succ_ne_zero count)]
        omega

theorem placeholderCount_upTo (count : ℕ) :
    placeholderCount (placeholdersUpTo count) = count := by
  rw [placeholderCount, placeholdersUpTo, foldl_max_range']
  split
  · next hzero => exact hzero.symm
  · omega

theorem map_parameter_upTo (params rest : List Param) :
    (placeholdersUpTo params.length).map (parameter (params ++ rest)) =
      params := by
  apply List.ext_getElem
  · simp [placeholdersUpTo]
  · intro index hleft hright
    simp [placeholdersUpTo, parameter, List.getElem?_append_left hright,
      List.getElem?_eq_getElem hright]

theorem mem_zip_map {columns : List Column} {field : Column → Param}
    {binding : Column × Param}
    (hbinding : binding ∈ columns.zip (columns.map field)) :
    binding.1 ∈ columns ∧ binding.2 = field binding.1 := by
  induction columns with
  | nil => cases hbinding
  | cons head columns ih =>
      rcases List.mem_cons.mp hbinding with hhead | htail
      · rw [hhead]
        exact ⟨List.mem_cons_self, rfl⟩
      · have hmem := ih htail
        exact ⟨List.mem_cons_of_mem head hmem.1, hmem.2⟩

theorem pair_mem_zip_map {columns : List Column} (field : Column → Param)
    {column : Column} (hlisted : column ∈ columns) :
    (column, field column) ∈ columns.zip (columns.map field) := by
  induction columns with
  | nil => cases hlisted
  | cons head columns ih =>
      rcases List.mem_cons.mp hlisted with rfl | htail
      · exact List.mem_cons_self
      · exact List.mem_cons_of_mem _ (ih htail)

theorem accepted_of_fits {columns : List Column} {field : Column → Param}
    (hfits : ∀ column ∈ columns,
      Fits codec (schema.sqlType column) (field column)) :
    Accepted codec schema (columns.zip (columns.map field)) := by
  intro binding hbinding
  have hmem := mem_zip_map hbinding
  rw [hmem.2, store_eq_stored (hfits binding.1 hmem.1)]
  rfl

theorem InsertStatement.Aligned.bindings_eq
    {statement : InsertStatement Column} {params : List Param}
    {field : Column → Param} (haligned : statement.Aligned params field) :
    statement.bindings params =
      statement.columns.zip (statement.columns.map field) := by
  have hlength : params.length = statement.columns.length := by
    rw [haligned.params, List.length_map]
  have hparams := map_parameter_upTo params []
  rw [List.append_nil] at hparams
  rw [InsertStatement.bindings, haligned.placeholders, ← hlength, hparams,
    haligned.params]

theorem UpdateStatement.Aligned.bindings_eq
    {statement : UpdateStatement Column} {columns : List Column}
    {params : List Param} {field : Column → Param} {key : Param}
    (haligned : statement.Aligned columns params field key) :
    statement.bindings params = columns.zip (columns.map field) := by
  have hparams := map_parameter_upTo (columns.map field) [key]
  rw [List.length_map] at hparams
  calc statement.bindings params
      = (columns.zip (placeholdersUpTo columns.length)).map
          (Prod.map id (parameter params)) := by
        rw [UpdateStatement.bindings, haligned.assignments]
        rfl
    _ = columns.zip ((placeholdersUpTo columns.length).map
          (parameter params)) := by rw [List.zip_map_right]
    _ = columns.zip (columns.map field) := by rw [haligned.params, hparams]

theorem UpdateStatement.Aligned.parameter_key
    {statement : UpdateStatement Column} {columns : List Column}
    {params : List Param} {field : Column → Param} {key : Param}
    (haligned : statement.Aligned columns params field key) :
    parameter params statement.keyPlaceholder = key := by
  rw [haligned.params, haligned.keyPlaceholder]
  simp [parameter]

theorem UpdateStatement.Aligned.placeholderCount_eq
    {statement : UpdateStatement Column} {columns : List Column}
    {params : List Param} {field : Column → Param} {key : Param}
    (haligned : statement.Aligned columns params field key) :
    placeholderCount (statement.assignments.map Prod.snd ++
      [statement.keyPlaceholder]) = params.length := by
  have hplaceholders :
      statement.assignments.map Prod.snd ++ [statement.keyPlaceholder] =
        placeholdersUpTo (columns.length + 1) := by
    rw [haligned.assignments, haligned.keyPlaceholder,
      List.map_snd_zip (by simp [placeholdersUpTo])]
    simp [placeholdersUpTo, List.range'_concat, Nat.add_comm]
  rw [hplaceholders, placeholderCount_upTo, haligned.params]
  simp

/-- The value of a listed column is one its type accepts. -/
theorem store_eq_of_accepted {columns : List Column} {field : Column → Param}
    (haccepted : Accepted codec schema (columns.zip (columns.map field)))
    {column : Column} (hlisted : column ∈ columns) :
    store codec (schema.sqlType column) (field column) =
      some (stored codec (schema.sqlType column) (field column)) := by
  obtain ⟨datum, hdatum⟩ := Option.isSome_iff_exists.mp
    (haccepted _ (pair_mem_zip_map field hlisted))
  rw [stored, hdatum]
  rfl

end Lists

theorem lookup_zip_map (columns : List Column) (field : Column → Param)
    (column : Column) :
    lookup (columns.zip (columns.map field)) column =
      if column ∈ columns then some (field column) else none := by
  induction columns with
  | nil => rfl
  | cons head columns ih =>
      by_cases hsame : head = column
      · simp [lookup, hsame]
      · have htail : column ∈ head :: columns ↔ column ∈ columns := by
          simp [Ne.symm hsame]
        simp only [htail, ← ih]
        simp [lookup, hsame]

theorem boundRow_zip_map (columns : List Column) (field : Column → Param)
    (row : Row Column Json) :
    boundRow codec schema (columns.zip (columns.map field)) row =
      namedRow codec schema columns field row := by
  funext column
  rw [boundRow, lookup_zip_map, namedRow]
  by_cases hlisted : column ∈ columns
  · simp [hlisted]
  · simp [hlisted]

omit [DecidableEq Column] in
theorem Admissible.mono {columns listed : List Column}
    {field : Column → Param}
    (hadmissible : Admissible codec schema referenced columns field)
    (hlisted : listed ⊆ columns) :
    Admissible codec schema referenced listed field where
  fits column hcolumn := hadmissible.fits column (hlisted hcolumn)
  checks column hcolumn := hadmissible.checks column (hlisted hcolumn)
  references column hcolumn := hadmissible.references column (hlisted hcolumn)

omit [DecidableEq Column] in
theorem Admissible.respectsAt {columns : List Column}
    {field : Column → Param}
    (hadmissible : Admissible codec schema referenced columns field)
    (hfills : FillsNotNull schema columns field) {column : Column}
    (hlisted : column ∈ columns) :
    RespectsAt schema referenced column
      (stored codec (schema.sqlType column) (field column)) where
  notNull hnotNull := by
    have hne := stored_ne_null (hadmissible.fits column hlisted)
      (hfills column hlisted hnotNull)
    cases hdatum : stored codec (schema.sqlType column) (field column) with
    | null => exact absurd hdatum hne
    | _ => rfl
  check := hadmissible.checks column hlisted
  references hreferences := by
    rcases hadmissible.references column hlisted hreferences with hnull | href
    · apply Or.inl
      rw [hnull, stored_null]
      rfl
    · exact Or.inr href

/-- A row keeps the constraints when admissible fields are put into it. -/
theorem Admissible.respects_namedRow {columns : List Column}
    {field : Column → Param} {row : Row Column Json}
    (hadmissible : Admissible codec schema referenced columns field)
    (hfills : FillsNotNull schema columns field)
    (hrow : ∀ column ∈ schema.columns, column ∉ columns →
      RespectsAt schema referenced column (row column)) :
    Respects schema referenced (namedRow codec schema columns field row) := by
  intro column hcolumn
  rw [namedRow]
  split
  · next hlisted => exact hadmissible.respectsAt hfills hlisted
  · next hlisted => exact hrow column hcolumn hlisted

omit [DecidableEq Column] in
theorem OmitsGenerated.respectsAt {columns : List Column}
    (homits : OmitsGenerated schema columns) (supply : Supply)
    {column : Column} (hcolumn : column ∈ schema.columns)
    (homitted : column ∉ columns) :
    RespectsAt schema referenced column
      (defaultDatum schema supply column) := by
  obtain ⟨hdefault, hallowed, hreferences⟩ := homits column hcolumn homitted
  have hpresent : (defaultDatum schema supply column : Datum Json).isNull =
      false := by
    cases hcase : schema.default column with
    | null => exact absurd hcase hdefault
    | serial => simp [defaultDatum, hcase, Datum.isNull]
    | randomUuid => simp [defaultDatum, hcase, Datum.isNull]
  constructor
  · exact fun _ => hpresent
  · rw [hallowed]
    rfl
  · intro htrue
    rw [hreferences] at htrue
    cases htrue

variable [DecidableEq Json]

/-- An aligned `INSERT` of an admissible record adds the row that gives each
listed column the field of its name. -/
theorem Table.execInsert_of_aligned (table : Table Json schema referenced)
    {supply : Supply} {statement : InsertStatement Column}
    {params : List Param} {field : Column → Param}
    (haligned : statement.Aligned params field)
    (homits : OmitsGenerated schema statement.columns)
    (hfills : FillsNotNull schema statement.columns field)
    (hadmissible :
      Admissible codec schema referenced statement.columns field)
    (hunique : RespectsUnique schema table.rows
      (namedRow codec schema statement.columns field
        (defaultDatum schema supply))) :
    ∃ next, table.execInsert codec supply statement params =
        .ok (namedRow codec schema statement.columns field
          (defaultDatum schema supply), next) ∧
      next.rows = table.rows ++ [namedRow codec schema statement.columns field
        (defaultDatum schema supply)] := by
  have hplaceholders : statement.placeholders.length =
      statement.columns.length := by
    rw [haligned.placeholders]
    simp [placeholdersUpTo]
  have hcount : placeholderCount statement.placeholders = params.length := by
    rw [haligned.placeholders, placeholderCount_upTo, haligned.params,
      List.length_map]
  have haccepted := accepted_of_fits hadmissible.fits
  have hrespects : Respects schema referenced
      (namedRow codec schema statement.columns field
        (defaultDatum schema supply)) :=
    hadmissible.respects_namedRow hfills
      fun column hcolumn homitted => homits.respectsAt supply hcolumn homitted
  simp [Table.execInsert, haligned.bindings_eq, boundRow_zip_map,
    hplaceholders, hcount, haccepted, hrespects, hunique]

/-- An aligned `UPDATE` by an admissible record puts the fields into the rows
with its key. -/
theorem Table.execUpdate_of_aligned (table : Table Json schema referenced)
    {statement : UpdateStatement Column} {columns : List Column}
    {params : List Param} {field : Column → Param} {key : Param}
    (haligned : statement.Aligned columns params field key)
    (hfills : FillsNotNull schema columns field)
    (hadmissible : Admissible codec schema referenced columns field)
    (hkey : Fits codec (schema.sqlType statement.key) key) :
    ∃ next, table.execUpdate codec statement params =
        .ok (next, (table.rows.filter fun row => row statement.key =
          stored codec (schema.sqlType statement.key) key).length) ∧
      next.rows = table.rows.map fun row =>
        if row statement.key =
            stored codec (schema.sqlType statement.key) key then
          namedRow codec schema columns field row
        else row := by
  have haccepted := accepted_of_fits hadmissible.fits
  have hstore := store_eq_stored hkey
  have hrespects : ∀ row ∈ table.rows, Respects schema referenced
      (if row statement.key =
          stored codec (schema.sqlType statement.key) key then
        namedRow codec schema columns field row
      else row) := by
    intro row hrow
    split
    · exact hadmissible.respects_namedRow hfills
        fun column hcolumn _ => table.valid row hrow column hcolumn
    · exact table.valid row hrow
  simp [Table.execUpdate, haligned.bindings_eq, boundRow_zip_map,
    haligned.placeholderCount_eq, haligned.parameter_key, hstore, haccepted]
  rw [dif_pos hrespects]
  exact ⟨_, rfl, rfl⟩

/-- What an aligned `UPDATE` that is not rejected has done. -/
theorem Table.of_execUpdate_ok {table next : Table Json schema referenced}
    {statement : UpdateStatement Column} {columns : List Column}
    {params : List Param} {field : Column → Param} {key : Param} {changed : ℕ}
    (haligned : statement.Aligned columns params field key)
    (hexec : table.execUpdate codec statement params = .ok (next, changed)) :
    store codec (schema.sqlType statement.key) key =
        some (stored codec (schema.sqlType statement.key) key) ∧
      Accepted codec schema (columns.zip (columns.map field)) ∧
      (next.rows = table.rows.map fun row =>
        if row statement.key =
            stored codec (schema.sqlType statement.key) key then
          namedRow codec schema columns field row
        else row) ∧
      changed = (table.rows.filter fun row => row statement.key =
        stored codec (schema.sqlType statement.key) key).length := by
  simp only [Table.execUpdate, haligned.bindings_eq, boundRow_zip_map,
    haligned.parameter_key] at hexec
  split_ifs at hexec with hcount hinvalid hrespects
  obtain ⟨hkey, haccepted⟩ := not_or.mp hinvalid
  simp only [Except.ok.injEq, Prod.mk.injEq] at hexec
  obtain ⟨rfl, rfl⟩ := hexec
  refine ⟨?_, not_not.mp haccepted, rfl, rfl⟩
  cases hstore : store codec (schema.sqlType statement.key) key with
  | none =>
      rw [hstore] at hkey
      exact absurd rfl hkey
  | some datum =>
      rw [stored, hstore]
      rfl

/-- What an `INSERT` that is not rejected has done. -/
theorem Table.of_execInsert_ok {table next : Table Json schema referenced}
    {supply : Supply} {statement : InsertStatement Column}
    {params : List Param} {row : Row Column Json}
    (hexec : table.execInsert codec supply statement params =
      .ok (row, next)) :
    row = boundRow codec schema (statement.bindings params)
        (defaultDatum schema supply) ∧
      Respects schema referenced row ∧ next.rows = table.rows ++ [row] := by
  simp only [Table.execInsert] at hexec
  split_ifs at hexec with hmore hless hcount haccepted hrespects hunique
  simp only [Except.ok.injEq, Prod.mk.injEq] at hexec
  obtain ⟨rfl, rfl⟩ := hexec
  exact ⟨rfl, hrespects, rfl⟩

/-- What the server has checked of a row before it is in the table. -/
theorem Table.checks_of_execInsert_ok {table next : Table Json schema referenced}
    {supply : Supply} {statement : InsertStatement Column}
    {params : List Param} {row : Row Column Json}
    (hexec : table.execInsert codec supply statement params =
      .ok (row, next)) :
    Accepted codec schema (statement.bindings params) ∧
      RespectsUnique schema table.rows row := by
  simp only [Table.execInsert] at hexec
  split_ifs at hexec with hmore hless hcount haccepted hrespects hunique
  simp only [Except.ok.injEq, Prod.mk.injEq] at hexec
  obtain ⟨rfl, -⟩ := hexec
  exact ⟨haccepted, hunique⟩

/-- Each listed column of a new row has the stored value of the field of its
name. -/
theorem Table.store_of_execInsert_ok {table next : Table Json schema referenced}
    {supply : Supply} {statement : InsertStatement Column}
    {params : List Param} {field : Column → Param}
    (haligned : statement.Aligned params field) {row : Row Column Json}
    (hexec : table.execInsert codec supply statement params =
      .ok (row, next)) {column : Column}
    (hlisted : column ∈ statement.columns) :
    store codec (schema.sqlType column) (field column) =
      some (row column) := by
  obtain ⟨hrow, -, -⟩ := Table.of_execInsert_ok hexec
  obtain ⟨haccepted, -⟩ := Table.checks_of_execInsert_ok hexec
  rw [haligned.bindings_eq] at hrow haccepted
  have hvalue : row column =
      stored codec (schema.sqlType column) (field column) := by
    rw [hrow, boundRow_zip_map, namedRow, if_pos hlisted]
  rw [hvalue]
  exact store_eq_of_accepted haccepted hlisted

/-- A column that is not listed has its default. -/
theorem Table.default_of_execInsert_ok
    {table next : Table Json schema referenced} {supply : Supply}
    {statement : InsertStatement Column} {params : List Param}
    {row : Row Column Json}
    (hexec : table.execInsert codec supply statement params =
      .ok (row, next)) {column : Column}
    (homitted : column ∉ statement.columns) :
    row column = defaultDatum schema supply column := by
  obtain ⟨hrow, -, -⟩ := Table.of_execInsert_ok hexec
  have hunbound : lookup (statement.bindings params) column = none := by
    rw [lookup, List.find?_eq_none.mpr]
    · rfl
    · intro binding hbinding
      have hlisted : binding.1 ∈ statement.columns :=
        (List.of_mem_zip hbinding).1
      simp only [decide_eq_true_eq]
      rintro rfl
      exact homitted hlisted
  rw [hrow, boundRow, hunbound]

/-! ## Statements that are always rejected -/

theorem Table.execInsert_of_more_expressions
    (table : Table Json schema referenced) (supply : Supply)
    {statement : InsertStatement Column}
    (hlonger : statement.columns.length < statement.placeholders.length)
    (params : List Param) :
    table.execInsert codec supply statement params =
      .error .moreExpressionsThanColumns := by
  rw [Table.execInsert, if_pos hlonger]

theorem Table.execInsert_of_parameterCount
    (table : Table Json schema referenced) (supply : Supply)
    {statement : InsertStatement Column}
    (hlength : statement.placeholders.length = statement.columns.length)
    {params : List Param}
    (hcount : placeholderCount statement.placeholders ≠ params.length) :
    table.execInsert codec supply statement params =
      .error (.parameterCount (placeholderCount statement.placeholders)
        params.length) := by
  rw [Table.execInsert, if_neg (by omega), if_neg (by omega), if_pos hcount]

end Datafeed.Sql
