import Datafeed.Storage.Selecting
import Mathlib.Data.List.Forall2

/-!
# Reading a history

A table of snapshots over time is read row by row, and a service shows some of
the columns.  What of a row is shown as it was stored is said once, for every
table with the laws of a `History`.
-/

namespace Datafeed.Storage

open Ranking Select Sql

/-! ## One column -/

section

variable {Json Value Result : Type} {codec : Codec Json} {sqlType : SqlType}

/-- How a reader gets a field from a column, as a parameter; with or without a
check for `NULL`. -/
inductive ReadsAs (codec : Codec Json) :
    SqlType → Bool → Datum Json → Param → Prop
  | text {sqlType : SqlType} {datum : Datum Json} {value : String}
      (hplain : IsPlainText sqlType)
      (hread : datum.asString codec = some value) :
      ReadsAs codec sqlType true datum (.text value)
  | integer {sqlType : SqlType} {datum : Datum Json} {value : ℤ}
      (hinteger : sqlType.IsInteger) (hread : datum.asInt64 = some value) :
      ReadsAs codec sqlType true datum (.integer value)
  | bool {datum : Datum Json} {value : Bool}
      (hread : datum.asBool = some value) :
      ReadsAs codec .boolean true datum (appendBool value)
  | timestamp {datum : Datum Json} {value : ℕ}
      (hread : datum.asTimestamp = some value) :
      ReadsAs codec .timestamptz true datum (.timestamp value)
  | optInteger {sqlType : SqlType} {datum : Datum Json} {value : Option ℤ}
      (hinteger : sqlType.IsInteger)
      (hread : datum.optional Datum.asInt64 = some value) :
      ReadsAs codec sqlType false datum (appendOpt .integer value)
  | optDouble {datum : Datum Json} {value : Option ℚ}
      (hread : datum.optional Datum.asDouble = some value) :
      ReadsAs codec .float8 false datum (appendOpt .double value)

theorem eq_null_of_isNull {datum : Datum Json} (hnull : datum.isNull = true) :
    datum = .null := by
  cases datum with
  | null => rfl
  | _ => cases hnull

theorem isNull_of_read {read : Datum Json → Option Value}
    (hnull : read .null = none) {datum : Datum Json} {value : Value}
    (hread : read datum = some value) : datum.isNull = false := by
  by_contra hdatum
  rw [Bool.not_eq_false] at hdatum
  rw [eq_null_of_isNull hdatum, hnull] at hread
  cases hread

theorem ReadsAs.isNull {required : Bool} {datum : Datum Json} {param : Param}
    (hreads : ReadsAs codec sqlType required datum param)
    (hrequired : required = true) : datum.isNull = false := by
  cases hreads with
  | text hplain hread => exact isNull_of_read rfl hread
  | integer hinteger hread => exact isNull_of_read rfl hread
  | bool hread => exact isNull_of_read rfl hread
  | timestamp hread => exact isNull_of_read rfl hread
  | optInteger | optDouble => cases hrequired

/-- What was read is stored as the value of the column. -/
theorem ReadsAs.stored_eq {required : Bool} {datum : Datum Json}
    {param : Param} (hreads : ReadsAs codec sqlType required datum param)
    (hstored : IsStored codec sqlType datum) :
    stored codec sqlType param = datum := by
  cases hreads with
  | text hplain hread => exact sendsBack_text hplain _ _ hstored hread
  | integer hinteger hread => exact sendsBack_integer hinteger _ _ hstored hread
  | bool hread => exact sendsBack_bool _ _ hstored hread
  | timestamp hread =>
      cases datum with
      | timestamp ms =>
          rw [← Option.some.inj hread]
          rfl
      | _ => cases hread
  | optInteger hinteger hread =>
      exact (sendsBack_integer hinteger).optional rfl _ _ hstored hread
  | optDouble hread => exact sendsBack_double.optional rfl _ _ hstored hread

theorem exists_of_bind {first : Option Value} {rest : Value → Option Result}
    {result : Result}
    (hbind : (do let value ← first; rest value) = some result) :
    ∃ value, first = some value ∧ rest value = some result :=
  Option.bind_eq_some_iff.mp hbind

end

/-! ## Histories -/

variable {Column Json Record : Type} {codec : Codec Json}

/-- Every value of a row is one that its column can have. -/
def TypedRow (codec : Codec Json) (schema : Schema Column)
    (row : Row Column Json) : Prop :=
  ∀ column, IsStored codec (schema.sqlType column) (row column)

/-- The columns that a reader does without a check for `NULL` are there. -/
def Present (required : Column → Bool) (row : Row Column Json) : Prop :=
  ∀ column, required column = true → (row column).isNull = false

/-- A table of snapshots over time, its reader, and what is shown of a
record. -/
structure History (codec : Codec Json) (schema : Schema Column)
    (Record : Type) where
  names : Names Column
  time : Column
  decode : Row Column Json → Option Record
  /-- The field named like a column, as a parameter. -/
  field : Record → Column → Param
  timeOf : Record → ℕ
  /-- The columns that are read without a check for `NULL`. -/
  required : Column → Bool
  isRead : Column → Bool
  /-- The columns that are shown, with the keys of their values. -/
  shown : List (String × Column)
  sqlType_eq_iff : ∀ column,
    schema.sqlType column = .timestamptz ↔ column = time
  isRead_time : isRead time = true
  mem_shown : time ∈ shown.map Prod.snd
  field_time : ∀ record, field record time = .timestamp (timeOf record)
  isRead_of_required : ∀ column, required column = true →
    isRead column = true
  exists_decode : ∀ row, TypedRow codec schema row →
    Present required row → ∃ record, decode row = some record
  readsAs : ∀ row record, decode row = some record → ∀ column,
    isRead column = true → ReadsAs codec (schema.sqlType column)
      (required column) (row column) (field record column)
  unread : ∀ row record, decode row = some record → ∀ column,
    isRead column = false → field record column = .null

/-! ## What survives the reader -/

theorem sqlType_of_timestamp {sqlType : SqlType} {ms : ℕ}
    (hstored : IsStored codec sqlType (.timestamp ms)) :
    sqlType = .timestamptz := by
  obtain ⟨param, hparam⟩ := hstored
  cases sqlType <;> cases param <;>
    grind [Sql.store, Option.map_eq_some_iff]

section

variable {schema : Schema Column} {readTime : Datum Json → Option ℕ}
  {row : Row Column Json}

theorem throughText_of_ne (htyped : TypedRow codec schema row)
    {column : Column} (hne : schema.sqlType column ≠ .timestamptz) :
    throughText readTime row column = row column := by
  rw [throughText]
  split
  · next ms hrow =>
      have hstored := htyped column
      rw [hrow] at hstored
      exact absurd (sqlType_of_timestamp hstored) hne
  · rfl

theorem typedRow_throughText (htyped : TypedRow codec schema row) :
    TypedRow codec schema (throughText readTime row) := by
  intro column
  by_cases htype : schema.sqlType column = .timestamptz
  · rw [throughText, htype]
    split
    · rw [timestampBack]
      split
      · next ms _ => exact ⟨.timestamp ms, rfl⟩
      · exact ⟨.null, rfl⟩
    · rw [← htype]
      exact htyped column
  · rw [throughText_of_ne htyped htype]
    exact htyped column

theorem isNull_of_throughText {column : Column}
    (hpresent : (throughText readTime row column).isNull = false) :
    (row column).isNull = false := by
  rw [throughText] at hpresent
  cases hrow : row column with
  | null =>
      rw [hrow] at hpresent
      cases hpresent
  | _ => rfl

end

namespace History

variable {schema : Schema Column} (history : History codec schema Record)
  (readTime : Datum Json → Option ℕ)

/-- The reader, with the timestamps read from their text. -/
def decodeThrough (row : Row Column Json) : Option Record :=
  history.decode (throughText readTime row)

/-- The shown values of a record are those of the row. -/
def Shows (row : Row Column Json) (record : Record) : Prop :=
  ∀ entry ∈ history.shown,
    stored codec (schema.sqlType entry.2) (history.field record entry.2) =
      row entry.2

/-- The time of a row, as a number. -/
def timeAt (row : Row Column Json) : ℕ := rank (row history.time)

/-- The time that is read of a row. -/
def seen (row : Row Column Json) : ℕ :=
  (readTime (row history.time)).getD 0

/-- The shown columns that are not read have no value. -/
def HidesNothing (row : Row Column Json) : Prop :=
  ∀ entry ∈ history.shown, history.isRead entry.2 = false →
    (row entry.2).isNull = true

/-- A row that is shown as it was stored. -/
structure Survives (row : Row Column Json) : Prop where
  present : Present history.required row
  time_eq : readTime (row history.time) = some (history.timeAt row)
  hidesNothing : history.HidesNothing row

variable {history readTime} {row : Row Column Json} {record : Record}

theorem sqlType_time : schema.sqlType history.time = .timestamptz :=
  (history.sqlType_eq_iff history.time).mpr rfl

theorem throughText_time (htyped : TypedRow codec schema row)
    (hdecode : history.decodeThrough readTime row = some record) :
    throughText readTime row history.time =
      .timestamp (history.timeOf record) := by
  have hreads := history.readsAs _ record hdecode history.time
    history.isRead_time
  have hstored := hreads.stored_eq (typedRow_throughText htyped _)
  rw [sqlType_time, history.field_time] at hstored
  exact hstored.symm

/-- The time of a record is the one that was read. -/
theorem readTime_of_decode (htyped : TypedRow codec schema row)
    (hdecode : history.decodeThrough readTime row = some record) :
    readTime (row history.time) = some (history.timeOf record) := by
  have htime := throughText_time htyped hdecode
  rw [throughText] at htime
  cases hrow : row history.time with
  | timestamp ms =>
      rw [hrow] at htime
      change timestampBack readTime (.timestamp ms) = _ at htime
      rw [timestampBack] at htime
      split at htime
      · next value hvalue =>
          rw [Datum.timestamp.injEq] at htime
          rw [hvalue, htime]
      · cases htime
  | _ =>
      rw [hrow] at htime
      cases htime

theorem present_of_decode
    (hdecode : history.decodeThrough readTime row = some record) :
    Present history.required row := fun column hrequired =>
  isNull_of_throughText ((history.readsAs _ record hdecode column
    (history.isRead_of_required column hrequired)).isNull hrequired)

/-- A shown record has the time of its row. -/
theorem timeAt_of_shows (hshows : history.Shows row record) :
    history.timeAt row = history.timeOf record := by
  obtain ⟨entry, hentry, htime⟩ := List.mem_map.mp history.mem_shown
  have hstored := hshows entry hentry
  rw [htime, history.field_time, sqlType_time] at hstored
  rw [timeAt, ← hstored]
  rfl

/-- What a reader leaves out is shown as absent, whatever row it is shown for. -/
theorem hidesNothing_of_shows {other : Row Column Json}
    (hdecode : history.decodeThrough readTime other = some record)
    (hshows : history.Shows row record) : history.HidesNothing row := by
  intro entry hentry hunread
  have hstored := hshows entry hentry
  rw [history.unread _ record hdecode _ hunread, stored_null] at hstored
  rw [← hstored]
  rfl

theorem seen_of_decode (htyped : TypedRow codec schema row)
    (hdecode : history.decodeThrough readTime row = some record) :
    history.seen readTime row = history.timeOf record := by
  rw [seen, readTime_of_decode htyped hdecode]
  rfl

/-- A row that is read with its own time, and hides nothing, survives. -/
theorem survives_of_decode (htyped : TypedRow codec schema row)
    (hdecode : history.decodeThrough readTime row = some record)
    (hhides : history.HidesNothing row)
    (hseen : history.seen readTime row = history.timeAt row) :
    history.Survives readTime row where
  present := present_of_decode hdecode
  time_eq := by
    rw [readTime_of_decode htyped hdecode, ← hseen,
      seen_of_decode htyped hdecode]
  hidesNothing := hhides

theorem time_eq_of_present (htyped : TypedRow codec schema row)
    (hpresent : (row history.time).isNull = false) :
    row history.time = .timestamp (history.timeAt row) := by
  have hstored := htyped history.time
  rw [sqlType_time] at hstored
  obtain ⟨ms, hms⟩ := exists_timestamp hstored hpresent
  rw [timeAt, hms]
  rfl

theorem Survives.exists_decode (hsurvives : history.Survives readTime row)
    (htyped : TypedRow codec schema row) :
    ∃ record, history.decodeThrough readTime row = some record := by
  apply history.exists_decode _ (typedRow_throughText htyped)
  intro column hrequired
  have hpresent := hsurvives.present column hrequired
  by_cases htime : column = history.time
  · subst htime
    have hrow := time_eq_of_present htyped hpresent
    have hread := hsurvives.time_eq
    rw [hrow] at hread
    rw [throughText, hrow]
    change (timestampBack readTime (.timestamp _)).isNull = false
    rw [timestampBack, hread]
    rfl
  · rw [throughText_of_ne htyped fun htype =>
      htime ((history.sqlType_eq_iff column).mp htype)]
    exact hpresent

theorem Survives.shows (hsurvives : history.Survives readTime row)
    (htyped : TypedRow codec schema row)
    (hdecode : history.decodeThrough readTime row = some record) :
    history.Shows row record := by
  intro entry hentry
  cases hread : history.isRead entry.2 with
  | false =>
      rw [history.unread _ record hdecode _ hread, stored_null]
      exact (eq_null_of_isNull
        (hsurvives.hidesNothing entry hentry hread)).symm
  | true =>
      have hreads := history.readsAs _ record hdecode entry.2 hread
      rw [hreads.stored_eq (typedRow_throughText htyped _)]
      by_cases htime : entry.2 = history.time
      · have hback := throughText_time htyped hdecode
        have hpresent : (throughText readTime row history.time).isNull =
            false := by
          rw [hback]
          rfl
        rw [htime, hback,
          time_eq_of_present htyped (isNull_of_throughText hpresent)]
        have hsame := readTime_of_decode htyped hdecode
        rw [hsurvives.time_eq, Option.some.injEq] at hsame
        rw [hsame]
      · exact throughText_of_ne htyped fun htype =>
          htime ((history.sqlType_eq_iff entry.2).mp htype)

end History

/-! ## Lists of records -/

theorem readAs_iff {decode : Row Column Json → Option Record}
    {rows : List (Row Column Json)} {records : List Record} :
    ReadAs decode rows records ↔
      List.Forall₂ (fun row record => decode row = some record) rows
        records := by
  rw [ReadAs, ← List.forall₂_eq_eq_eq, List.forall₂_map_left_iff,
    List.forall₂_map_right_iff]

theorem map_eq_of_forall₂ {First Second Value : Type}
    {relation : First → Second → Prop} {left : First → Value}
    {right : Second → Value}
    (hsame : ∀ first second, relation first second → left first = right second)
    {firsts : List First} {seconds : List Second}
    (hrelated : List.Forall₂ relation firsts seconds) :
    firsts.map left = seconds.map right := by
  induction hrelated with
  | nil => rfl
  | cons hhead _ ih => rw [List.map_cons, List.map_cons, hsame _ _ hhead, ih]

theorem forall₂_mem {First Second : Type} {relation : First → Second → Prop}
    {firsts : List First} {seconds : List Second}
    (hrelated : List.Forall₂ relation firsts seconds) :
    List.Forall₂ (fun first second => first ∈ firsts ∧ relation first second)
      firsts seconds := by
  induction hrelated with
  | nil => exact List.Forall₂.nil
  | cons hhead _ ih =>
      refine List.Forall₂.cons ⟨List.mem_cons_self, hhead⟩ ?_
      exact ih.imp fun first second hboth =>
        ⟨List.mem_cons_of_mem _ hboth.1, hboth.2⟩

theorem exists_of_mem_forall₂ {First Second : Type}
    {relation : First → Second → Prop} {firsts : List First}
    {seconds : List Second} (hrelated : List.Forall₂ relation firsts seconds) :
    (∀ first ∈ firsts, ∃ second ∈ seconds, relation first second) ∧
      ∀ second ∈ seconds, ∃ first ∈ firsts, relation first second := by
  induction hrelated with
  | nil => exact ⟨nofun, nofun⟩
  | cons hhead _ ih =>
      simp only [List.mem_cons, forall_eq_or_imp, exists_eq_or_imp]
      exact ⟨⟨Or.inl hhead, fun first hfirst => Or.inr (ih.1 first hfirst)⟩,
        Or.inl hhead, fun second hsecond => Or.inr (ih.2 second hsecond)⟩

/-- If as many records come out as rows went in, every row was read. -/
theorem decode_of_length {decode : Row Column Json → Option Record}
    {rows : List (Row Column Json)}
    (hlength : (decodeRows decode rows).length = rows.length) :
    ∀ row ∈ rows, ∃ record, decode row = some record := by
  induction rows with
  | nil => exact nofun
  | cons row rows ih =>
      rw [decodeRows] at hlength
      cases hdecode : decode row with
      | none =>
          rw [hdecode] at hlength
          cases hlength
      | some record =>
          rw [hdecode] at hlength
          exact List.forall_mem_cons.mpr
            ⟨⟨record, hdecode⟩, ih (Nat.succ.inj hlength)⟩

namespace History

variable {schema : Schema Column} (history : History codec schema Record)

/-- The rows in the order of their times, each shown as it was stored. -/
def Right (rows : List (Row Column Json)) (records : List Record) : Prop :=
  ∃ arranged, Arranges (byKey history.timeAt) rows arranged ∧
    List.Forall₂ history.Shows arranged records

variable {history} {readTime : Datum Json → Option ℕ}
  {rows result : List (Row Column Json)}

theorem right_nil_iff : history.Right rows [] ↔ rows = [] := by
  constructor
  · rintro ⟨arranged, harranged, hshown⟩
    cases hshown
    exact List.nil_perm.mp harranged.perm
  · rintro rfl
    exact ⟨[], ⟨List.Perm.refl _, List.Pairwise.nil⟩, List.Forall₂.nil⟩

/-- A read that lists the rows in one of some orders is right exactly where
there is nothing to list or the list is right in each of them. -/
theorem right_of_reads_iff {reads : List Record → Prop}
    {orders : List (Row Column Json) → Prop}
    {decode : Row Column Json → Option Record}
    (hreads : ∀ records, reads records ↔
      ∃ result, orders result ∧ records = decodeRows decode result)
    (hperm : ∀ result, orders result → result.Perm rows) :
    (∀ records, reads records → history.Right rows records) ↔
      rows = [] ∨ ∀ result, orders result →
        history.Right rows (decodeRows decode result) := by
  constructor
  · intro hall
    refine Or.inr fun result hresult => hall _ ?_
    exact (hreads _).mpr ⟨result, hresult, rfl⟩
  · rintro hright records hrecords
    obtain ⟨result, hresult, rfl⟩ := (hreads records).mp hrecords
    rcases hright with hempty | hright
    · have hnil := hperm result hresult
      rw [hempty] at hnil ⊢
      rw [List.perm_nil.mp hnil]
      exact right_nil_iff.mpr rfl
    · exact hright result hresult

/-- What a right list says about its rows: all were read, hide nothing, and are
seen with the times of an arrangement. -/
theorem of_right (htyped : ∀ row ∈ rows, TypedRow codec schema row)
    (hperm : result.Perm rows)
    (hright : history.Right rows
      (decodeRows (history.decodeThrough readTime) result)) :
    (∀ row ∈ rows, ∃ record,
      history.decodeThrough readTime row = some record) ∧
    (∀ row ∈ rows, history.HidesNothing row) ∧
    ∃ arranged, Arranges (byKey history.timeAt) rows arranged ∧
      arranged.map history.timeAt = result.map (history.seen readTime) := by
  obtain ⟨arranged, harranged, hshown⟩ := hright
  have hread := decode_of_length (hshown.length_eq.symm.trans
    (harranged.perm.length_eq.trans hperm.length_eq.symm))
  have hrecords := forall₂_mem (readAs_iff.mp (readAs_decodeRows hread))
  refine ⟨fun row hrow => hread row (hperm.mem_iff.mpr hrow), ?_,
    arranged, harranged, ?_⟩
  · intro row hrow
    obtain ⟨record, hrecord, hshows⟩ := (exists_of_mem_forall₂ hshown).1 row
      (harranged.perm.mem_iff.mpr hrow)
    obtain ⟨other, -, -, hdecode⟩ :=
      (exists_of_mem_forall₂ hrecords).2 record hrecord
    exact hidesNothing_of_shows hdecode hshows
  · calc arranged.map history.timeAt
        = (decodeRows (history.decodeThrough readTime) result).map
            history.timeOf :=
          map_eq_of_forall₂ (fun row record hshows => timeAt_of_shows hshows)
            hshown
      _ = result.map (history.seen readTime) := by
          refine (map_eq_of_forall₂ ?_ hrecords).symm
          rintro row record ⟨hrow, hdecode⟩
          exact seen_of_decode (htyped row (hperm.mem_iff.mp hrow)) hdecode

theorem right_of_survives (htyped : ∀ row ∈ rows, TypedRow codec schema row)
    (hsurvive : ∀ row ∈ rows, history.Survives readTime row)
    (hresult : Arranges (byKey history.timeAt) rows result) :
    history.Right rows
      (decodeRows (history.decodeThrough readTime) result) := by
  have hdecode : ∀ row ∈ result, ∃ record,
      history.decodeThrough readTime row = some record := by
    intro row hrow
    have hmem := hresult.perm.mem_iff.mp hrow
    exact (hsurvive row hmem).exists_decode (htyped row hmem)
  refine ⟨result, hresult,
    (forall₂_mem (readAs_iff.mp (readAs_decodeRows hdecode))).imp ?_⟩
  rintro row record ⟨hrow, hrecord⟩
  have hmem := hresult.perm.mem_iff.mp hrow
  exact (hsurvive row hmem).shows (htyped row hmem) hrecord

/-- Without an order, a list is right for every answer exactly where every row
survives and all have one time. -/
theorem right_forall_perm_iff
    (htyped : ∀ row ∈ rows, TypedRow codec schema row) :
    (∀ result : List (Row Column Json), result.Perm rows →
        history.Right rows
          (decodeRows (history.decodeThrough readTime) result)) ↔
      (∀ row ∈ rows, history.Survives readTime row) ∧
        ∀ first ∈ rows, ∀ second ∈ rows,
          history.timeAt first = history.timeAt second := by
  constructor
  · intro hall
    have hseen := seen_eq_of_forall_perm fun result hperm =>
      (of_right htyped hperm (hall result hperm)).2.2
    obtain ⟨hread, hhides, -⟩ :=
      of_right htyped (List.Perm.refl rows) (hall rows (List.Perm.refl rows))
    refine ⟨fun row hrow => ?_, fun row hrow => (hseen row hrow).2⟩
    obtain ⟨record, hdecode⟩ := hread row hrow
    exact survives_of_decode (htyped row hrow) hdecode (hhides row hrow)
      (hseen row hrow).1
  · rintro ⟨hsurvive, htimes⟩ result hperm
    refine right_of_survives htyped hsurvive ⟨hperm, ?_⟩
    refine List.pairwise_of_forall_mem_list fun first hfirst second hsecond => ?_
    exact decide_eq_true (Nat.le_of_eq (htimes first
      (hperm.mem_iff.mp hfirst) second (hperm.mem_iff.mp hsecond)))

/-- In the order of the times, exactly where every row survives. -/
theorem right_forall_arranged_iff
    (htyped : ∀ row ∈ rows, TypedRow codec schema row) :
    (∀ result, Arranges (byKey history.timeAt) rows result →
        history.Right rows
          (decodeRows (history.decodeThrough readTime) result)) ↔
      ∀ row ∈ rows, history.Survives readTime row := by
  constructor
  · intro hall row hrow
    obtain ⟨result, hresult⟩ :=
      exists_arranges (isPreorder_byKey history.timeAt) rows
    obtain ⟨hread, hhides, arranged, harranged, hsame⟩ :=
      of_right htyped hresult.perm (hall result hresult)
    obtain ⟨record, hdecode⟩ := hread row hrow
    exact survives_of_decode (htyped row hrow) hdecode (hhides row hrow)
      (seen_eq_of_arranges hresult harranged hsame row hrow)
  · intro hsurvive result hresult
    exact right_of_survives htyped hsurvive hresult

end History

end Datafeed.Storage
