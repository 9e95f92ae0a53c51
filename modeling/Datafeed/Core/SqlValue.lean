import Datafeed.Core.Uuid
import Mathlib.Algebra.Group.Int.Defs
import Mathlib.Algebra.Group.Nat.Defs
import Mathlib.Data.List.Basic
import Mathlib.Data.Rat.Defs
import Mathlib.Tactic.Common

/-!
# Column types, parameters and stored values

A client sends the parameters of a prepared statement as text; the server
parses each into the type of the column it is bound to.  `Param` keeps the
value a parameter was rendered from, so number and timestamp codecs are exact
here, while the checks of the server on the text remain: lengths, integer
ranges, the spellings of a UUID, JSON syntax.

Finite doubles are rationals.  JSON values, their parser and printer, and the
rounding of an integer to a double are parameters.
-/

namespace Datafeed.Sql

/-- What the server does with JSON text, and with an integer bound to a
`DOUBLE PRECISION` column. -/
structure Codec (Json : Type) where
  parse : String → Option Json
  render : Json → String
  parse_render : ∀ json, parse (render json) = some json
  roundToDouble : ℤ → ℚ
  roundToDouble_exact : ∀ value : ℤ, value.natAbs ≤ 2 ^ 53 →
    roundToDouble value = value

/-- JSON text in the form the server prints, and integers a double holds. -/
def plainCodec : Codec String where
  parse := some
  render := id
  parse_render _ := rfl
  roundToDouble value := value
  roundToDouble_exact _ _ := rfl

inductive SqlType
  | uuid
  | varchar (length : ℕ)
  | char (length : ℕ)
  | text
  | jsonb
  | float8
  | int4
  | int8
  | boolean
  | timestamptz
  deriving DecidableEq

/-- A parameter, by the value it is the text of. -/
inductive Param
  | null
  | text (value : String)
  | integer (value : ℤ)
  | double (value : ℚ)
  /-- Milliseconds since the epoch. -/
  | timestamp (value : ℕ)
  deriving DecidableEq

inductive Datum (Json : Type)
  | null
  | text (value : String)
  | json (value : Json)
  | float (value : ℚ)
  | integer (value : ℤ)
  | boolean (value : Bool)
  | timestamp (value : ℕ)
  deriving DecidableEq

variable {Json : Type} (codec : Codec Json)

/-! ## Storing a parameter -/

/-- Text values cannot contain the zero character. -/
def isStorableText (text : String) : Bool :=
  !text.toList.contains (Char.ofNat 0)

def inInt4Range (value : ℤ) : Bool := -(2 ^ 31) ≤ value && value < 2 ^ 31

def inInt8Range (value : ℤ) : Bool := -(2 ^ 63) ≤ value && value < 2 ^ 63

/-- `CHAR(n)` pads with blanks to its length. -/
def padded (length : ℕ) (text : String) : String :=
  String.ofList (text.toList ++
    List.replicate (length - text.length) ' ')

/-- The stored value of a parameter bound to a column, or `none` where the
server rejects it. -/
def store : SqlType → Param → Option (Datum Json)
  | _, .null => some .null
  | .uuid, .text value => (readUuid value).map .text
  | .varchar length, .text value =>
      if value.length ≤ length ∧ isStorableText value then some (.text value)
      else none
  | .char length, .text value =>
      if value.length ≤ length ∧ isStorableText value then
        some (.text (padded length value))
      else none
  | .text, .text value =>
      if isStorableText value then some (.text value) else none
  | .jsonb, .text value => (codec.parse value).map .json
  | .boolean, .text value =>
      if value = "true" then some (.boolean true)
      else if value = "false" then some (.boolean false)
      else none
  | .float8, .double value => some (.float value)
  | .float8, .integer value => some (.float (codec.roundToDouble value))
  | .int4, .integer value =>
      if inInt4Range value then some (.integer value) else none
  | .int8, .integer value =>
      if inInt8Range value then some (.integer value) else none
  | .timestamptz, .timestamp value => some (.timestamp value)
  | _, _ => none

/-- The stored value, `NULL` where the parameter is rejected. -/
def stored (sqlType : SqlType) (param : Param) : Datum Json :=
  (store codec sqlType param).getD .null

/-- A value fits a column when the column holds it without change: the text is
no longer than the column (exactly as long for `CHAR`) and has no zero
character, a UUID is in canonical form, JSON text parses, an integer is in the
range of the column. -/
def Fits : SqlType → Param → Prop
  | _, .null => True
  | .uuid, .text value => isCanonicalUuid value
  | .varchar length, .text value => value.length ≤ length ∧ isStorableText value
  | .char length, .text value => value.length = length ∧ isStorableText value
  | .text, .text value => isStorableText value
  | .jsonb, .text value => (codec.parse value).isSome
  | .boolean, .text value => value = "true" ∨ value = "false"
  | .float8, .double _ => True
  | .float8, .integer value => value.natAbs ≤ 2 ^ 53
  | .int4, .integer value => inInt4Range value
  | .int8, .integer value => inInt8Range value
  | .timestamptz, .timestamp _ => True
  | _, _ => False

instance (sqlType : SqlType) (param : Param) :
    Decidable (Fits codec sqlType param) := by
  cases sqlType <;> cases param <;> dsimp only [Fits] <;> infer_instance

/-! ## Reading a stored value back -/

namespace Datum

def isNull : Datum Json → Bool
  | .null => true
  | _ => false

/-- `as<std::string>()` of a column of a text type. -/
def asString : Datum Json → Option String
  | .text value => some value
  | .json value => some (codec.render value)
  | _ => none

/-- `as<long long>()`. -/
def asInt64 : Datum Json → Option ℤ
  | .integer value => some value
  | _ => none

/-- `as<double>()`. -/
def asDouble : Datum Json → Option ℚ
  | .float value => some value
  | .integer value => some value
  | _ => none

/-- `as<bool>()`. -/
def asBool : Datum Json → Option Bool
  | .boolean value => some value
  | _ => none

/-- `string_to_timestamp(as<std::string>())`. -/
def asTimestamp : Datum Json → Option ℕ
  | .timestamp value => some value
  | _ => none

/-- A double assigned to an integer field: the fraction is cut off. -/
def truncate (value : ℚ) : ℤ := value.num.tdiv value.den

/-- `as<double>()` assigned to an integer field. -/
def asTruncated (datum : Datum Json) : Option ℤ := datum.asDouble.map truncate

/-- A field read only when the column is not `NULL`. -/
def optional {Value : Type} (read : Datum Json → Option Value)
    (datum : Datum Json) : Option (Option Value) :=
  if datum.isNull then some none else (read datum).map some

end Datum

/-! ## Appending fields to a statement -/

/-- A flag is sent as the text `true` or `false`. -/
def appendBool (value : Bool) : Param := .text (if value then "true" else "false")

/-- An absent optional field is sent as `NULL`. -/
def appendOpt {Value : Type} (append : Value → Param) : Option Value → Param
  | none => .null
  | some value => append value

/-! ## What fits reads back -/

variable {codec}

/-- The types whose stored form is the text itself. -/
def SqlType.IsTextual : SqlType → Prop
  | .uuid | .varchar _ | .char _ | .text => True
  | _ => False

def SqlType.IsInteger : SqlType → Prop
  | .int4 | .int8 => True
  | _ => False

theorem padded_of_length {length : ℕ} {text : String}
    (hlength : text.length = length) : padded length text = text := by
  simp [padded, hlength]

/-- A stored UUID is in the form it is printed in. -/
theorem readUuid_of_store {param : Param} {value : String}
    (hstore : store codec .uuid param = some (.text value)) :
    readUuid value = some value := by
  cases param with
  | text sent =>
      obtain ⟨printed, hprinted, heq⟩ := Option.map_eq_some_iff.mp hstore
      obtain rfl := Datum.text.inj heq
      exact readUuid_of_readUuid hprinted
  | _ => cases hstore

theorem text_of_store {sqlType : SqlType} (htextual : sqlType.IsTextual)
    {text : String} {datum : Datum Json}
    (hstore : store codec sqlType (.text text) = some datum) :
    ∃ value, datum = .text value := by
  cases sqlType with
  | uuid =>
      obtain ⟨value, -, rfl⟩ := Option.map_eq_some_iff.mp hstore
      exact ⟨value, rfl⟩
  | varchar length =>
      obtain rfl := Option.some.inj (Option.ite_none_right_eq_some.mp hstore).2
      exact ⟨text, rfl⟩
  | char length =>
      obtain rfl := Option.some.inj (Option.ite_none_right_eq_some.mp hstore).2
      exact ⟨padded length text, rfl⟩
  | text =>
      obtain rfl := Option.some.inj (Option.ite_none_right_eq_some.mp hstore).2
      exact ⟨text, rfl⟩
  | _ => exact htextual.elim

theorem stored_text {sqlType : SqlType} {value : String}
    (htextual : sqlType.IsTextual) (hfits : Fits codec sqlType (.text value)) :
    stored codec sqlType (.text value) = .text value := by
  cases sqlType with
  | uuid =>
      have hread := readUuid_of_isCanonicalUuid hfits
      simp [stored, store, hread]
  | varchar length =>
      have hbounds : value.length ≤ length ∧ isStorableText value = true := hfits
      simp [stored, store, hbounds]
  | char length =>
      have hbounds : value.length = length ∧ isStorableText value = true := hfits
      simp [stored, store, hbounds, padded_of_length hbounds.1]
  | text =>
      have hstorable : isStorableText value = true := hfits
      simp [stored, store, hstorable]
  | _ => exact htextual.elim

theorem stored_integer {sqlType : SqlType} {value : ℤ}
    (hinteger : sqlType.IsInteger) (hfits : Fits codec sqlType (.integer value)) :
    stored codec sqlType (.integer value) = .integer value := by
  cases sqlType with
  | int4 =>
      have hrange : inInt4Range value = true := hfits
      simp [stored, store, hrange]
  | int8 =>
      have hrange : inInt8Range value = true := hfits
      simp [stored, store, hrange]
  | _ => exact hinteger.elim

@[simp]
theorem stored_null (sqlType : SqlType) :
    stored codec sqlType .null = (.null : Datum Json) := by
  cases sqlType <;> rfl

@[simp]
theorem stored_timestamp (value : ℕ) :
    stored codec .timestamptz (.timestamp value) =
      (.timestamp value : Datum Json) := rfl

@[simp]
theorem stored_bool (value : Bool) :
    stored codec .boolean (appendBool value) =
      (.boolean value : Datum Json) := by
  cases value <;> rfl

/-- Whatever fits is accepted. -/
theorem store_eq_stored {sqlType : SqlType} {param : Param}
    (hfits : Fits codec sqlType param) :
    store codec sqlType param = some (stored codec sqlType param) := by
  have hsome : (store codec sqlType param).isSome := by
    cases param with
    | null => cases sqlType <;> rfl
    | text value =>
        cases sqlType with
        | uuid => simp [store, readUuid_of_isCanonicalUuid hfits]
        | varchar length =>
            have hbounds : value.length ≤ length ∧ isStorableText value = true :=
              hfits
            simp [store, hbounds]
        | char length =>
            have hbounds : value.length = length ∧ isStorableText value = true :=
              hfits
            simp [store, hbounds]
        | text =>
            have hstorable : isStorableText value = true := hfits
            simp [store, hstorable]
        | jsonb =>
            have hparse : (codec.parse value).isSome = true := hfits
            simpa [store] using hparse
        | boolean =>
            have hflag : value = "true" ∨ value = "false" := hfits
            rcases hflag with htrue | hfalse
            · simp [store, htrue]
            · simp [store, hfalse]
        | _ => exact hfits.elim
    | integer value =>
        cases sqlType with
        | float8 => rfl
        | int4 =>
            have hrange : inInt4Range value = true := hfits
            simp [store, hrange]
        | int8 =>
            have hrange : inInt8Range value = true := hfits
            simp [store, hrange]
        | _ => exact hfits.elim
    | double value =>
        cases sqlType with
        | float8 => rfl
        | _ => exact hfits.elim
    | timestamp value =>
        cases sqlType with
        | timestamptz => rfl
        | _ => exact hfits.elim
  obtain ⟨datum, hdatum⟩ := Option.isSome_iff_exists.mp hsome
  simp [stored, hdatum]

/-- A value that is not `NULL` is not stored as `NULL`. -/
theorem stored_ne_null {sqlType : SqlType} {param : Param}
    (hfits : Fits codec sqlType param) (hparam : param ≠ .null) :
    stored codec sqlType param ≠ (.null : Datum Json) := by
  have hstore := store_eq_stored hfits
  intro hnull
  rw [hnull] at hstore
  cases param with
  | null => exact hparam rfl
  | text value =>
      cases sqlType <;> simp [store] at hstore
      split at hstore
      · simp at hstore
      · simp at hstore
  | integer value =>
      cases sqlType <;> simp [store] at hstore
  | double value => cases sqlType <;> simp [store] at hstore
  | timestamp value => cases sqlType <;> simp [store] at hstore

section Reading

variable {sqlType : SqlType}

theorem asString_stored (htextual : sqlType.IsTextual) {value : String}
    (hfits : Fits codec sqlType (.text value)) :
    (stored codec sqlType (.text value)).asString codec = some value := by
  rw [stored_text htextual hfits]
  rfl

theorem asInt64_stored (hinteger : sqlType.IsInteger) {value : ℤ}
    (hfits : Fits codec sqlType (.integer value)) :
    (stored codec sqlType (.integer value)).asInt64 = some value := by
  rw [stored_integer hinteger hfits]
  rfl

/-- An optional field reads back when its present values do. -/
theorem optional_stored {Value : Type} {read : Datum Json → Option Value}
    {append : Value → Param} (hnull : read .null = none)
    {field : Option Value}
    (hread : ∀ value, field = some value →
      read (stored codec sqlType (append value)) = some value) :
    Datum.optional read (stored codec sqlType (appendOpt append field)) =
      some field := by
  cases field with
  | none => simp [appendOpt, Datum.optional, Datum.isNull]
  | some value =>
      have hvalue := hread value rfl
      have hpresent :
          (stored codec sqlType (append value)).isNull = false := by
        cases hdatum : stored codec sqlType (append value) with
        | null =>
            rw [hdatum, hnull] at hvalue
            cases hvalue
        | _ => rfl
      simp [appendOpt, Datum.optional, hpresent, hvalue]

theorem optional_asString_stored (htextual : sqlType.IsTextual)
    {field : Option String}
    (hfits : Fits codec sqlType (appendOpt .text field)) :
    Datum.optional (Datum.asString codec)
      (stored codec sqlType (appendOpt .text field)) = some field := by
  apply optional_stored rfl
  intro value hvalue
  rw [hvalue] at hfits
  exact asString_stored htextual hfits

theorem optional_asInt64_stored (hinteger : sqlType.IsInteger)
    {field : Option ℤ}
    (hfits : Fits codec sqlType (appendOpt .integer field)) :
    Datum.optional Datum.asInt64
      (stored codec sqlType (appendOpt .integer field)) = some field := by
  apply optional_stored rfl
  intro value hvalue
  rw [hvalue] at hfits
  exact asInt64_stored hinteger hfits

@[simp]
theorem optional_asDouble_stored (field : Option ℚ) :
    Datum.optional Datum.asDouble
      (stored codec .float8 (appendOpt .double field)) = some field :=
  optional_stored rfl fun _ _ => rfl

theorem optional_asTruncated_stored {field : Option ℤ}
    (hfits : Fits codec .float8 (appendOpt .integer field)) :
    Datum.optional Datum.asTruncated
      (stored codec .float8 (appendOpt .integer field)) = some field := by
  apply optional_stored rfl
  intro value hvalue
  rw [hvalue] at hfits
  have hexact := codec.roundToDouble_exact value hfits
  simp [stored, store, Datum.asTruncated, Datum.asDouble, Datum.truncate,
    hexact]

@[simp]
theorem optional_asTimestamp_stored (field : Option ℕ) :
    Datum.optional Datum.asTimestamp
      (stored codec .timestamptz (appendOpt .timestamp field)) = some field :=
  optional_stored rfl fun _ _ => rfl

@[simp]
theorem optional_asBool_stored (field : Option Bool) :
    Datum.optional Datum.asBool
      (stored codec .boolean (appendOpt appendBool field)) = some field := by
  apply optional_stored rfl
  intro value _
  rw [stored_bool]
  rfl

end Reading

/-! ## JSON text -/

variable (codec)

/-- Two optional JSON texts of the same value. -/
def JsonEq (left right : Option String) : Prop :=
  left.map codec.parse = right.map codec.parse

/-- JSON text as the server prints the value it has parsed. -/
def normalized (text : String) : String :=
  ((codec.parse text).map codec.render).getD text

variable {codec}

theorem jsonEq_normalized (field : Option String) :
    JsonEq codec field (field.map (normalized codec)) := by
  cases field with
  | none => rfl
  | some text =>
      cases hparse : codec.parse text with
      | none => simp [JsonEq, normalized, hparse]
      | some json => simp [JsonEq, normalized, hparse, codec.parse_render]

theorem optional_json_stored {field : Option String}
    (hfits : Fits codec .jsonb (appendOpt .text field)) :
    Datum.optional (Datum.asString codec)
      (stored codec .jsonb (appendOpt .text field)) =
        some (field.map (normalized codec)) := by
  cases field with
  | none => rfl
  | some text =>
      have hsome : (codec.parse text).isSome = true := hfits
      obtain ⟨json, hparse⟩ := Option.isSome_iff_exists.mp hsome
      simp [appendOpt, stored, store, hparse, normalized, Datum.optional,
        Datum.isNull, Datum.asString]

end Datafeed.Sql
