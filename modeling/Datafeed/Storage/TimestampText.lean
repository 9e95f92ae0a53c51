import Mathlib.Algebra.Group.Int.Defs
import Mathlib.Algebra.Group.Nat.Defs
import Mathlib.Data.List.DropRight
import Mathlib.Data.Nat.Notation
import Mathlib.Tactic.Common

/-!
# The text of a timestamp

`string_to_timestamp` reads the text that the server sends for a timestamp with
`std::get_time`, which takes four digits for the year.  In the ISO style the
server prints at least four, so the text is read exactly up to the year 9999.
What it is read as is another matter: the seconds become nanoseconds on the way,
and these overflow in the year 2262.
-/

namespace Datafeed.Storage

/-! ## Reading -/

/-- What `get_time` fills of a `std::tm`. -/
structure Tm where
  year : ℕ
  month : ℕ
  day : ℕ
  hour : ℕ
  minute : ℕ
  second : ℕ

def skipSpaces (text : List Char) : List Char :=
  text.dropWhile Char.isWhitespace

/-- A field of `get_time`: a decimal number of at most `width` digits that lies
within its bounds, and the text after it. -/
def number (width low high : ℕ) (text : List Char) : Option (ℕ × List Char) :=
  let digits := (text.take width).takeWhile Char.isDigit
  let value := Nat.ofDigitChars 10 digits 0
  if digits = [] ∨ value < low ∨ high < value then none
  else some (value, text.drop digits.length)

def literal (expected : Char) : List Char → Option (List Char)
  | [] => none
  | character :: text => if character = expected then some text else none

/-- `std::get_time(&tm, "%Y-%m-%d %H:%M:%S")`, and the text after it. -/
def getTime (text : List Char) : Option (Tm × List Char) := do
  let (year, text) ← number 4 0 9999 (skipSpaces text)
  let text ← literal '-' text
  let (month, text) ← number 2 1 12 text
  let text ← literal '-' text
  let (day, text) ← number 2 1 31 text
  let (hour, text) ← number 2 0 23 (skipSpaces text)
  let text ← literal ':' text
  let (minute, text) ← number 2 0 59 text
  let text ← literal ':' text
  let (second, text) ← number 2 0 60 text
  return (⟨year, month, day, hour, minute, second⟩, text)

/-- The number that a text starts with, if it starts with a digit. -/
def leadingNumber (text : List Char) : Option ℤ :=
  let digits := text.takeWhile Char.isDigit
  if digits = [] then none else some (Nat.ofDigitChars 10 digits 0)

/-- `std::stoi`. -/
def stoi (text : List Char) : Option ℤ :=
  match skipSpaces text with
  | '-' :: digits => (leadingNumber digits).map fun value => -value
  | '+' :: digits => leadingNumber digits
  | digits => leadingNumber digits

/-- The milliseconds after the decimal point, if the next character is one. -/
def fractionMillis (text : List Char) : Option ℤ :=
  match skipSpaces text with
  | '.' :: text =>
      let frac := (skipSpaces text).takeWhile fun character =>
        !character.isWhitespace
      if frac = [] then some 0
      else stoi (frac.take 3 ++ List.replicate (3 - frac.length) '0')
  | _ => some 0

/-- `system_clock::from_time_t`: the clock counts nanoseconds in 64 bits, and
seconds that are too many come round. -/
def fromTimeT (seconds : ℤ) : ℤ := (seconds * 1000000000).bmod (2 ^ 64)

/-- `duration_cast<milliseconds>`. -/
def toMillis (nanoseconds : ℤ) : ℤ := nanoseconds.tdiv 1000000

/-- `string_to_timestamp`, `none` where it throws.  The time zone of the process
is that of `mktime`. -/
def stringToTimestamp (mktime : Tm → ℤ) (str : String) : Option ℕ := do
  let (tm, rest) ← getTime str.toList
  let millis ← fractionMillis rest
  return ((toMillis (fromTimeT (mktime tm)) + millis) % 2 ^ 64).toNat

/-- Seconds whose nanoseconds fit into 64 bits keep their value. -/
theorem toMillis_fromTimeT {seconds : ℤ} (hearly : -9223372036 ≤ seconds)
    (hlate : seconds ≤ 9223372036) :
    toMillis (fromTimeT seconds) = 1000 * seconds := by
  have hfits : (seconds * 1000000000).bmod (2 ^ 64) = seconds * 1000000000 :=
    Int.bmod_eq_of_le_mul_two (by omega) (by omega)
  have hproduct : seconds * 1000000000 = 1000 * seconds * 1000000 := by omega
  rw [toMillis, fromTimeT, hfits, hproduct]
  exact Int.mul_tdiv_cancel _ (by decide)

/-- Later seconds come round to a time before the epoch. -/
theorem toMillis_fromTimeT_late {seconds : ℤ} (hlate : 9223372036 < seconds)
    (hround : seconds ≤ 18446744073) :
    toMillis (fromTimeT seconds) =
      -((2 ^ 64 - seconds * 1000000000) / 1000000) := by
  have hover : (seconds * 1000000000 - 2 ^ 64).bmod (2 ^ 64) =
      seconds * 1000000000 - 2 ^ 64 :=
    Int.bmod_eq_of_le_mul_two (by omega) (by omega)
  have hcome : (seconds * 1000000000 - 2 ^ 64).bmod (2 ^ 64) =
      (seconds * 1000000000).bmod (2 ^ 64) := Int.sub_bmod_right _ (2 ^ 64)
  have hneg : seconds * 1000000000 - 2 ^ 64 =
      -(2 ^ 64 - seconds * 1000000000) := by omega
  rw [toMillis, fromTimeT, ← hcome, hover, hneg, Int.neg_tdiv,
    Int.tdiv_eq_ediv_of_nonneg (by omega)]

/-! ## Printing -/

/-- A number in decimal, with zeros in front up to a width. -/
def printed (width value : ℕ) : List Char :=
  (Nat.toDigits 10 value).leftpad width '0'

/-- `std::put_time(&tm, "%Y-%m-%d %H:%M:%S")`. -/
def Tm.dateTime (tm : Tm) : List Char :=
  printed 4 tm.year ++ '-' :: printed 2 tm.month ++ '-' :: printed 2 tm.day ++
    ' ' :: printed 2 tm.hour ++ ':' :: printed 2 tm.minute ++
    ':' :: printed 2 tm.second

/-- What the server prints of a timestamp: the local time of the session, the
digits of a fraction of a second, if any, and the offset of its time zone. -/
structure PrintedTime where
  tm : Tm
  fraction : List Char
  zoneSign : Char
  zone : List Char
  month_bounds : 1 ≤ tm.month ∧ tm.month ≤ 12
  day_bounds : 1 ≤ tm.day ∧ tm.day ≤ 31
  hour_le : tm.hour ≤ 23
  minute_le : tm.minute ≤ 59
  second_le : tm.second ≤ 59
  fraction_digits : ∀ character ∈ fraction, character.isDigit = true
  zoneSign_sign : zoneSign = '+' ∨ zoneSign = '-'
  zone_printable : ∀ character ∈ zone, character.isWhitespace = false

def PrintedTime.fractionText (time : PrintedTime) : List Char :=
  if time.fraction = [] then [] else '.' :: time.fraction

/-- The text of a timestamp in the ISO style. -/
def PrintedTime.text (time : PrintedTime) : String :=
  String.ofList (printed 4 time.tm.year ++ '-' :: printed 2 time.tm.month ++
    '-' :: printed 2 time.tm.day ++ ' ' :: printed 2 time.tm.hour ++
    ':' :: printed 2 time.tm.minute ++ ':' :: printed 2 time.tm.second ++
    (time.fractionText ++ time.zoneSign :: time.zone))

/-! ## What is printed is read -/

theorem length_printed {width value : ℕ} (hwidth : 0 < width)
    (hvalue : value < 10 ^ width) : (printed width value).length = width := by
  have hdigits := (Nat.length_toDigits_le_iff (by decide) hwidth).mpr hvalue
  rw [printed, List.length_leftpad]
  omega

theorem isDigit_of_mem_printed {width value : ℕ} {character : Char}
    (hmem : character ∈ printed width value) : character.isDigit = true := by
  rw [printed, List.leftpad, List.mem_append] at hmem
  rcases hmem with hzero | hdigit
  · rw [List.eq_of_mem_replicate hzero]
    decide
  · exact Nat.isDigit_of_mem_toDigits (by decide) (by decide) hdigit

theorem ofDigitChars_printed (width value : ℕ) :
    Nat.ofDigitChars 10 (printed width value) 0 = value := by
  rw [printed, List.leftpad, Nat.ofDigitChars_append,
    Nat.ofDigitChars_replicate_zero, Nat.mul_zero,
    Nat.ofDigitChars_ten_toDigits]

theorem takeWhile_isDigit_printed (width value : ℕ) :
    (printed width value).takeWhile Char.isDigit = printed width value :=
  List.takeWhile_eq_self_iff.mpr fun _ hmem => isDigit_of_mem_printed hmem

/-- A field reads the number that was printed for it. -/
theorem number_printed {width low high value : ℕ} (hwidth : 0 < width)
    (hlow : low ≤ value) (hhigh : value ≤ high) (hvalue : value < 10 ^ width)
    (rest : List Char) :
    number width low high (printed width value ++ rest) =
      some (value, rest) := by
  have hlength := length_printed hwidth hvalue
  have hdigits : ((printed width value ++ rest).take width).takeWhile
      Char.isDigit = printed width value := by
    rw [List.take_left' hlength, takeWhile_isDigit_printed]
  have hnonempty : printed width value ≠ [] := by
    apply List.ne_nil_of_length_pos
    omega
  have haccepted : ¬(printed width value = [] ∨ value < low ∨ high < value) :=
    fun hrejected => by
      rcases hrejected with hempty | hbound | hbound
      · exact hnonempty hempty
      · omega
      · omega
  rw [number, hdigits, ofDigitChars_printed, if_neg haccepted,
    List.drop_left]

theorem isWhitespace_of_isDigit {character : Char}
    (hdigit : character.isDigit = true) : character.isWhitespace = false := by
  rw [Bool.eq_false_iff]
  intro hspace
  simp only [Char.isWhitespace, Bool.or_eq_true, decide_eq_true_eq]
    at hspace
  rcases hspace with ((rfl | rfl) | rfl) | rfl
  all_goals exact absurd hdigit (by decide)

theorem skipSpaces_of_visible {character : Char}
    (hvisible : character.isWhitespace = false) (text : List Char) :
    skipSpaces (character :: text) = character :: text :=
  List.dropWhile_cons_of_neg (by rw [hvisible]; decide)

theorem skipSpaces_printed (width value : ℕ) (rest : List Char) :
    skipSpaces (printed width value ++ rest) =
      printed width value ++ rest := by
  cases hprinted : printed width value with
  | nil =>
      have hnonempty : Nat.toDigits 10 value ≠ [] := Nat.toDigits_ne_nil
      rw [printed, List.leftpad, List.append_eq_nil_iff] at hprinted
      exact absurd hprinted.2 hnonempty
  | cons character digits =>
      have hmem : character ∈ printed width value := by
        rw [hprinted]
        exact List.mem_cons_self
      exact skipSpaces_of_visible
        (isWhitespace_of_isDigit (isDigit_of_mem_printed hmem)) _

/-- The fields are such as `get_time` takes. -/
structure Tm.InBounds (tm : Tm) : Prop where
  year_le : tm.year ≤ 9999
  month_bounds : 1 ≤ tm.month ∧ tm.month ≤ 12
  day_bounds : 1 ≤ tm.day ∧ tm.day ≤ 31
  hour_le : tm.hour ≤ 23
  minute_le : tm.minute ≤ 59
  second_le : tm.second ≤ 59

/-- `put_time` and `get_time` have one format. -/
theorem getTime_dateTime {tm : Tm} (hbounds : tm.InBounds)
    (rest : List Char) : getTime (tm.dateTime ++ rest) = some (tm, rest) := by
  have hyear := hbounds.year_le
  have hmonth := hbounds.month_bounds
  have hday := hbounds.day_bounds
  have hhour := hbounds.hour_le
  have hminute := hbounds.minute_le
  have hsecond := hbounds.second_le
  simp only [Tm.dateTime, List.append_assoc, List.cons_append, getTime,
    skipSpaces_printed]
  have hspace (rest : List Char) :
      skipSpaces (' ' :: (printed 2 tm.hour ++ rest)) =
        printed 2 tm.hour ++ rest := by
    have hdropped := skipSpaces_printed 2 tm.hour rest
    rw [skipSpaces] at hdropped ⊢
    rw [List.dropWhile_cons_of_pos (by decide)]
    exact hdropped
  rw [number_printed (by decide) (by omega) hyear (by omega)]
  simp only [Option.bind_eq_bind, Option.bind_some, literal, if_true]
  rw [number_printed (by decide) hmonth.1 hmonth.2 (by omega)]
  simp only [Option.bind_some, if_true]
  rw [number_printed (by decide) hday.1 hday.2 (by omega)]
  simp only [Option.bind_some, hspace]
  rw [number_printed (by decide) (by omega) hhour (by omega)]
  simp only [Option.bind_some, if_true]
  rw [number_printed (by decide) (by omega) hminute (by omega)]
  simp only [Option.bind_some, if_true]
  rw [number_printed (by decide) (by omega) (by omega) (by omega)]
  rfl

theorem PrintedTime.toList_text (time : PrintedTime) :
    time.text.toList =
      time.tm.dateTime ++ (time.fractionText ++ time.zoneSign :: time.zone) :=
  by rw [PrintedTime.text, String.toList_ofList, Tm.dateTime]

theorem PrintedTime.inBounds {time : PrintedTime}
    (hyear : time.tm.year ≤ 9999) : time.tm.InBounds where
  year_le := hyear
  month_bounds := time.month_bounds
  day_bounds := time.day_bounds
  hour_le := time.hour_le
  minute_le := time.minute_le
  second_le := time.second_le

theorem getTime_text {time : PrintedTime} (hyear : time.tm.year ≤ 9999) :
    getTime time.text.toList =
      some (time.tm, time.fractionText ++ time.zoneSign :: time.zone) := by
  rw [time.toList_text]
  exact getTime_dateTime (time.inBounds hyear) _

/-- After a field there is a digit where more of them were printed than the
field takes. -/
theorem number_of_longer {width low high value : ℕ}
    (hvalue : 10 ^ width ≤ value) (hwidth : 0 < width) (rest : List Char)
    {read : ℕ} {left : List Char}
    (hread : number width low high (printed width value ++ rest) =
      some (read, left)) :
    ∃ digit tail, digit.isDigit = true ∧ left = digit :: tail := by
  have hlength : width < (printed width value).length := by
    have hdigits := (Nat.length_toDigits_le_iff
      (show 1 < 10 by decide) hwidth).not.mpr (Nat.not_lt.mpr hvalue)
    rw [printed, List.length_leftpad]
    omega
  have htaken : ((printed width value ++ rest).take width).takeWhile
      Char.isDigit = (printed width value).take width := by
    rw [List.take_append_of_le_length hlength.le]
    exact List.takeWhile_eq_self_iff.mpr fun _ hmem =>
      isDigit_of_mem_printed (List.mem_of_mem_take hmem)
  rw [number, htaken] at hread
  split at hread
  · cases hread
  · simp only [Option.some.injEq, Prod.mk.injEq] at hread
    rw [List.length_take_of_le hlength.le,
      List.drop_append_of_le_length hlength.le,
      List.drop_eq_getElem_cons hlength] at hread
    exact ⟨_, _, isDigit_of_mem_printed (List.getElem_mem hlength),
      hread.2.symm⟩

/-- After four digits of a longer year there is no hyphen. -/
theorem getTime_text_of_lateYear {time : PrintedTime}
    (hyear : 9999 < time.tm.year) : getTime time.text.toList = none := by
  simp only [PrintedTime.text, String.toList_ofList, List.append_assoc,
    List.cons_append, getTime, skipSpaces_printed]
  rw [Option.bind_eq_bind, Option.bind_eq_none_iff]
  rintro ⟨year, left⟩ hread
  obtain ⟨digit, tail, hdigit, rfl⟩ :=
    number_of_longer (by omega) (by decide) _ hread
  have hhyphen : digit ≠ '-' := by
    rintro rfl
    exact absurd hdigit (by decide)
  rw [literal, if_neg hhyphen]
  rfl

theorem stoi_of_isDigit {digit : Char} (hdigit : digit.isDigit = true)
    (text : List Char) :
    stoi (digit :: text) = leadingNumber (digit :: text) := by
  rw [stoi, skipSpaces_of_visible (isWhitespace_of_isDigit hdigit)]
  split
  · next hminus =>
      obtain ⟨rfl, -⟩ := List.cons.inj hminus
      exact absurd hdigit (by decide)
  · next hplus =>
      obtain ⟨rfl, -⟩ := List.cons.inj hplus
      exact absurd hdigit (by decide)
  · rfl

/-- `stoi` reads the digits that a text starts with. -/
theorem stoi_digits {digits rest : List Char} (hnonempty : digits ≠ [])
    (hdigits : ∀ character ∈ digits, character.isDigit = true)
    (hrest : rest.takeWhile Char.isDigit = []) :
    stoi (digits ++ rest) =
      some ((Nat.ofDigitChars 10 digits 0 : ℕ) : ℤ) := by
  cases digits with
  | nil => exact absurd rfl hnonempty
  | cons digit digits =>
      rw [List.cons_append, stoi_of_isDigit (hdigits digit List.mem_cons_self),
        leadingNumber, ← List.cons_append,
        List.takeWhile_append_of_pos hdigits, hrest, List.append_nil,
        if_neg hnonempty]

theorem zoneSign_visible (time : PrintedTime) :
    time.zoneSign.isWhitespace = false ∧ time.zoneSign ≠ '.' := by
  rcases time.zoneSign_sign with hplus | hminus
  · rw [hplus]
    decide
  · rw [hminus]
    decide

/-- The digits of a fraction and the zone are printed without a blank. -/
theorem printable_fraction_zone (time : PrintedTime) {digits : List Char}
    (hdigits : digits ⊆ time.fraction) :
    ∀ character ∈ digits ++ time.zoneSign :: time.zone,
      character.isWhitespace = false := by
  intro character hmem
  rcases List.mem_append.mp hmem with hmem | hmem
  · exact isWhitespace_of_isDigit
      (time.fraction_digits character (hdigits hmem))
  · rcases List.mem_cons.mp hmem with rfl | hmem
    · exact (zoneSign_visible time).1
    · exact time.zone_printable character hmem

/-- The fraction that is read has three characters, whatever they are. -/
theorem fractionMillis_point {digit : Char} {rest : List Char}
    (hdigit : digit.isDigit = true)
    (hrest : ∀ character ∈ rest, character.isWhitespace = false) :
    fractionMillis ('.' :: digit :: rest) =
      stoi ((digit :: rest).take 3 ++
        List.replicate (3 - (digit :: rest).length) '0') := by
  have hvisible := isWhitespace_of_isDigit hdigit
  have htoken : (digit :: rest).takeWhile (fun character =>
      !character.isWhitespace) = digit :: rest := by
    apply List.takeWhile_eq_self_iff.mpr
    intro character hmem
    rcases List.mem_cons.mp hmem with rfl | hmem
    · rw [hvisible]
      rfl
    · rw [hrest character hmem]
      rfl
  rw [fractionMillis, skipSpaces_of_visible (by decide)]
  simp only
  rw [skipSpaces_of_visible hvisible, htoken,
    if_neg (List.cons_ne_nil _ _)]

theorem fractionMillis_of_nil {time : PrintedTime}
    (hfraction : time.fraction = []) :
    fractionMillis (time.fractionText ++ time.zoneSign :: time.zone) =
      some 0 := by
  obtain ⟨hsign, hnoPoint⟩ := zoneSign_visible time
  rw [PrintedTime.fractionText, if_pos hfraction, List.nil_append,
    fractionMillis, skipSpaces_of_visible hsign]
  split
  · next hpoint => exact absurd (List.cons.inj hpoint).1 hnoPoint
  · rfl

theorem fractionMillis_of_cons {time : PrintedTime} {digit : Char}
    {digits : List Char} (hfraction : time.fraction = digit :: digits) :
    fractionMillis (time.fractionText ++ time.zoneSign :: time.zone) =
      stoi ((digit :: digits ++ time.zoneSign :: time.zone).take 3 ++
        List.replicate (3 - (digit :: digits ++ time.zoneSign ::
          time.zone).length) '0') := by
  have hsubset : digits ⊆ time.fraction := by
    rw [hfraction]
    exact List.subset_cons_self _ _
  have hdigit : digit ∈ time.fraction := by
    rw [hfraction]
    exact List.mem_cons_self
  rw [PrintedTime.fractionText, if_neg (by rw [hfraction]; simp), hfraction,
    List.cons_append, List.cons_append,
    fractionMillis_point (time.fraction_digits digit hdigit)
      (printable_fraction_zone time hsubset)]

theorem isSome_fractionMillis (time : PrintedTime) :
    (fractionMillis
      (time.fractionText ++ time.zoneSign :: time.zone)).isSome := by
  cases hfraction : time.fraction with
  | nil =>
      rw [fractionMillis_of_nil hfraction]
      rfl
  | cons digit digits =>
      have hdigit : digit.isDigit = true := by
        apply time.fraction_digits
        rw [hfraction]
        exact List.mem_cons_self
      rw [fractionMillis_of_cons hfraction, List.cons_append,
        List.take_succ_cons, List.cons_append, stoi_of_isDigit hdigit,
        leadingNumber, List.takeWhile_cons_of_pos hdigit]
      rfl

/-- A timestamp in the ISO style is read exactly up to the year 9999. -/
theorem isSome_stringToTimestamp_iff (mktime : Tm → ℤ) (time : PrintedTime) :
    (stringToTimestamp mktime time.text).isSome ↔ time.tm.year ≤ 9999 := by
  by_cases hyear : time.tm.year ≤ 9999
  · obtain ⟨millis, hmillis⟩ :=
      Option.isSome_iff_exists.mp (isSome_fractionMillis time)
    apply iff_of_true _ hyear
    rw [stringToTimestamp, getTime_text hyear]
    simp only [Option.bind_eq_bind, Option.bind_some, hmillis]
    rfl
  · apply iff_of_false _ hyear
    rw [stringToTimestamp, getTime_text_of_lateYear (by omega)]
    exact Bool.false_ne_true

end Datafeed.Storage
