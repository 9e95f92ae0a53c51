import Datafeed.Storage.Clients

/-!
# The text of an interval

A number of seconds is written to an `INTERVAL` column as `N seconds`, and the
server answers with hours, minutes and seconds.  `string_to_interval` reads the
first number of that answer.
-/

namespace Datafeed.Storage

open Sql

/-! ## The process -/

/-- `std::to_string` of an integer. -/
def toStringInteger (value : ℤ) : List Char :=
  if value < 0 then '-' :: printed 1 value.natAbs else printed 1 value.natAbs

def intervalToString (seconds : ℤ) : String :=
  String.ofList (toStringInteger seconds ++ " seconds".toList)

/-- `string_to_interval`: extraction leaves zero where it finds no number, the
nearest bound where the number is too large, and the variable as it is where
there is nothing to read. -/
def stringToInterval (unset : ℤ) (str : String) : ℤ :=
  match skipSpaces str.toList with
  | [] => unset
  | '-' :: text => max (-2 ^ 63) (-(leadingNumber text).getD 0)
  | '+' :: text => min (2 ^ 63 - 1) ((leadingNumber text).getD 0)
  | text => min (2 ^ 63 - 1) ((leadingNumber text).getD 0)

/-! ## The server -/

/-- The microseconds of an interval written as a number of seconds, `none`
where the server rejects the text. -/
def intervalInput (text : String) : Option ℤ :=
  let number := text.toList.takeWhile (· ≠ ' ')
  let isNegative := number.head? = some '-'
  let digits := if isNegative then number.tail else number
  let value : ℤ := Nat.ofDigitChars 10 digits 0 * 1000000
  let micros := if isNegative then -value else value
  if text.toList.dropWhile (· ≠ ' ') = " seconds".toList ∧ digits ≠ [] ∧
      digits.all Char.isDigit ∧ inInt8Range micros then some micros
  else none

/-- Hours, minutes and seconds, and the digits of a fraction of a second, if
there is one. -/
def intervalText (micros : ℤ) : String :=
  let size := micros.natAbs
  let fraction := (printed 6 (size % 1000000)).rdropWhile (· = '0')
  String.ofList ((if micros < 0 then ['-'] else []) ++
    printed 2 (size / 3600000000) ++ ':' :: printed 2 (size / 60000000 % 60) ++
    ':' :: printed 2 (size / 1000000 % 60) ++
    if size % 1000000 = 0 then [] else '.' :: fraction)

example : intervalText (intervalInput (intervalToString 5415)).get! =
    "01:30:15" := by decide +kernel

/-! ## What is written -/

theorem exists_printed (width value : ℕ) :
    ∃ digit digits, printed width value = digit :: digits ∧
      digit.isDigit = true := by
  have hnonempty : Nat.toDigits 10 value ≠ [] := Nat.toDigits_ne_nil
  cases hprinted : printed width value with
  | nil =>
      rw [printed, List.leftpad, List.append_eq_nil_iff] at hprinted
      exact absurd hprinted.2 hnonempty
  | cons digit digits =>
      have hmem : digit ∈ printed width value := by
        rw [hprinted]
        exact List.mem_cons_self
      exact ⟨digit, digits, rfl, isDigit_of_mem_printed hmem⟩

theorem ne_blank_of_mem_toStringInteger {seconds : ℤ} {character : Char}
    (hmem : character ∈ toStringInteger seconds) : character ≠ ' ' := by
  have hdigit : ∀ {digit : Char}, digit ∈ printed 1 seconds.natAbs →
      digit ≠ ' ' := by
    rintro digit hprinted rfl
    exact absurd (isDigit_of_mem_printed hprinted) (by decide)
  rw [toStringInteger] at hmem
  split at hmem
  · rcases List.mem_cons.mp hmem with rfl | hprinted
    · decide
    · exact hdigit hprinted
  · exact hdigit hmem

theorem head?_toStringInteger (seconds : ℤ) :
    (toStringInteger seconds).head? = some '-' ↔ seconds < 0 := by
  rw [toStringInteger]
  split
  · next hnegative => exact iff_of_true rfl hnegative
  · next hnonneg =>
      obtain ⟨digit, digits, hprinted, hdigit⟩ :=
        exists_printed 1 seconds.natAbs
      apply iff_of_false _ hnonneg
      rw [hprinted, List.head?_cons, Option.some.injEq]
      rintro rfl
      exact absurd hdigit (by decide)

theorem digits_toStringInteger (seconds : ℤ) :
    (if seconds < 0 then (toStringInteger seconds).tail
      else toStringInteger seconds) = printed 1 seconds.natAbs := by
  rw [toStringInteger]
  split <;> rfl

/-- The server takes the seconds for what they are if their microseconds have
64 bits. -/
theorem intervalInput_intervalToString (seconds : ℤ) :
    intervalInput (intervalToString seconds) =
      if inInt8Range (seconds * 1000000) then some (seconds * 1000000)
      else none := by
  have hnumber : ∀ character ∈ toStringInteger seconds,
      decide (character ≠ ' ') = true :=
    fun _ hmem => decide_eq_true (ne_blank_of_mem_toStringInteger hmem)
  have htake : (toStringInteger seconds ++ " seconds".toList).takeWhile
      (· ≠ ' ') = toStringInteger seconds := by
    rw [List.takeWhile_append_of_pos hnumber]
    exact List.append_nil _
  have hdrop : (toStringInteger seconds ++ " seconds".toList).dropWhile
      (· ≠ ' ') = " seconds".toList :=
    List.dropWhile_append_of_pos hnumber
  have hdigits : (printed 1 seconds.natAbs).all Char.isDigit = true :=
    List.all_eq_true.mpr fun _ => isDigit_of_mem_printed
  have hnonempty : printed 1 seconds.natAbs ≠ [] := by
    obtain ⟨digit, digits, hprinted, -⟩ := exists_printed 1 seconds.natAbs
    rw [hprinted]
    exact List.cons_ne_nil _ _
  have hmicros : (if seconds < 0 then
      -((Nat.ofDigitChars 10 (printed 1 seconds.natAbs) 0 : ℤ) * 1000000)
      else (Nat.ofDigitChars 10 (printed 1 seconds.natAbs) 0 : ℤ) * 1000000) =
        seconds * 1000000 := by
    rw [ofDigitChars_printed]
    split <;> omega
  simp only [intervalInput, intervalToString, String.toList_ofList, htake,
    hdrop, head?_toStringInteger, digits_toStringInteger, hmicros, hdigits]
  simp [hnonempty]

/-! ## What is read -/

/-- The number ends at the first colon. -/
theorem leadingNumber_hours (hours : ℕ) (rest : List Char) :
    leadingNumber (printed 2 hours ++ ':' :: rest) = some (hours : ℤ) := by
  obtain ⟨digit, digits, hprinted, -⟩ := exists_printed 2 hours
  have hdigits : ∀ character ∈ printed 2 hours, character.isDigit = true :=
    fun _ => isDigit_of_mem_printed
  have htaken : (printed 2 hours ++ ':' :: rest).takeWhile Char.isDigit =
      printed 2 hours := by
    rw [List.takeWhile_append_of_pos hdigits,
      List.takeWhile_cons_of_neg (by decide), List.append_nil]
  rw [leadingNumber, htaken, if_neg (by rw [hprinted]; simp),
    ofDigitChars_printed]

theorem stringToInterval_of_isDigit (unset : ℤ) {digit : Char}
    (hdigit : digit.isDigit = true) (text : List Char) :
    stringToInterval unset (String.ofList (digit :: text)) =
      min (2 ^ 63 - 1) ((leadingNumber (digit :: text)).getD 0) := by
  rw [stringToInterval, String.toList_ofList,
    skipSpaces_of_visible (isWhitespace_of_isDigit hdigit)]
  split
  · next hempty => cases hempty
  · next hminus =>
      obtain ⟨rfl, -⟩ := List.cons.inj hminus
      exact absurd hdigit (by decide)
  · next hplus =>
      obtain ⟨rfl, -⟩ := List.cons.inj hplus
      exact absurd hdigit (by decide)
  · rfl

/-- Of an interval its hours are read. -/
theorem stringToInterval_intervalText (unset : ℤ) {micros : ℤ}
    (hrange : inInt8Range micros = true) :
    stringToInterval unset (intervalText micros) =
      if micros < 0 then -((micros.natAbs / 3600000000 : ℕ) : ℤ)
      else ((micros.natAbs / 3600000000 : ℕ) : ℤ) := by
  have hbounds : -(2 ^ 63) ≤ micros ∧ micros < 2 ^ 63 := by
    simpa [inInt8Range] using hrange
  by_cases hnegative : micros < 0
  · rw [if_pos hnegative, intervalText, if_pos hnegative]
    simp only [List.append_assoc, List.cons_append, List.nil_append,
      stringToInterval, String.toList_ofList,
      skipSpaces_of_visible (show '-'.isWhitespace = false by decide),
      leadingNumber_hours, Option.getD_some]
    omega
  · obtain ⟨digit, digits, hprinted, hdigit⟩ :=
      exists_printed 2 (micros.natAbs / 3600000000)
    have hhours := leadingNumber_hours (micros.natAbs / 3600000000)
    rw [hprinted] at hhours
    simp only [List.cons_append] at hhours
    rw [if_neg hnegative, intervalText, if_neg hnegative]
    simp only [hprinted, List.append_assoc, List.cons_append,
      List.nil_append, stringToInterval_of_isDigit unset hdigit, hhours,
      Option.getD_some]
    omega

/-- A number of seconds comes back from the column only if it is zero. -/
theorem stringToInterval_seconds_iff (unset : ℤ) {seconds : ℤ}
    (hrange : inInt8Range (seconds * 1000000) = true) :
    stringToInterval unset (intervalText (seconds * 1000000)) = seconds ↔
      seconds = 0 := by
  rw [stringToInterval_intervalText unset hrange]
  split <;> omega

end Datafeed.Storage
