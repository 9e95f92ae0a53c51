import Datafeed.Core.Calendar
import Datafeed.Storage.TimestampText

/-!
# Timestamps there and back

A timestamp is written with `gmtime`, in UTC, and read with `mktime`, in the
local time of the host.  The fraction of a second is read from the text up to
the next blank, and the server puts the zone behind it without one.
-/

namespace Datafeed.Storage

open Datafeed.Calendar (gmtime timegm)

/-- From here on milliseconds overflow in `std::chrono::system_clock`, which
counts nanoseconds. -/
def clockLimit : ℕ := 9223372036854

/-- A fixed offset of the local time from UTC, positive to the east.  In `TZ`
it has less than 168 hours. -/
structure UtcOffset where
  seconds : ℤ
  bounds : -604800 < seconds ∧ seconds < 604800

def utc : UtcOffset := ⟨0, by decide⟩

/-- The fields that `put_time` prints. -/
def brokenDown (tm : Calendar.Tm) : Tm where
  year := tm.year.toNat
  month := tm.month.toNat
  day := tm.mday.toNat
  hour := tm.hour.toNat
  minute := tm.min.toNat
  second := tm.sec.toNat

/-- `std::mktime` on a host whose local time has a fixed offset. -/
def mktime (offset : UtcOffset) (tm : Tm) : ℤ :=
  timegm
    { year := tm.year
      month := tm.month
      mday := tm.day
      hour := tm.hour
      min := tm.minute
      sec := tm.second
      wday := 0 } - offset.seconds

def timestampToString (ms : ℕ) : String :=
  let tm := brokenDown (gmtime (ms / 1000 : ℕ))
  String.ofList (tm.dateTime ++ '.' :: printed 3 (ms % 1000))

/-! ## The calendar -/

theorem brokenDown_day_bounds (seconds : ℤ) :
    (1 ≤ (brokenDown (gmtime seconds)).month ∧
      (brokenDown (gmtime seconds)).month ≤ 12) ∧
    1 ≤ (brokenDown (gmtime seconds)).day ∧
      (brokenDown (gmtime seconds)).day ≤ 31 := by
  have hdate := Calendar.civilFromDays_bounds (seconds / Calendar.secondsPerDay)
  simp only [brokenDown, gmtime]
  omega

theorem brokenDown_time_bounds (seconds : ℤ) :
    (brokenDown (gmtime seconds)).hour ≤ 23 ∧
      (brokenDown (gmtime seconds)).minute ≤ 59 ∧
      (brokenDown (gmtime seconds)).second ≤ 59 := by
  simp only [brokenDown, gmtime, Calendar.secondsPerDay]
  omega

theorem gmtime_year_bounds {ms : ℕ} (hms : ms < clockLimit) :
    0 ≤ (gmtime (ms / 1000 : ℕ)).year ∧
      (gmtime (ms / 1000 : ℕ)).year ≤ 9999 := by
  rw [clockLimit] at hms
  apply Calendar.civilFromDays_year_bounds
  · rw [Calendar.secondsPerDay]
    omega
  · rw [Calendar.secondsPerDay, Calendar.daysPerEra]
    omega

theorem brokenDown_inBounds {ms : ℕ} (hms : ms < clockLimit) :
    (brokenDown (gmtime (ms / 1000 : ℕ))).InBounds := by
  have hyear := gmtime_year_bounds hms
  have hday := brokenDown_day_bounds (ms / 1000 : ℕ)
  have htime := brokenDown_time_bounds (ms / 1000 : ℕ)
  refine ⟨?_, hday.1, hday.2, htime.1, htime.2.1, htime.2.2⟩
  simp only [brokenDown]
  omega

/-- `mktime` undoes `gmtime` but for the offset. -/
theorem mktime_brokenDown (offset : UtcOffset) {ms : ℕ}
    (hms : ms < clockLimit) :
    mktime offset (brokenDown (gmtime (ms / 1000 : ℕ))) =
      (ms / 1000 : ℕ) - offset.seconds := by
  have hyear := gmtime_year_bounds hms
  have hday := Calendar.civilFromDays_bounds
    ((ms / 1000 : ℕ) / Calendar.secondsPerDay)
  have hback := Calendar.timegm_gmtime (ms / 1000 : ℕ)
  have htime : 0 ≤ (gmtime (ms / 1000 : ℕ)).hour ∧
      0 ≤ (gmtime (ms / 1000 : ℕ)).min ∧ 0 ≤ (gmtime (ms / 1000 : ℕ)).sec := by
    simp only [gmtime, Calendar.secondsPerDay]
    omega
  have hmonth : 0 ≤ (gmtime (ms / 1000 : ℕ)).month := by
    simp only [gmtime]
    omega
  have hmday : 0 ≤ (gmtime (ms / 1000 : ℕ)).mday := by
    simp only [gmtime]
    omega
  generalize gmtime (ms / 1000 : ℕ) = tm at *
  rw [mktime, brokenDown, Int.toNat_of_nonneg hyear.1,
    Int.toNat_of_nonneg hmonth, Int.toNat_of_nonneg hmday,
    Int.toNat_of_nonneg htime.1, Int.toNat_of_nonneg htime.2.1,
    Int.toNat_of_nonneg htime.2.2, ← hback]
  rfl

/-! ## The fraction -/

theorem fractionMillis_printed {millis : ℕ} (hmillis : millis < 1000) :
    fractionMillis ('.' :: printed 3 millis) = some ((millis : ℕ) : ℤ) := by
  have hlength : (printed 3 millis).length = 3 :=
    length_printed (by decide) hmillis
  have hdigits : ∀ character ∈ printed 3 millis, character.isDigit = true :=
    fun _ => isDigit_of_mem_printed
  have hvalue := ofDigitChars_printed 3 millis
  generalize printed 3 millis = digits at *
  match digits, hlength with
  | digit :: digits, hlength =>
      have hvisible : ∀ character ∈ digits, character.isWhitespace = false :=
        fun character hmem => isWhitespace_of_isDigit
          (hdigits character (List.mem_cons_of_mem _ hmem))
      rw [fractionMillis_point (hdigits digit List.mem_cons_self) hvisible,
        hlength, List.take_of_length_le (by omega), Nat.sub_self,
        List.replicate_zero, stoi_digits (List.cons_ne_nil _ _) hdigits rfl,
        hvalue]

/-! ## What the process writes -/

theorem stringToTimestamp_timestampToString (offset : UtcOffset) {ms : ℕ}
    (hms : ms < clockLimit) :
    stringToTimestamp (mktime offset) (timestampToString ms) =
      some ((toMillis (fromTimeT ((ms / 1000 : ℕ) - offset.seconds)) +
        (ms % 1000 : ℕ)) % 2 ^ 64).toNat := by
  rw [stringToTimestamp, timestampToString, String.toList_ofList,
    getTime_dateTime (brokenDown_inBounds hms)]
  simp only [Option.bind_eq_bind, Option.bind_some,
    fractionMillis_printed (Nat.mod_lt ms (show 0 < 1000 by decide)),
    mktime_brokenDown offset hms]
  rfl

/-- The offset is too small for the result to come round to the same value,
before the epoch or past the end of the clock. -/
theorem toNat_emod_eq_iff {ms : ℕ} (hms : ms < clockLimit)
    (offset : UtcOffset) :
    ((toMillis (fromTimeT ((ms / 1000 : ℕ) - offset.seconds)) +
        (ms % 1000 : ℕ)) % 2 ^ 64).toNat = ms ↔
      offset.seconds = 0 := by
  have hbounds := offset.bounds
  have hlimit : ms < 9223372036854 := hms
  by_cases hlate : 9223372036 < (ms / 1000 : ℕ) - offset.seconds
  · rw [toMillis_fromTimeT_late hlate (by omega)]
    apply iff_of_false
    · rw [← Int.add_emod_right, Int.emod_eq_of_lt (by omega) (by omega)]
      omega
    · omega
  · rw [toMillis_fromTimeT (by omega) (by omega)]
    have hsum : 1000 * ((ms / 1000 : ℕ) - offset.seconds) + (ms % 1000 : ℕ) =
        ms - 1000 * offset.seconds := by omega
    rw [hsum]
    constructor
    · intro hread
      by_cases hearly : ms < 1000 * offset.seconds
      · rw [← Int.add_emod_right, Int.emod_eq_of_lt (by omega) (by omega)]
          at hread
        omega
      · rw [Int.emod_eq_of_lt (by omega) (by omega)] at hread
        omega
    · intro hutc
      rw [hutc, Int.emod_eq_of_lt (by omega) (by omega)]
      omega

/-- A timestamp comes back from its text exactly where the local time is
UTC. -/
theorem timestamp_roundTrip_iff_utc {ms : ℕ} (hms : ms < clockLimit)
    (offset : UtcOffset) :
    stringToTimestamp (mktime offset) (timestampToString ms) = some ms ↔
      offset.seconds = 0 := by
  rw [stringToTimestamp_timestampToString offset hms, Option.some.injEq]
  exact toNat_emod_eq_iff hms offset

theorem timestamp_roundTrip_iff_utc_leapDay :
    951827696789 < clockLimit ∧
      (stringToTimestamp (mktime utc) (timestampToString 951827696789) =
        some 951827696789 ↔ utc.seconds = 0) :=
  ⟨by decide, timestamp_roundTrip_iff_utc (by decide) utc⟩

/-- On a host an hour east of UTC the second day comes back an hour early. -/
theorem timestamp_not_roundTrip_hourEast :
    ¬ ∀ ms < clockLimit, ∀ offset : UtcOffset,
      stringToTimestamp (mktime offset) (timestampToString ms) = some ms := by
  intro hroundTrip
  have hread := hroundTrip 86400000 (by decide) ⟨3600, by decide⟩
  rw [stringToTimestamp_timestampToString _ (by decide),
    Option.some.injEq, toNat_emod_eq_iff (by decide)] at hread
  exact absurd hread (by decide)

/-! ## What the server prints -/

/-- The digits of a fraction without the zeros at their end. -/
def fractionDigits (millis : ℕ) : List Char :=
  (printed 3 millis).rdropWhile (· = '0')

theorem isDigit_of_mem_fractionDigits {millis : ℕ} {character : Char}
    (hmem : character ∈ fractionDigits millis) : character.isDigit = true :=
  isDigit_of_mem_printed ((List.rdropWhile_prefix _ _).subset hmem)

/-- The text of a `TIMESTAMPTZ` value in a session whose time zone is UTC. -/
def timestamptzText (ms : ℕ) : PrintedTime where
  tm := brokenDown (gmtime (ms / 1000 : ℕ))
  fraction := fractionDigits (ms % 1000)
  zoneSign := '+'
  zone := ['0', '0']
  month_bounds := (brokenDown_day_bounds _).1
  day_bounds := (brokenDown_day_bounds _).2
  hour_le := (brokenDown_time_bounds _).1
  minute_le := (brokenDown_time_bounds _).2.1
  second_le := (brokenDown_time_bounds _).2.2
  fraction_digits := fun _ => isDigit_of_mem_fractionDigits
  zoneSign_sign := .inl rfl
  zone_printable := by
    intro character hmem
    obtain rfl : character = '0' := by simpa using hmem
    decide

example : (timestamptzText 1500).text = "1970-01-01 00:00:01.5+00" := by
  decide +kernel

/-- The zeros at the end of the fraction are worth a power of ten. -/
theorem exists_pow_fractionDigits (millis : ℕ) :
    ∃ zeros, fractionDigits millis ++ List.replicate zeros '0' =
        printed 3 millis ∧
      millis = 10 ^ zeros * Nat.ofDigitChars 10 (fractionDigits millis) 0 := by
  have hsplit : fractionDigits millis ++
      (printed 3 millis).rtakeWhile (· = '0') = printed 3 millis :=
    List.rdropWhile_append_rtakeWhile
  have hzeros : (printed 3 millis).rtakeWhile (· = '0') =
      List.replicate ((printed 3 millis).rtakeWhile (· = '0')).length '0' := by
    apply List.eq_replicate_iff.mpr
    refine ⟨rfl, fun character hmem => ?_⟩
    have hzero := List.mem_rtakeWhile_imp hmem
    exact of_decide_eq_true hzero
  rw [hzeros] at hsplit
  refine ⟨_, hsplit, ?_⟩
  have hvalue := ofDigitChars_printed 3 millis
  rw [← hsplit, Nat.ofDigitChars_append,
    Nat.ofDigitChars_replicate_zero] at hvalue
  exact hvalue.symm

/-- A number whose last digit is not zero is no multiple of ten. -/
theorem ofDigitChars_concat_mod_ten {digits : List Char} {digit : Char}
    (hdigit : digit.isDigit = true) (hzero : digit ≠ '0') :
    Nat.ofDigitChars 10 (digits ++ [digit]) 0 % 10 ≠ 0 := by
  rw [Nat.ofDigitChars_append, Nat.ofDigitChars_cons, Nat.ofDigitChars_nil]
  have hvalue : digit.toNat ≠ '0'.toNat := fun heq =>
    hzero (Char.toNat_inj.mp heq)
  have hbounds := Char.isDigit_iff_toNat.mp hdigit
  have hcodes : '0'.toNat = 48 ∧ '9'.toNat = 57 := ⟨rfl, rfl⟩
  omega

/-- The digits that are left have the value of the fraction only if none were
taken away. -/
theorem ofDigitChars_fractionDigits_iff (millis : ℕ) :
    Nat.ofDigitChars 10 (fractionDigits millis) 0 = millis ↔
      millis % 10 ≠ 0 ∨ millis = 0 := by
  obtain ⟨zeros, hdigits, hvalue⟩ := exists_pow_fractionDigits millis
  cases zeros with
  | zero =>
      rw [Nat.pow_zero, Nat.one_mul] at hvalue
      apply iff_of_true hvalue.symm
      by_cases hempty : fractionDigits millis = []
      · right
        rw [hvalue, hempty]
        rfl
      · left
        have hlast := List.rdropWhile_last_not _ _ hempty
        have hconcat := List.dropLast_append_getLast hempty
        rw [hvalue, ← hconcat]
        exact ofDigitChars_concat_mod_ten
          (isDigit_of_mem_fractionDigits (List.getLast_mem hempty))
          (fun hzero => hlast (decide_eq_true hzero))
  | succ zeros =>
      rw [Nat.pow_succ'] at hvalue
      rw [Nat.mul_assoc] at hvalue
      have hle := Nat.le_mul_of_pos_left
        (Nat.ofDigitChars 10 (fractionDigits millis) 0)
        (show 0 < 10 ^ zeros from Nat.pow_pos (by decide))
      generalize 10 ^ zeros * Nat.ofDigitChars 10 (fractionDigits millis) 0 =
        product at *
      omega

theorem length_fractionDigits_le {millis : ℕ} (hmillis : millis < 1000) :
    (fractionDigits millis).length ≤ 3 := by
  have hprefix : fractionDigits millis <+: printed 3 millis :=
    List.rdropWhile_prefix _ _
  exact hprefix.length_le.trans (length_printed (by decide) hmillis).le

theorem ofDigitChars_fractionDigits_le (millis : ℕ) :
    Nat.ofDigitChars 10 (fractionDigits millis) 0 ≤ millis := by
  obtain ⟨zeros, -, hvalue⟩ := exists_pow_fractionDigits millis
  exact (Nat.le_mul_of_pos_left _ (Nat.pow_pos (by decide))).trans hvalue.ge

/-- The digits stop at the sign of the zone. -/
theorem takeWhile_isDigit_zone (time : PrintedTime) (length : ℕ) :
    ((time.zoneSign :: time.zone).take length).takeWhile Char.isDigit =
      [] := by
  have hsign : ¬time.zoneSign.isDigit = true := by
    rcases time.zoneSign_sign with hplus | hminus
    · rw [hplus]
      decide
    · rw [hminus]
      decide
  cases length with
  | zero => rfl
  | succ length => exact List.takeWhile_cons_of_neg hsign

/-- With the zone behind it a fraction is never padded: `stoi` reads the digits
there are. -/
theorem fractionMillis_zone (time : PrintedTime)
    (hfraction : time.fraction.length ≤ 3) (hzone : 2 ≤ time.zone.length) :
    fractionMillis (time.fractionText ++ time.zoneSign :: time.zone) =
      some ((Nat.ofDigitChars 10 time.fraction 0 : ℕ) : ℤ) := by
  have hdigits := time.fraction_digits
  cases hdigitsOf : time.fraction with
  | nil =>
      rw [fractionMillis_of_nil hdigitsOf]
      rfl
  | cons digit digits =>
      rw [hdigitsOf] at hfraction hdigits
      have hnoPadding : 3 - (digit :: digits ++ time.zoneSign ::
          time.zone).length = 0 := by
        rw [List.length_append, List.length_cons, List.length_cons]
        omega
      rw [fractionMillis_of_cons hdigitsOf, hnoPadding, List.replicate_zero,
        List.append_nil, List.take_append, List.take_of_length_le hfraction]
      exact stoi_digits (List.cons_ne_nil _ _) hdigits
        (takeWhile_isDigit_zone time _)

theorem fractionMillis_timestamptzText (ms : ℕ) :
    fractionMillis ((timestamptzText ms).fractionText ++
        (timestamptzText ms).zoneSign :: (timestamptzText ms).zone) =
      some ((Nat.ofDigitChars 10 (fractionDigits (ms % 1000)) 0 : ℕ) : ℤ) :=
  fractionMillis_zone (timestamptzText ms)
    (length_fractionDigits_le (Nat.mod_lt ms (by decide))) le_rfl

/-- In UTC a timestamp is read right exactly where its fraction of a second is
zero or has three digits. -/
theorem stringToTimestamp_timestamptzText_iff {ms : ℕ}
    (hms : ms < clockLimit) :
    stringToTimestamp (mktime utc) (timestamptzText ms).text = some ms ↔
      ms % 10 ≠ 0 ∨ ms % 1000 = 0 := by
  have hfraction := ofDigitChars_fractionDigits_iff (ms % 1000)
  have hle := ofDigitChars_fractionDigits_le (ms % 1000)
  have hlimit : ms < 9223372036854 := hms
  have hseconds : mktime utc (timestamptzText ms).tm = (ms / 1000 : ℕ) :=
    (mktime_brokenDown utc hms).trans (Int.sub_zero _)
  rw [stringToTimestamp, getTime_text (brokenDown_inBounds hms).year_le]
  simp only [Option.bind_eq_bind, Option.bind_some,
    fractionMillis_timestamptzText, hseconds]
  rw [toMillis_fromTimeT (by omega) (by omega)]
  generalize Nat.ofDigitChars 10 (fractionDigits (ms % 1000)) 0 = value at *
  rw [Int.emod_eq_of_lt (by omega) (by omega), Option.pure_def,
    Option.some.injEq]
  omega

theorem stringToTimestamp_timestamptzText_iff_millis :
    951827696789 < clockLimit ∧
      (stringToTimestamp (mktime utc) (timestamptzText 951827696789).text =
          some 951827696789 ↔
        951827696789 % 10 ≠ 0 ∨ 951827696789 % 1000 = 0) :=
  ⟨by decide, stringToTimestamp_timestamptzText_iff (by decide)⟩

/-- The nanoseconds of the year 9999 overflow. -/
example : stringToTimestamp (mktime utc) "9999-12-31 00:00:00+00" =
    some 18446739221506919683 := by decide +kernel

/-- Half a second after the epoch is read as five milliseconds after it. -/
theorem stringToTimestamp_timestamptzText_half :
    stringToTimestamp (mktime utc) (timestamptzText 500).text = some 5 ∧
      ¬ ∀ ms < clockLimit,
        stringToTimestamp (mktime utc) (timestamptzText ms).text = some ms := by
  have hread : stringToTimestamp (mktime utc) (timestamptzText 500).text =
      some 5 := by decide +kernel
  refine ⟨hread, fun hall => ?_⟩
  rw [hall 500 (by decide)] at hread
  cases hread

end Datafeed.Storage
