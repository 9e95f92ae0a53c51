import Datafeed.Backtest.Replay
import Datafeed.Core.Calendar
import Datafeed.Server.OnRead
import Datafeed.Storage.TimestampText

/-!
# The window of a replay

From the text of a `_Backtest` message to the bounds of the query for its
candles: the date range that `on_read` cuts out of the message, its split at a
comma, and the milliseconds of the two dates.
-/

namespace Datafeed.Backtest

open Calendar Text Server Storage

/-- `std::get_time(&tm, "%Y-%m-%d")`: year, month and day. -/
def getDate (text : List Char) : Option (ℕ × ℕ × ℕ) := do
  let (year, text) ← number 4 0 9999 (skipSpaces text)
  let text ← literal '-' text
  let (month, text) ← number 2 1 12 text
  let text ← literal '-' text
  let (day, _) ← number 2 1 31 text
  return (year, month, day)

/-- `date_to_epoch_ms`, `none` where it throws. -/
def dateToEpochMs (date : String) : Option ℕ :=
  (getDate date.toList).map fun (year, month, day) =>
    let t := timegm
      { year := year
        month := month
        mday := day
        hour := 0
        min := 0
        sec := 0
        wday := 0 }
    (t * 1000 % 2 ^ 64).toNat

/-- The bounds of `query_historical_data`, both included. -/
def queryWindow (selection : Selection) : Option (ℕ × ℕ) := do
  let startTs ← dateToEpochMs selection.startDate
  let endTs ← dateToEpochMs selection.endDate
  return (startTs, (endTs + 86400000 - 1) % 2 ^ 64)

/-- The windows of the replays that a message of a session starts. -/
def replayWindows (config : Config) (adapter : Bool) (msg : String) :
    List (Option (ℕ × ℕ)) :=
  (onReadCalls config adapter msg).filterMap fun
    | .startReplay dateRange => some (queryWindow (selection dateRange [] ""))
    | _ => none

/-! ## Dates -/

/-- A date of the years 2000 to 2099. -/
@[ext]
structure IsoDate where
  year : ℕ
  month : ℕ
  day : ℕ
  year_bounds : 2000 ≤ year ∧ year ≤ 2099
  month_bounds : 1 ≤ month ∧ month ≤ 12
  day_bounds : 1 ≤ day ∧ (day : ℤ) ≤ daysInMonth year month

namespace IsoDate

def text (date : IsoDate) : List Char :=
  printed 4 date.year ++ '-' :: printed 2 date.month ++
    '-' :: printed 2 date.day

/-- Days since the epoch. -/
def days (date : IsoDate) : ℤ :=
  daysFromCivil date.year date.month date.day

def startMs (date : IsoDate) : ℕ := (date.days * 86400000).toNat

def lastMs (date : IsoDate) : ℕ := date.startMs + 86399999

variable (date : IsoDate)

theorem day_le : date.day ≤ 31 := by
  have hday := date.day_bounds.2
  rw [daysInMonth] at hday
  split at hday
  · split at hday <;> omega
  · split at hday <;> omega

/-- The days of these years. -/
theorem days_bounds : 0 ≤ date.days ∧ date.days ≤ 100000 := by
  have hyear := date.year_bounds
  have hmonth := date.month_bounds
  have hday := date.day_bounds.1
  have hle := date.day_le
  simp only [days, daysFromCivil, daysBeforeYear, daysBeforeMonth, daysPerEra,
    epochDay]
  split <;> omega

theorem days_injective : Function.Injective days := by
  intro first second hsame
  have hcivil : ∀ date : IsoDate, civilFromDays date.days =
      ((date.year : ℤ), (date.month : ℤ), (date.day : ℤ)) := by
    intro date
    have hmonth := date.month_bounds
    have hday := date.day_bounds
    exact civilFromDays_daysFromCivil (by omega) ⟨by omega, hday.2⟩
  have hpair := (hcivil first).symm.trans
    ((congrArg civilFromDays hsame).trans (hcivil second))
  simp only [Prod.mk.injEq, Int.natCast_inj] at hpair
  exact IsoDate.ext hpair.1 hpair.2.1 hpair.2.2

theorem startMs_injective : Function.Injective startMs := by
  intro first second hsame
  have hfirst := first.days_bounds
  have hsecond := second.days_bounds
  apply days_injective
  rw [startMs, startMs] at hsame
  omega

theorem length_text : date.text.length = 10 := by
  have hyear := date.year_bounds
  have hmonth := date.month_bounds
  have hle := date.day_le
  simp only [text, List.length_append, List.length_cons]
  rw [length_printed (by decide) (by omega),
    length_printed (by decide) (by omega), length_printed (by decide) (by omega)]

theorem isDigit_or_dash {c : Char} (hmem : c ∈ date.text) :
    c.isDigit = true ∨ c = '-' := by
  simp only [text, List.mem_append, List.mem_cons] at hmem
  rcases hmem with (hyear | rfl | hmonth) | rfl | hday
  · exact Or.inl (isDigit_of_mem_printed hyear)
  · exact Or.inr rfl
  · exact Or.inl (isDigit_of_mem_printed hmonth)
  · exact Or.inr rfl
  · exact Or.inl (isDigit_of_mem_printed hday)

theorem last_isDigit : ∃ c, date.text.getLast? = some c ∧ c.isDigit = true := by
  have hle := date.day_le
  have hne : printed 2 date.day ≠ [] := by
    apply List.ne_nil_of_length_pos
    rw [length_printed (by decide) (by omega)]
    decide
  refine ⟨(printed 2 date.day).getLast hne, ?_,
    isDigit_of_mem_printed (List.getLast_mem hne)⟩
  rw [text, List.append_cons, List.getLast?_append_of_ne_nil _ hne,
    List.getLast?_eq_some_getLast hne]

/-- The dates begin with the characters that `on_read` looks for. -/
theorem exists_text : ∃ rest, date.text = "20".toList ++ rest := by
  have hcentury : ∀ year < 100,
      (printed 4 (2000 + year)).take 2 = "20".toList := by decide +kernel
  have hyear := date.year_bounds
  have htake := hcentury (date.year - 2000) (by omega)
  rw [Nat.add_sub_cancel' hyear.1] at htake
  refine ⟨(printed 4 date.year).drop 2 ++ '-' :: printed 2 date.month ++
    '-' :: printed 2 date.day, ?_⟩
  rw [← htake, text]
  simp only [← List.append_assoc, List.take_append_drop]

theorem getDate_text : getDate date.text =
    some (date.year, date.month, date.day) := by
  have hyear := date.year_bounds
  have hmonth := date.month_bounds
  have hday := date.day_bounds.1
  have hle := date.day_le
  simp only [text, List.append_assoc, List.cons_append, getDate,
    skipSpaces_printed]
  rw [number_printed (by decide) (by omega) (by omega) (by omega)]
  simp only [Option.bind_eq_bind, Option.bind_some, literal, if_true]
  rw [number_printed (by decide) hmonth.1 hmonth.2 (by omega)]
  simp only [Option.bind_some, if_true]
  have hlast : number 2 1 31 (printed 2 date.day ++ []) = some (date.day, []) :=
    number_printed (by decide) hday hle (by omega) []
  rw [List.append_nil] at hlast
  rw [hlast]
  rfl

theorem timegm_date :
    timegm
        { year := date.year
          month := date.month
          mday := date.day
          hour := 0
          min := 0
          sec := 0
          wday := 0 } = date.days * 86400 := by
  simp only [timegm, days, secondsPerDay]
  omega

theorem dateToEpochMs_text :
    dateToEpochMs (String.ofList date.text) = some date.startMs := by
  have hdays := date.days_bounds
  have hmod : date.days * 86400 * 1000 % 2 ^ 64 = date.days * 86400000 := by
    rw [Int.emod_eq_of_lt (by omega) (by omega)]
    omega
  rw [dateToEpochMs, String.toList_ofList, getDate_text, Option.map_some]
  simp only [timegm_date, hmod]
  rfl

/-- A selection of one date is that day. -/
theorem queryWindow_text (symbols : List String) (timeframe : String) :
    queryWindow (selection (String.ofList date.text) symbols timeframe) =
      some (date.startMs, date.lastMs) := by
  have hdays := date.days_bounds
  have hcomma : find "," (String.ofList date.text) = none := by
    refine find_character_none rfl (c := ',') fun hmem => ?_
    rw [String.toList_ofList] at hmem
    rcases date.isDigit_or_dash hmem with hdigit | hdash
    · exact absurd hdigit (by decide)
    · exact absurd hdash (by decide)
  have hbound : date.startMs + 86400000 - 1 < 2 ^ 64 := by
    rw [startMs]
    omega
  have hlast : (date.startMs + 86400000 - 1) % 2 ^ 64 = date.lastMs := by
    rw [Nat.mod_eq_of_lt hbound, lastMs]
    omega
  rw [queryWindow]
  simp only [selection, hcomma, dateToEpochMs_text, Option.bind_eq_bind,
    Option.bind_some, hlast]
  rfl

end IsoDate

/-! ## The message -/

/-- The JSON parser takes it as the end of its input. -/
def nul : Char := '\x00'

/-- A `_Backtest` message with one date, or two. -/
structure Message where
  front : String
  first : IsoDate
  last : Option IsoDate
  backtest : contains front "_Backtest" = true
  century : contains front "20" = false

namespace Message

variable (message : Message)

/-- What follows the first date. -/
def rest : List Char :=
  match message.last with
  | some date => ',' :: date.text
  | none => []

def text : String :=
  String.ofList (message.front.toList ++ message.first.text ++ message.rest)

/-- The last day that the message asks for. -/
def lastDate : IsoDate := message.last.getD message.first

theorem toList_text : message.text.toList =
    message.front.toList ++ message.first.text ++ message.rest :=
  String.toList_ofList

theorem find_century : find "20" message.text =
    some message.front.toList.length := by
  obtain ⟨rest, hrest⟩ := message.first.exists_text
  have htext : message.text.toList = message.front.toList ++ "20".toList ++
      (rest ++ message.rest) := by
    rw [toList_text, hrest]
    simp only [List.append_assoc]
  have hword : "20".toList = ['2'] ++ ['0'] := rfl
  refine find_word hword (by decide) htext ?_
  rw [← contains_iff, message.century]
  exact Bool.false_ne_true

/-- Ten characters are cut out, the first date. -/
theorem dateRange_text :
    dateRange message.text = String.ofList message.first.text := by
  have hlength := message.first.length_text
  have hlong : message.front.toList.length + 10 ≤
      message.text.toList.length := by
    rw [toList_text, List.length_append, List.length_append, hlength]
    omega
  rw [dateRange, find_century]
  simp only [hlong, if_true]
  rw [substr, toList_text, List.append_assoc, List.drop_left,
    List.take_left' hlength]

theorem dates_characters {c : Char}
    (hmem : c ∈ message.first.text ++ message.rest) :
    c.isDigit = true ∨ c = '-' ∨ c = ',' := by
  rw [List.mem_append] at hmem
  rcases hmem with hfirst | hrest
  · exact (message.first.isDigit_or_dash hfirst).imp_right Or.inl
  · rw [rest] at hrest
    split at hrest
    · next date _ =>
        rcases List.mem_cons.mp hrest with hcomma | hlast
        · exact Or.inr (Or.inr hcomma)
        · exact (date.isDigit_or_dash hlast).imp_right Or.inl
    · cases hrest

/-- The name of a mode is not in the dates. -/
theorem contains_text_iff {word : String} (hne : word.toList ≠ [])
    (hword : (word.toList.all fun c =>
      !c.isDigit && c != '-' && c != ',') = true) :
    contains message.text word = true ↔ contains message.front word = true := by
  rw [contains_iff, contains_iff, toList_text, List.append_assoc]
  refine infix_append_iff_of_disjoint hne fun c hc hmem => ?_
  have hother := List.all_eq_true.mp hword c hmem
  simp only [Bool.and_eq_true, Bool.not_eq_true', bne_iff_ne] at hother
  obtain ⟨⟨hdigit, hdash⟩, hcomma⟩ := hother
  rcases message.dates_characters hc with hnumber | hother | hother
  · exact absurd hnumber (by simp [hdigit])
  · exact hdash hother
  · exact hcomma hother

theorem contains_live : contains message.text "_Live" = true ↔
    contains message.front "_Live" = true :=
  message.contains_text_iff (by decide) (by decide)

theorem contains_backtest : contains message.text "_Backtest" = true :=
  (message.contains_text_iff (by decide) (by decide)).mpr message.backtest

theorem underscore_mem : '_' ∈ message.text.toList := by
  obtain ⟨before, after, htext⟩ := contains_iff.mp message.contains_backtest
  rw [← htext]
  simp

theorem last_isDigit : ∃ c, message.text.toList.getLast? = some c ∧
    c.isDigit = true := by
  have hne : ∀ date : IsoDate, date.text ≠ [] := fun date =>
    List.ne_nil_of_length_pos (by rw [date.length_text]; decide)
  rw [toList_text, rest]
  split
  · next date _ =>
      rw [List.append_cons, List.getLast?_append_of_ne_nil _ (hne date)]
      exact date.last_isDigit
  · rw [List.append_nil, List.getLast?_append_of_ne_nil _ (hne message.first)]
    exact message.first.last_isDigit

theorem nul_notMem (hfront : nul ∉ message.front.toList) :
    nul ∉ message.text.toList := by
  rw [toList_text, List.append_assoc, List.mem_append]
  rintro (hmem | hmem)
  · exact hfront hmem
  · rcases message.dates_characters hmem with hdigit | hother | hother
    · exact absurd hdigit (by decide)
    · exact absurd hother (by decide)
    · exact absurd hother (by decide)

end Message

/-- A JSON text that ends in a digit is a number, which has no underscore. -/
def RefusesText (parse : String → Option Json) : Prop :=
  ∀ msg : String, nul ∉ msg.toList → '_' ∈ msg.toList →
    (∃ c, msg.toList.getLast? = some c ∧ c.isDigit = true) → parse msg = none

/-- The branches for JSON start no replay. -/
theorem startReplay_notMem_jsonCalls {config : Config} {adapter : Bool}
    {msg : String} {calls : List Call}
    (hcalls : jsonCalls config adapter msg = some calls) (dateRange : String) :
    Call.startReplay dateRange ∉ calls := by
  obtain ⟨json, -, hbranch⟩ := Option.bind_eq_some_iff.mp hcalls
  split at hbranch
  · cases hbranch
    simp
  split at hbranch
  · cases hbranch
    simp
  split at hbranch
  · cases hbranch
    simp
  split at hbranch
  · obtain ⟨exchange, -, hswitch⟩ := Option.bind_eq_some_iff.mp hbranch
    split at hswitch
    · obtain ⟨symbols, -, rfl⟩ := Option.map_eq_some_iff.mp hswitch
      simp
    · cases hswitch
      simp
  · cases hbranch

theorem replayWindows_of_jsonCalls {config : Config} {adapter : Bool}
    {msg : String} {calls : List Call}
    (hcalls : jsonCalls config adapter msg = some calls) :
    replayWindows config adapter msg = [] := by
  rw [replayWindows, onReadCalls, hcalls, Option.getD_some,
    List.filterMap_eq_nil_iff]
  intro call hcall
  rcases List.mem_append.mp hcall with hjson | hread
  · cases call with
    | startReplay dateRange =>
        exact absurd hjson (startReplay_notMem_jsonCalls hcalls dateRange)
    | _ => rfl
  · rw [List.mem_singleton.mp hread]

section Replay

variable {config : Config}

/-- Of a message that is not taken for JSON the first date alone is replayed,
unless it switches to live mode. -/
theorem replayWindows_text (hsource : config.backtestSource = true)
    (adapter : Bool) (message : Message)
    (hjson : jsonCalls config adapter message.text = none) :
    replayWindows config adapter message.text =
      if contains message.front "_Live" = true then []
      else [some (message.first.startMs, message.first.lastMs)] := by
  have hsubscribe : (subscribeCalls message.text).filterMap (fun
      | .startReplay dateRange => some (queryWindow (selection dateRange [] ""))
      | _ => none) = [] := by
    rw [subscribeCalls]
    split <;> rfl
  rw [replayWindows, onReadCalls, hjson, Option.getD_none, plainCalls,
    List.filterMap_append, List.filterMap_append, hsubscribe, modeCalls]
  simp only [message.contains_live, message.contains_backtest, if_true, hsource,
    message.dateRange_text]
  split
  · rfl
  · simp [message.first.queryWindow_text]

/-- Without a NUL the message is not taken for JSON. -/
theorem jsonCalls_text_eq_none_iff (hparse : RefusesText config.parse)
    (adapter : Bool) (message : Message) :
    jsonCalls config adapter message.text = none ↔
      (nul ∈ message.front.toList →
        jsonCalls config adapter message.text = none) := by
  refine ⟨fun hnone _ => hnone, fun hnul => ?_⟩
  by_cases hmem : nul ∈ message.front.toList
  · exact hnul hmem
  · rw [jsonCalls, hparse _ (message.nul_notMem hmem) message.underscore_mem
      message.last_isDigit, Option.bind_none]

/-- The replay of a message covers the days it names just when it names one day,
no other mode, and no JSON in front of a NUL. -/
theorem replayWindows_iff (hparse : RefusesText config.parse)
    (hsource : config.backtestSource = true) (adapter : Bool)
    (message : Message) :
    replayWindows config adapter message.text =
        [some (message.first.startMs, message.lastDate.lastMs)] ↔
      (nul ∈ message.front.toList →
        jsonCalls config adapter message.text = none) ∧
      contains message.front "_Live" = false ∧
        message.lastDate = message.first := by
  rw [← jsonCalls_text_eq_none_iff hparse]
  cases hjson : jsonCalls config adapter message.text with
  | some calls => simp [replayWindows_of_jsonCalls hjson]
  | none =>
      rw [replayWindows_text hsource adapter message hjson]
      by_cases hlive : contains message.front "_Live" = true
      · simp [hlive]
      · rw [if_neg hlive]
        rw [Bool.not_eq_true] at hlive
        simp only [List.cons.injEq, and_true, Option.some.injEq,
          Prod.mk.injEq, true_and, hlive]
        constructor
        · intro hsame
          apply IsoDate.startMs_injective
          rw [IsoDate.lastMs, IsoDate.lastMs] at hsame
          omega
        · intro hsame
          rw [hsame]

end Replay

/-- 2024-01-01 -/
def newYear : IsoDate :=
  ⟨2024, 1, 1, by decide, by decide, by decide⟩

/-- 2024-01-03 -/
def thirdDay : IsoDate :=
  ⟨2024, 1, 3, by decide, by decide, by decide⟩

/-- A server whose parser reads no JSON. -/
def plainServer : Config where
  parse := fun _ => none
  liveSource := true
  backtestSource := true

theorem refusesText_plainServer : RefusesText plainServer.parse :=
  fun _ _ _ _ => rfl

/-- A message for a single day. -/
def singleDay : Message :=
  ⟨"_Backtest ", newYear, none, by decide +kernel, by decide +kernel⟩

/-- A message for three days. -/
def threeDays : Message :=
  ⟨"_Backtest ", newYear, some thirdDay, by decide +kernel, by decide +kernel⟩

theorem replayWindows_singleDay :
    replayWindows plainServer false singleDay.text =
        [some (singleDay.first.startMs, singleDay.lastDate.lastMs)] :=
  (replayWindows_iff refusesText_plainServer rfl false singleDay).mpr
    ⟨fun _ => rfl, by decide +kernel, rfl⟩

theorem replayWindows_threeDays :
    threeDays.text = "_Backtest 2024-01-01,2024-01-03" ∧
      replayWindows plainServer false threeDays.text ≠
        [some (threeDays.first.startMs, threeDays.lastDate.lastMs)] := by
  decide +kernel

end Datafeed.Backtest
