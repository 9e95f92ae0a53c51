import Mathlib.Algebra.Group.Nat.Defs
import Mathlib.Data.List.Basic
import Mathlib.Data.List.SplitLengths
import Mathlib.Tactic.Common

/-!
# The spellings of a UUID

The server reads a UUID in capital or small letters, in braces or without them,
and with a hyphen or none after every four digits.  It prints one spelling.
-/

namespace Datafeed.Sql

def isHexDigit (character : Char) : Bool :=
  character.isDigit || ('a' ≤ character && character ≤ 'f') ||
    ('A' ≤ character && character ≤ 'F')

/-- The text without the hyphen that may stand before a byte. -/
def dropHyphen : List Char → List Char
  | '-' :: text => text
  | text => text

/-- Bytes of two hexadecimal digits each, as digits in lower case, and the text
after them.  A hyphen may stand after every second byte but the last. -/
def readBytes : ℕ → List Char → Option (List Char × List Char)
  | 0, text => some ([], text)
  | count + 1, high :: low :: text =>
      if isHexDigit high && isHexDigit low then
        (readBytes count
          (if count ≠ 0 ∧ count % 2 = 0 then dropHyphen text else text)).map
            fun (digits, rest) =>
              (high.toLower :: low.toLower :: digits, rest)
      else none
  | _ + 1, _ => none

/-- The digits of a UUID, which may stand in braces. -/
def readDigits (text : List Char) : Option (List Char) :=
  match text with
  | '\x7b' :: text =>
      match readBytes 16 text with
      | some (digits, ['\x7d']) => some digits
      | _ => none
  | text =>
      match readBytes 16 text with
      | some (digits, []) => some digits
      | _ => none

/-- Digits in groups of 8, 4, 4, 4 and 12 between hyphens. -/
def hyphenated (digits : List Char) : List Char :=
  ['-'].intercalate ([8, 4, 4, 4, 12].splitLengths digits)

/-- A UUID in any of its spellings, as the server prints it. -/
def readUuid (text : String) : Option String :=
  (readDigits text.toList).map fun digits => String.ofList (hyphenated digits)

/-- A UUID as the server prints it. -/
def isCanonicalUuid (text : String) : Bool :=
  (readDigits text.toList).map hyphenated = some text.toList

/-! ## Digits in lower case -/

/-- A digit that is printed as it is. -/
def IsLowerHex (character : Char) : Prop :=
  isHexDigit character = true ∧ character.toLower = character

theorem toNat_lt_of_isHexDigit {character : Char}
    (hhex : isHexDigit character = true) : character.toNat < 128 := by
  have hle {bound : Char} (hbound : character ≤ bound) :
      character.toNat ≤ bound.toNat := hbound
  simp only [isHexDigit, Bool.or_eq_true, Bool.and_eq_true,
    decide_eq_true_eq] at hhex
  rcases hhex with (hdigit | hlower) | hupper
  · have hcodes : '9'.toNat = 57 := rfl
    have hbound := (Char.isDigit_iff_toNat.mp hdigit).2
    omega
  · have hbound : character.toNat ≤ 102 := hle hlower.2
    omega
  · have hbound : character.toNat ≤ 70 := hle hupper.2
    omega

theorem isLowerHex_toLower {character : Char}
    (hhex : isHexDigit character = true) : IsLowerHex character.toLower := by
  have hall : ∀ code : Fin 128, isHexDigit (Char.ofNat code) = true →
      isHexDigit (Char.ofNat code).toLower = true ∧
        (Char.ofNat code).toLower.toLower = (Char.ofNat code).toLower := by
    decide
  have hcode := hall ⟨character.toNat, toNat_lt_of_isHexDigit hhex⟩
  rw [Char.ofNat_toNat] at hcode
  exact hcode hhex

theorem dropHyphen_of_isHexDigit {character : Char}
    (hhex : isHexDigit character = true) (text : List Char) :
    dropHyphen (character :: text) = character :: text := by
  have hother : character ≠ '-' := by
    rintro rfl
    exact absurd hhex (by decide)
  rw [dropHyphen]
  rintro rest hrest
  exact hother (List.cons.inj hrest).1

/-! ## What is printed is read -/

theorem readBytes_digits {count : ℕ} {text digits rest : List Char}
    (hread : readBytes count text = some (digits, rest)) :
    digits.length = 2 * count ∧ ∀ digit ∈ digits, IsLowerHex digit := by
  induction count, text using readBytes.induct generalizing digits rest with
  | case1 text =>
      obtain ⟨rfl, -⟩ := Prod.mk.inj (Option.some.inj hread)
      simp
  | case2 count high low text hhex ih =>
      rw [readBytes, if_pos hhex, Option.map_eq_some_iff] at hread
      obtain ⟨⟨tail, left⟩, htail, heq⟩ := hread
      obtain ⟨rfl, rfl⟩ := Prod.mk.inj heq
      obtain ⟨hlength, hdigits⟩ := ih htail
      rw [Bool.and_eq_true] at hhex
      refine ⟨by simp only [List.length_cons, hlength]; omega, ?_⟩
      simp only [List.forall_mem_cons]
      exact ⟨isLowerHex_toLower hhex.1, isLowerHex_toLower hhex.2, hdigits⟩
  | case3 count high low text hhex =>
      rw [readBytes, if_neg hhex] at hread
      cases hread
  | case4 count text hshort =>
      rw [readBytes] at hread
      · cases hread
      · exact hshort

/-- Digits are read up to their end, and a hyphen behind them where one may
stand. -/
theorem readBytes_append {digits : List Char} {count left : ℕ}
    (hleft : left < count) (hlength : digits.length + 2 * left = 2 * count)
    (hdigits : ∀ digit ∈ digits, IsLowerHex digit) (tail : List Char) :
    readBytes count (digits ++ tail) =
      (readBytes left
        (if left ≠ 0 ∧ left % 2 = 0 then dropHyphen tail else tail)).map
          fun (further, rest) => (digits ++ further, rest) := by
  obtain ⟨more, rfl⟩ := Nat.exists_eq_add_of_lt hleft
  have hpairs : digits.length = 2 * (more + 1) := by omega
  clear hleft hlength
  induction more generalizing digits with
  | zero =>
      match digits, hpairs with
      | [high, low], _ =>
          have hhigh := hdigits high (by simp)
          have hlow := hdigits low (by simp)
          simp only [List.cons_append, List.nil_append, readBytes, hhigh.1,
            hhigh.2, hlow.1, hlow.2, Bool.and_self, if_true]
  | succ more ih =>
      match digits, hpairs with
      | high :: low :: next :: digits, hpairs =>
          have hhigh := hdigits high (by simp)
          have hlow := hdigits low (by simp)
          have hnext := hdigits next (by simp)
          have hrest : ∀ digit ∈ next :: digits, IsLowerHex digit :=
            fun digit hmem => hdigits digit
              (List.mem_cons_of_mem _ (List.mem_cons_of_mem _ hmem))
          have hkept (condition : Prop) [Decidable condition] :
              (if condition then dropHyphen (next :: (digits ++ tail))
                else next :: (digits ++ tail)) = next :: digits ++ tail := by
            rw [dropHyphen_of_isHexDigit hnext.1, ite_self]
            rfl
          simp only [List.length_cons] at hpairs
          rw [← Nat.add_assoc left]
          simp only [List.cons_append, readBytes, hhigh.1, hhigh.2, hlow.1,
            hlow.2, Bool.and_self, if_true]
          rw [hkept, ih hrest (by rw [List.length_cons]; omega),
            Option.map_map]
          rfl

theorem readBytes_hyphenated {digits : List Char}
    (hlength : digits.length = 32)
    (hdigits : ∀ digit ∈ digits, IsLowerHex digit) :
    readBytes 16 (hyphenated digits) = some (digits, []) := by
  have hflatten : ([8, 4, 4, 4, 12].splitLengths digits).flatten = digits :=
    List.flatten_splitLengths _ _ (by rw [hlength]; decide)
  have hlengths := List.map_splitLengths_length digits [8, 4, 4, 4, 12]
    (by rw [hlength]; decide)
  rw [hyphenated]
  generalize [8, 4, 4, 4, 12].splitLengths digits = groups at *
  have hcount : groups.length = 5 := by
    simpa using congrArg List.length hlengths
  match groups, hcount with
  | [first, second, third, fourth, fifth], _ =>
      simp only [List.map_cons, List.map_nil, List.cons.injEq, and_true]
        at hlengths
      obtain ⟨hfirst, hsecond, hthird, hfourth, hfifth⟩ := hlengths
      rw [← hflatten] at hdigits ⊢
      simp only [List.flatten_cons, List.flatten_nil, List.append_nil,
        List.forall_mem_append] at hdigits ⊢
      obtain ⟨hones, htwos, hthrees, hfours, hfives⟩ := hdigits
      have htail : readBytes 6 fifth = some (fifth, []) := by
        have happend := readBytes_append (show 0 < 6 by decide)
          (by rw [hfifth]) hfives []
        simpa [readBytes] using happend
      have hgroups : ['-'].intercalate [first, second, third, fourth, fifth] =
          first ++ '-' :: (second ++ '-' :: (third ++ '-' ::
            (fourth ++ '-' :: fifth))) := by
        simp [List.intercalate_cons_cons]
      rw [hgroups,
        readBytes_append (show 12 < 16 by decide) (by rw [hfirst]) hones,
        if_pos (by decide), dropHyphen,
        readBytes_append (show 10 < 12 by decide) (by rw [hsecond]) htwos,
        if_pos (by decide), dropHyphen,
        readBytes_append (show 8 < 10 by decide) (by rw [hthird]) hthrees,
        if_pos (by decide), dropHyphen,
        readBytes_append (show 6 < 8 by decide) (by rw [hfourth]) hfours,
        if_pos (by decide), dropHyphen, htail]
      rfl

/-- What is printed of a UUID is read as the same UUID. -/
theorem readDigits_hyphenated {digits : List Char}
    (hlength : digits.length = 32)
    (hdigits : ∀ digit ∈ digits, IsLowerHex digit) :
    readDigits (hyphenated digits) = some digits := by
  have hread := readBytes_hyphenated hlength hdigits
  rw [readDigits.eq_def]
  split
  · next text hbrace =>
      rw [hbrace] at hread
      cases text with
      | nil => cases hread
      | cons character text =>
          have hbrace : (isHexDigit '\x7b' && isHexDigit character) = false :=
            rfl
          rw [readBytes, hbrace, if_neg Bool.false_ne_true] at hread
          cases hread
  · rw [hread]

theorem readDigits_digits {text digits : List Char}
    (hread : readDigits text = some digits) :
    digits.length = 32 ∧ ∀ digit ∈ digits, IsLowerHex digit := by
  rw [readDigits.eq_def] at hread
  split at hread
  · split at hread
    · next hbytes =>
        obtain rfl := Option.some.inj hread
        exact readBytes_digits hbytes
    · cases hread
  · split at hread
    · next hbytes =>
        obtain rfl := Option.some.inj hread
        exact readBytes_digits hbytes
    · cases hread

/-- A UUID is read from what is printed of it. -/
theorem readUuid_of_readUuid {text value : String}
    (hread : readUuid text = some value) : readUuid value = some value := by
  obtain ⟨digits, hdigits, rfl⟩ := Option.map_eq_some_iff.mp hread
  obtain ⟨hlength, hlower⟩ := readDigits_digits hdigits
  rw [readUuid, String.toList_ofList, readDigits_hyphenated hlength hlower,
    Option.map_some]

example : readUuid "\x7b0A4C3F529b1d-4e7a-8c605d2e-7f1b3a98\x7d" =
    some "0a4c3f52-9b1d-4e7a-8c60-5d2e7f1b3a98" := by decide

theorem readUuid_of_isCanonicalUuid {text : String}
    (hcanonical : isCanonicalUuid text) : readUuid text = some text := by
  obtain ⟨digits, hdigits, hprinted⟩ :=
    Option.map_eq_some_iff.mp (of_decide_eq_true hcanonical)
  rw [readUuid, hdigits, Option.map_some, hprinted, String.ofList_toList]

end Datafeed.Sql
