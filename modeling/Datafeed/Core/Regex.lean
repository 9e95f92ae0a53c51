import Mathlib.Data.List.Basic

/-!
# Regular expressions

A part of the ECMAScript expressions: characters, classes of all characters but
one, repetitions of these, groups that capture, and the two anchors.  The
matches at a position are listed in the order in which backtracking tries them.
-/

namespace Datafeed

/-- A test on one character. -/
inductive Atom
  | char (c : Char)
  | noneOf (c : Char)
  deriving DecidableEq

def Atom.accepts : Atom → Char → Bool
  | char c, other => other == c
  | noneOf c, other => other != c

inductive Regex
  | empty
  | start
  | stop
  | atom (test : Atom)
  | plus (test : Atom)
  | group (inner : Regex)
  | seq (first second : Regex)
  deriving DecidableEq

namespace Regex

/-! ## Syntax -/

/-- The characters that do not stand for themselves. -/
def syntaxCharacters : List Char :=
  ['^', '$', '\\', '.', '*', '+', '?', '(', ')', '[', ']', '\x7b', '\x7d', '|']

/-- A quantifier belongs to the last thing before it. -/
def plusLast : Regex → Option Regex
  | seq front (atom test) => some (seq front (plus test))
  | _ => none

/-- Reads the text, with the open groups on a stack. -/
def parse : List Regex → Regex → List Char → Option Regex
  | [], current, [] => some current
  | _ :: _, _, [] => none
  | stack, current, '^' :: rest => parse stack (current.seq start) rest
  | stack, current, '$' :: rest => parse stack (current.seq stop) rest
  | stack, current, '(' :: rest => parse (current :: stack) empty rest
  | outer :: stack, current, ')' :: rest =>
      parse stack (outer.seq (group current)) rest
  | stack, current, '+' :: rest =>
      (plusLast current).bind fun current => parse stack current rest
  | stack, current, '\\' :: c :: rest =>
      if c ∈ syntaxCharacters then
        parse stack (current.seq (atom (.char c))) rest
      else none
  | stack, current, '[' :: '^' :: c :: ']' :: rest =>
      if c ∈ syntaxCharacters then none
      else parse stack (current.seq (atom (.noneOf c))) rest
  | stack, current, c :: rest =>
      if c ∈ syntaxCharacters then none
      else parse stack (current.seq (atom (.char c))) rest

/-- The expression that a text denotes, if it is in this part of the syntax. -/
def compile (text : String) : Option Regex :=
  parse [] empty text.toList

/-- A character without a meaning of its own stands for itself. -/
theorem parse_char {stack : List Regex} {current : Regex} {c : Char}
    {rest : List Char} (hc : c ∉ syntaxCharacters) :
    parse stack current (c :: rest) =
      parse stack (current.seq (atom (.char c))) rest := by
  rw [parse, if_neg hc]
  -- No case before the last one takes such a character.
  all_goals
    intros
    subst_vars
    exact absurd hc (by decide)

/-! ## Matching -/

/-- A text split where a match ends, with the texts of the groups. -/
structure Match where
  consumed : List Char
  rest : List Char
  captures : List (List Char)

/-- One or more accepted characters, the longest first. -/
def oneOrMore (accepts : Char → Bool) : List Char → List Match
  | [] => []
  | c :: rest =>
      if accepts c then
        (oneOrMore accepts rest).map (fun found =>
          { found with consumed := c :: found.consumed }) ++ [⟨[c], rest, []⟩]
      else []

def matchesAt : Regex → List Char → List Char → List Match
  | empty, _, text => [⟨[], text, []⟩]
  | start, before, text => if before = [] then [⟨[], text, []⟩] else []
  | stop, _, text => if text = [] then [⟨[], text, []⟩] else []
  | atom _, _, [] => []
  | atom test, _, c :: rest => if test.accepts c then [⟨[c], rest, []⟩] else []
  | plus test, _, text => oneOrMore test.accepts text
  | group inner, before, text =>
      (matchesAt inner before text).map fun found =>
        { found with captures := found.consumed :: found.captures }
  | seq first second, before, text =>
      (matchesAt first before text).flatMap fun front =>
        (matchesAt second (before ++ front.consumed) front.rest).map fun back =>
          { consumed := front.consumed ++ back.consumed
            rest := back.rest
            captures := front.captures ++ back.captures }

/-- `regex_match`: the groups of the first match that reaches the end. -/
def regexMatch (regex : Regex) (text : List Char) :
    Option (List (List Char)) :=
  ((matchesAt regex [] text).find? fun found => found.rest.isEmpty).map
    Match.captures

/-- What it means for a part of a text to match. -/
def Matches : Regex → List Char → Match → Prop
  | empty, _, found => found.consumed = [] ∧ found.captures = []
  | start, before, found =>
      before = [] ∧ found.consumed = [] ∧ found.captures = []
  | stop, _, found =>
      found.rest = [] ∧ found.consumed = [] ∧ found.captures = []
  | atom test, _, found =>
      ∃ c, test.accepts c ∧ found.consumed = [c] ∧ found.captures = []
  | plus test, _, found =>
      found.consumed ≠ [] ∧ (∀ c ∈ found.consumed, test.accepts c) ∧
        found.captures = []
  | group inner, before, found =>
      ∃ captures, found.captures = found.consumed :: captures ∧
        Matches inner before { found with captures := captures }
  | seq first second, before, found =>
      ∃ front back, found = ⟨front.consumed ++ back.consumed, back.rest,
          front.captures ++ back.captures⟩ ∧
        front.rest = back.consumed ++ back.rest ∧
        Matches first before front ∧
        Matches second (before ++ front.consumed) back

theorem matches_group_iff {inner : Regex} {before : List Char}
    {found : Match} :
    Matches (group inner) before found ↔
      ∃ captures, found.captures = found.consumed :: captures ∧
        Matches inner before { found with captures := captures } :=
  Iff.rfl

theorem matches_plus_iff {test : Atom} {before : List Char} {found : Match} :
    Matches (plus test) before found ↔ found.consumed ≠ [] ∧
      (∀ c ∈ found.consumed, test.accepts c) ∧ found.captures = [] :=
  Iff.rfl

theorem matches_seq_iff {first second : Regex} {before : List Char}
    {found : Match} :
    Matches (seq first second) before found ↔
      ∃ front back, found = ⟨front.consumed ++ back.consumed, back.rest,
          front.captures ++ back.captures⟩ ∧
        front.rest = back.consumed ++ back.rest ∧
        Matches first before front ∧
        Matches second (before ++ front.consumed) back :=
  Iff.rfl

theorem matches_empty_seq_iff {second : Regex} {before : List Char}
    {found : Match} :
    Matches (seq empty second) before found ↔
      Matches second before found := by
  constructor
  · rintro ⟨⟨-, front, -⟩, back, rfl, -, ⟨rfl, rfl⟩, hback⟩
    simpa using hback
  · intro hfound
    exact ⟨⟨[], found.consumed ++ found.rest, []⟩, found, rfl, rfl,
      ⟨rfl, rfl⟩, by simpa using hfound⟩

theorem mem_oneOrMore {accepts : Char → Bool} {text : List Char}
    {found : Match} :
    found ∈ oneOrMore accepts text ↔
      text = found.consumed ++ found.rest ∧ found.consumed ≠ [] ∧
        (∀ c ∈ found.consumed, accepts c) ∧ found.captures = [] := by
  induction text generalizing found with
  | nil =>
      simp only [oneOrMore, List.not_mem_nil, false_iff]
      rintro ⟨htext, hne, -⟩
      exact hne (List.append_eq_nil_iff.mp htext.symm).1
  | cons c rest ih =>
      by_cases hc : accepts c = true
      · simp only [oneOrMore, hc, if_true, List.mem_append, List.mem_map, ih,
          List.mem_singleton]
        constructor
        · rintro (⟨shorter, ⟨htext, -, hall, hcaptures⟩, rfl⟩ | rfl)
          · exact ⟨by simp [htext], by simp, by simpa [hc] using hall,
              hcaptures⟩
          · simp [hc]
        · obtain ⟨consumed, after, captures⟩ := found
          rintro ⟨htext, hne, hall, rfl⟩
          obtain ⟨head, consumed, rfl⟩ := List.exists_cons_of_ne_nil hne
          obtain ⟨rfl, hrest⟩ := List.cons.inj htext
          by_cases hlast : consumed = []
          · exact Or.inr (by simp [hlast, hrest])
          · exact Or.inl ⟨⟨consumed, after, []⟩,
              ⟨hrest, hlast, fun d hd => hall d (List.mem_cons_of_mem _ hd),
                rfl⟩, rfl⟩
      · rw [oneOrMore, if_neg hc]
        simp only [List.not_mem_nil, false_iff]
        rintro ⟨htext, hne, hall, -⟩
        obtain ⟨head, consumed, hconsumed⟩ := List.exists_cons_of_ne_nil hne
        rw [hconsumed] at htext
        obtain ⟨rfl, -⟩ := List.cons.inj htext
        exact hc (hall c (by simp [hconsumed]))

theorem eq_nothing_iff {text : List Char} {found : Match} :
    found = ⟨[], text, []⟩ ↔ text = found.consumed ++ found.rest ∧
      found.consumed = [] ∧ found.captures = [] := by
  obtain ⟨consumed, rest, captures⟩ := found
  rw [Match.mk.injEq]
  constructor
  · rintro ⟨rfl, rfl, rfl⟩
    exact ⟨rfl, rfl, rfl⟩
  · rintro ⟨rfl, rfl, rfl⟩
    exact ⟨rfl, rfl, rfl⟩

section Listing

variable {before text : List Char} {found : Match}

theorem mem_matchesAt_start :
    found ∈ matchesAt start before text ↔
      text = found.consumed ++ found.rest ∧ Matches start before found := by
  by_cases hbefore : before = []
  · simp [matchesAt, Matches, hbefore, eq_nothing_iff]
  · simp [matchesAt, Matches, hbefore]

theorem mem_matchesAt_stop :
    found ∈ matchesAt stop before text ↔
      text = found.consumed ++ found.rest ∧ Matches stop before found := by
  by_cases htext : text = []
  · simp only [matchesAt, Matches, htext, if_true, List.mem_singleton,
      eq_nothing_iff]
    refine and_congr_right fun hempty => ?_
    simp [(List.append_eq_nil_iff.mp hempty.symm).2]
  · simp only [matchesAt, Matches, htext, if_false, List.not_mem_nil,
      false_iff]
    rintro ⟨hsplit, hrest, hconsumed, -⟩
    exact htext (by rw [hsplit, hrest, hconsumed]; rfl)

theorem mem_matchesAt_atom {test : Atom} :
    found ∈ matchesAt (atom test) before text ↔
      text = found.consumed ++ found.rest ∧
        Matches (atom test) before found := by
  obtain ⟨consumed, rest, captures⟩ := found
  cases text with
  | nil =>
      simp only [matchesAt, Matches, List.not_mem_nil, false_iff]
      rintro ⟨htext, c, -, hconsumed, -⟩
      rw [hconsumed] at htext
      cases htext
  | cons head tail =>
      simp only [matchesAt, Matches]
      constructor
      · intro hfound
        split at hfound
        · rename_i haccepts
          cases List.mem_singleton.mp hfound
          exact ⟨rfl, head, haccepts, rfl, rfl⟩
        · cases hfound
      · rintro ⟨htext, c, haccepts, rfl, rfl⟩
        obtain ⟨rfl, rfl⟩ := List.cons.inj htext
        rw [if_pos haccepts]
        exact List.mem_singleton_self _

end Listing

/-- The matches listed are all that there are. -/
theorem mem_matchesAt {regex : Regex} {before text : List Char}
    {found : Match} :
    found ∈ matchesAt regex before text ↔
      text = found.consumed ++ found.rest ∧ Matches regex before found := by
  induction regex generalizing before text found with
  | empty => rw [matchesAt, List.mem_singleton, eq_nothing_iff, Matches]
  | start => exact mem_matchesAt_start
  | stop => exact mem_matchesAt_stop
  | atom test => exact mem_matchesAt_atom
  | plus test => exact mem_oneOrMore
  | group inner ih =>
      simp only [matchesAt, Matches, List.mem_map, ih]
      constructor
      · rintro ⟨front, ⟨htext, hfront⟩, rfl⟩
        exact ⟨htext, front.captures, rfl, hfront⟩
      · rintro ⟨htext, captures, hcaptures, hinner⟩
        refine ⟨{ found with captures := captures }, ⟨htext, hinner⟩, ?_⟩
        rw [← hcaptures]
  | seq first second ihfirst ihsecond =>
      simp only [matchesAt, Matches, List.mem_flatMap, List.mem_map, ihfirst,
        ihsecond]
      constructor
      · rintro ⟨front, ⟨htext, hfront⟩, back, ⟨hrest, hback⟩, rfl⟩
        refine ⟨?_, front, back, rfl, hrest, hfront, hback⟩
        rw [htext, hrest, List.append_assoc]
      · rintro ⟨htext, front, back, rfl, hrest, hfront, hback⟩
        refine ⟨front, ⟨?_, hfront⟩, back, ⟨hrest, hback⟩, rfl⟩
        rw [htext, hrest, List.append_assoc]

theorem matches_of_regexMatch {regex : Regex} {text : List Char}
    {captures : List (List Char)}
    (hmatch : regexMatch regex text = some captures) :
    Matches regex [] ⟨text, [], captures⟩ := by
  obtain ⟨⟨consumed, rest, groups⟩, hfound, rfl⟩ :=
    Option.map_eq_some_iff.mp hmatch
  obtain ⟨htext, hfull⟩ := mem_matchesAt.mp (List.mem_of_find?_eq_some hfound)
  obtain rfl : rest = [] := by simpa using List.find?_some hfound
  obtain rfl : text = consumed := by simpa using htext
  exact hfull

/-- A text that matches is taken, with the groups of one of its matches. -/
theorem exists_regexMatch {regex : Regex} {text : List Char}
    {captures : List (List Char)}
    (hfull : Matches regex [] ⟨text, [], captures⟩) :
    ∃ found, regexMatch regex text = some found := by
  have hmem : (⟨text, [], captures⟩ : Match) ∈ matchesAt regex [] text :=
    mem_matchesAt.mpr ⟨(List.append_nil text).symm, hfull⟩
  rw [← Option.isSome_iff_exists, regexMatch, Option.isSome_map,
    List.find?_isSome]
  exact ⟨_, hmem, rfl⟩

/-- Where the groups are determined by the text, they are those that the
function returns. -/
theorem regexMatch_eq_some_iff {regex : Regex} {text : List Char}
    (hunique : ∀ {left right}, Matches regex [] ⟨text, [], left⟩ →
      Matches regex [] ⟨text, [], right⟩ → left = right)
    {captures : List (List Char)} :
    regexMatch regex text = some captures ↔
      Matches regex [] ⟨text, [], captures⟩ := by
  refine ⟨matches_of_regexMatch, fun hfull => ?_⟩
  obtain ⟨found, hfound⟩ := exists_regexMatch hfull
  rw [hfound, hunique (matches_of_regexMatch hfound) hfull]

end Regex

end Datafeed
