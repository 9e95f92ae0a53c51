import Datafeed.Core.Ranking
import Datafeed.Core.SqlLexer
import Datafeed.Core.Statement

/-!
# `SELECT` statements

The grammar of `SELECT * FROM table [WHERE condition] [ORDER BY column]
[LIMIT count]`, over the tokens of the text, and what the server answers: the
rows that meet the condition, in the order if there is one and in any order
otherwise, up to the limit.  Which comparisons the server accepts, and what they
mean, is a parameter, with the rules that are used of it.
-/

namespace Datafeed.Select

open Ranking Sql SqlLexer

/-! ## Lexemes -/

inductive Keyword
  | selectWord
  | fromWord
  | whereWord
  | andWord
  | orWord
  | isWord
  | notWord
  | nullWord
  | likeWord
  | ilikeWord
  | orderWord
  | byWord
  | ascWord
  | descWord
  | limitWord
  | trueWord
  | falseWord
  deriving DecidableEq

def keywords : List (String × Keyword) :=
  [("SELECT", .selectWord), ("FROM", .fromWord), ("WHERE", .whereWord),
    ("AND", .andWord), ("OR", .orWord), ("IS", .isWord), ("NOT", .notWord),
    ("NULL", .nullWord), ("LIKE", .likeWord), ("ILIKE", .ilikeWord),
    ("ORDER", .orderWord), ("BY", .byWord), ("ASC", .ascWord),
    ("DESC", .descWord), ("LIMIT", .limitWord), ("TRUE", .trueWord),
    ("FALSE", .falseWord)]

def keyword? (text : List Char) : Option Keyword :=
  (keywords.find? fun entry =>
    entry.1.toList = text.map Char.toUpper).map Prod.snd

/-- A decimal number. -/
def IsDecimal (text : List Char) : Prop :=
  text ≠ [] ∧ text.all Char.isDigit = true

instance (text : List Char) : Decidable (IsDecimal text) :=
  inferInstanceAs (Decidable (_ ∧ _))

/-- A token as the grammar sees it.  Names are folded to lower case unless they
are quoted. -/
inductive Lexeme
  | keyword (word : Keyword)
  | name (text : List Char)
  | number (digits : List Char)
  | literal (content : List Char)
  | operator (text : List Char)
  | punctuation (character : Char)
  | other
  deriving DecidableEq

def classify : Token → Lexeme
  | .word text =>
      if IsDecimal text then .number text
      else
        match keyword? text with
        | some word => .keyword word
        | none =>
            if text.head?.all fun first => first.isDigit || first = '$' then
              .other
            else .name (text.map Char.toLower)
  | .operator text => .operator text
  | .punctuation character => .punctuation character
  | .literal content => .literal content
  | .identifier content => .name content
  | .escapeLiteral _ | .unterminated => .other

def lexemes (text : List Char) : List Lexeme := (lex text).map classify

/-- A character that ends a word and a literal. -/
def EndsToken (character : Char) : Prop := character = ' ' ∨ character = ')'

/-- A text that ends the token before it. -/
def Breaks (text : List Char) : Prop :=
  ∃ character rest, text = character :: rest ∧ EndsToken character

theorem Breaks.append {text : List Char} (hbreaks : Breaks text)
    (rest : List Char) : Breaks (text ++ rest) := by
  obtain ⟨character, tail, rfl, hends⟩ := hbreaks
  exact ⟨character, tail ++ rest, rfl, hends⟩

theorem breaks_of_blank {text : List Char} (hblank : text.head? = some ' ') :
    Breaks text := by
  obtain ⟨tail, rfl⟩ := List.head?_eq_some_iff.mp hblank
  exact ⟨' ', tail, rfl, Or.inl rfl⟩

theorem step_word_of_endsToken {character : Char}
    (hends : EndsToken character) (text : List Char) (tokens : List Token) :
    State.step ⟨.word text, tokens⟩ character =
      State.step ⟨.between, tokens ++ [.word text]⟩ character := by
  rcases hends with rfl | rfl
  · rfl
  · rfl

theorem step_closing_of_endsToken {character : Char}
    (hends : EndsToken character) (content : List Char)
    (tokens : List Token) :
    State.step ⟨.closing content, tokens⟩ character =
      State.step ⟨.between, tokens ++ [.literal content]⟩ character := by
  rcases hends with rfl | rfl
  · rfl
  · rfl

/-- A text that is lexed as one word. -/
def IsWord (text : List Char) : Prop :=
  text ≠ [] ∧ text.all isWordChar = true ∧ text.head? ≠ some '$'

instance (text : List Char) : Decidable (IsWord text) :=
  inferInstanceAs (Decidable (_ ∧ _))

theorem isWordChar_of_isDigit {character : Char}
    (hdigit : character.isDigit = true) : isWordChar character = true := by
  simp [isWordChar, Char.isAlphanum, hdigit]

theorem IsDecimal.isWord {digits : List Char} (hdigits : IsDecimal digits) :
    IsWord digits := by
  obtain ⟨hnonempty, hall⟩ := hdigits
  refine ⟨hnonempty, ?_, ?_⟩
  · rw [List.all_eq_true] at hall ⊢
    exact fun digit hdigit => isWordChar_of_isDigit (hall digit hdigit)
  · intro hdollar
    obtain ⟨tail, rfl⟩ := List.head?_eq_some_iff.mp hdollar
    cases hall

theorem ne_of_isWordChar {character other : Char}
    (hword : isWordChar character = true) (hother : isWordChar other = false) :
    character ≠ other := by
  rintro rfl
  rw [hword] at hother
  cases hother

theorem step_wordChar {character : Char} (hword : isWordChar character = true)
    (text : List Char) (tokens : List Token) :
    State.step ⟨.word text, tokens⟩ character =
      ⟨.word (text ++ [character]), tokens⟩ := by
  rw [State.step, if_neg (ne_of_isWordChar hword rfl)]
  exact if_pos hword

theorem run_wordChars {text : List Char} (hall : text.all isWordChar = true)
    (before : List Char) (tokens : List Token) :
    State.run ⟨.word before, tokens⟩ text =
      ⟨.word (before ++ text), tokens⟩ := by
  induction text generalizing before with
  | nil => rw [run_nil, List.append_nil]
  | cons character text ih =>
      rw [List.all_cons, Bool.and_eq_true] at hall
      rw [run_cons, step_wordChar hall.1, ih hall.2, List.append_assoc]
      rfl

theorem step_first_wordChar {character : Char}
    (hword : isWordChar character = true) (hdollar : character ≠ '$')
    (tokens : List Token) :
    State.step ⟨.between, tokens⟩ character =
      ⟨.word [character], tokens⟩ := by
  have hspace : isSpace character = false := by
    simp [isSpace, ne_of_isWordChar hword (show isWordChar ' ' = false from rfl),
      ne_of_isWordChar hword (show isWordChar '\t' = false from rfl),
      ne_of_isWordChar hword (show isWordChar '\n' = false from rfl),
      ne_of_isWordChar hword (show isWordChar '\r' = false from rfl),
      ne_of_isWordChar hword (show isWordChar (Char.ofNat 11) = false from rfl),
      ne_of_isWordChar hword (show isWordChar (Char.ofNat 12) = false from rfl)]
  rw [State.step, if_neg (ne_of_isWordChar hword rfl)]
  have hquote : character ≠ quote := ne_of_isWordChar hword rfl
  have hdouble : character ≠ doubleQuote := ne_of_isWordChar hword rfl
  simp only [stepMode, begin, hspace, Bool.false_eq_true, if_false,
    if_neg hquote, if_neg hdouble, if_neg hdollar, hword, if_true]

theorem run_word {text : List Char} (hword : IsWord text)
    (tokens : List Token) :
    State.run ⟨.between, tokens⟩ text = ⟨.word text, tokens⟩ := by
  obtain ⟨hnonempty, hall, hdollar⟩ := hword
  obtain ⟨character, rest, rfl⟩ := List.exists_cons_of_ne_nil hnonempty
  rw [List.all_cons, Bool.and_eq_true] at hall
  rw [run_cons, step_first_wordChar hall.1 (fun heq => hdollar (by rw [heq]; rfl)),
    run_wordChars hall.2]
  rfl

/-- What is lexed after a text that ends between tokens. -/
theorem lex_append_between {first : List Char}
    (hbetween : (start.run first).mode = .between) (rest : List Char) :
    lex (first ++ rest) =
      lex first ++ (State.run ⟨.between, []⟩ rest).finish := by
  have hlex : lex first = (start.run first).tokens := by
    rw [lex, State.finish, hbetween]
  rw [hlex, lex, run_append]
  generalize start.run first = state at hbetween
  obtain ⟨mode, tokens⟩ := state
  obtain rfl : mode = .between := hbetween
  exact finish_run_eq .between tokens rest

theorem lexemes_word {first word text : List Char}
    (hbetween : (start.run first).mode = .between) (hword : IsWord word)
    (hbreaks : Breaks text) :
    lexemes (first ++ (word ++ text)) =
      lexemes first ++ classify (.word word) :: lexemes text := by
  obtain ⟨character, rest, rfl, hends⟩ := hbreaks
  have hrun : (State.run ⟨.between, []⟩ (word ++ character :: rest)).finish =
      .word word :: lex (character :: rest) := by
    rw [run_append, run_word hword, run_cons, step_word_of_endsToken hends,
      ← run_cons, finish_run_eq]
    rfl
  rw [lexemes, lex_append_between hbetween, hrun, List.map_append,
    List.map_cons]
  rfl

theorem lexemes_number {first digits text : List Char}
    (hbetween : (start.run first).mode = .between) (hdigits : IsDecimal digits)
    (hbreaks : Breaks text) :
    lexemes (first ++ (digits ++ text)) =
      lexemes first ++ .number digits :: lexemes text := by
  rw [lexemes_word hbetween hdigits.isWord hbreaks, classify, if_pos hdigits]

theorem lexemes_literal {first text : List Char} {content : String}
    (hbetween : (start.run first).mode = .between) (hclean : Clean content)
    (hbreaks : Breaks text) :
    lexemes (first ++ ((Piece.quoted content).chars ++ text)) =
      lexemes first ++ .literal content.toList :: lexemes text := by
  obtain ⟨character, rest, rfl, hends⟩ := hbreaks
  have hrun : (State.run ⟨.between, []⟩
      ((Piece.quoted content).chars ++ character :: rest)).finish =
        .literal content.toList :: lex (character :: rest) := by
    rw [run_append, run_quoted hclean, run_cons,
      step_closing_of_endsToken hends, ← run_cons, finish_run_eq]
    rfl
  rw [lexemes, lex_append_between hbetween, hrun, List.map_append,
    List.map_cons]
  rfl

/-- What is lexed after a text that ends with a word. -/
theorem lexemes_append_word {first word text : List Char}
    (hmode : (start.run first).mode = .word word) (hbreaks : Breaks text) :
    lexemes (first ++ text) = lexemes first ++ lexemes text := by
  obtain ⟨character, rest, rfl, hends⟩ := hbreaks
  have hlex : lex first = (start.run first).tokens ++ [.word word] := by
    rw [lex, State.finish, hmode]
  rw [lexemes, lexemes, lexemes, ← List.map_append, hlex, lex, run_append]
  generalize start.run first = state at hmode
  obtain ⟨mode, tokens⟩ := state
  obtain rfl : mode = .word word := hmode
  rw [run_cons, step_word_of_endsToken hends, ← run_cons, finish_run_eq]
  rfl

/-! ## Grammar -/

inductive Operand (Column : Type)
  | column (column : Column)
  | text (content : List Char)
  | number (digits : List Char)
  | boolean (value : Bool)
  | call (function digits : List Char)
  deriving DecidableEq

inductive Predicate (Column : Type)
  | compare (left : Operand Column) (operator : List Char)
      (right : Operand Column)
  | like (left : Operand Column) (word : Keyword) (right : Operand Column)
  | isNull (operand : Operand Column) (negated : Bool)
  deriving DecidableEq

/-- The condition is a disjunction of conjunctions; the order has its direction,
which is descending or not. -/
structure Statement (Column : Type) where
  table : List Char
  condition : Option (List (List (Predicate Column)))
  order : Option (Column × Bool)
  limit : Option ℕ
  deriving DecidableEq

def parseOperand : List Lexeme → Option (Operand (List Char) × List Lexeme)
  | .name function :: .punctuation '(' :: .number digits ::
      .punctuation ')' :: rest => some (.call function digits, rest)
  | .name column :: rest => some (.column column, rest)
  | .number digits :: rest => some (.number digits, rest)
  | .literal content :: rest => some (.text content, rest)
  | .keyword .trueWord :: rest => some (.boolean true, rest)
  | .keyword .falseWord :: rest => some (.boolean false, rest)
  | _ => none

def parsePredicate (lexemes : List Lexeme) :
    Option (Predicate (List Char) × List Lexeme) :=
  (parseOperand lexemes).bind fun (left, rest) =>
    match rest with
    | .operator operator :: rest =>
        (parseOperand rest).map fun (right, rest) =>
          (.compare left operator right, rest)
    | .keyword .likeWord :: rest =>
        (parseOperand rest).map fun (right, rest) =>
          (.like left .likeWord right, rest)
    | .keyword .ilikeWord :: rest =>
        (parseOperand rest).map fun (right, rest) =>
          (.like left .ilikeWord right, rest)
    | .keyword .isWord :: .keyword .nullWord :: rest =>
        some (.isNull left false, rest)
    | .keyword .isWord :: .keyword .notWord :: .keyword .nullWord :: rest =>
        some (.isNull left true, rest)
    | _ => none

/-- Predicates with `AND` between them; each step takes a lexeme at least. -/
def parseConjunction : ℕ → List Lexeme →
    Option (List (Predicate (List Char)) × List Lexeme)
  | 0, _ => none
  | fuel + 1, lexemes =>
      (parsePredicate lexemes).bind fun (first, rest) =>
        match rest with
        | .keyword .andWord :: rest =>
            (parseConjunction fuel rest).map fun (others, rest) =>
              (first :: others, rest)
        | rest => some ([first], rest)

def parseDisjunction : ℕ → List Lexeme →
    Option (List (List (Predicate (List Char))) × List Lexeme)
  | 0, _ => none
  | fuel + 1, lexemes =>
      (parseConjunction lexemes.length lexemes).bind fun (first, rest) =>
        match rest with
        | .keyword .orWord :: rest =>
            (parseDisjunction fuel rest).map fun (others, rest) =>
              (first :: others, rest)
        | rest => some ([first], rest)

def parseWhere (lexemes : List Lexeme) :
    Option (Option (List (List (Predicate (List Char)))) × List Lexeme) :=
  match lexemes with
  | .keyword .whereWord :: rest =>
      (parseDisjunction rest.length rest).map fun (condition, rest) =>
        (some condition, rest)
  | rest => some (none, rest)

def parseOrder (lexemes : List Lexeme) :
    Option (Option (List Char × Bool) × List Lexeme) :=
  match lexemes with
  | .keyword .orderWord :: .keyword .byWord :: .name column ::
      .keyword .ascWord :: rest => some (some (column, false), rest)
  | .keyword .orderWord :: .keyword .byWord :: .name column ::
      .keyword .descWord :: rest => some (some (column, true), rest)
  | .keyword .orderWord :: .keyword .byWord :: .name column :: rest =>
      some (some (column, false), rest)
  | .keyword .orderWord :: _ => none
  | rest => some (none, rest)

def parseLimit (lexemes : List Lexeme) : Option (Option ℕ × List Lexeme) :=
  match lexemes with
  | .keyword .limitWord :: .number digits :: rest =>
      some (some (Nat.ofDigitChars 10 digits 0), rest)
  | .keyword .limitWord :: _ => none
  | rest => some (none, rest)

def parse (lexemes : List Lexeme) : Option (Statement (List Char)) :=
  match lexemes with
  | .keyword .selectWord :: .operator ['*'] :: .keyword .fromWord ::
      .name table :: rest =>
      (parseWhere rest).bind fun (condition, rest) =>
        (parseOrder rest).bind fun (order, rest) =>
          (parseLimit rest).bind fun (limit, rest) =>
            if rest = [] then some ⟨table, condition, order, limit⟩ else none
  | _ => none

/-- The text is a statement of the grammar. -/
def Grammatical (text : List Char) : Prop :=
  (parse (lexemes text)).isSome = true

instance (text : List Char) : Decidable (Grammatical text) :=
  inferInstanceAs (Decidable (_ = true))

/-! ## Answers -/

/-- The columns of a table, with their names. -/
abbrev Names (Column : Type) := List (String × Column)

def Names.find? {Column : Type} (names : Names Column) (text : List Char) :
    Option Column :=
  (List.find? (fun entry => entry.1.toList = text) names).map Prod.snd

def Operand.resolve {Column : Type} (names : Names Column) :
    Operand (List Char) → Option (Operand Column)
  | .column name => (names.find? name).map .column
  | .text content => some (.text content)
  | .number digits => some (.number digits)
  | .boolean value => some (.boolean value)
  | .call function digits => some (.call function digits)

def Predicate.resolve {Column : Type} (names : Names Column) :
    Predicate (List Char) → Option (Predicate Column)
  | .compare left operator right =>
      (left.resolve names).bind fun left =>
        (right.resolve names).map fun right => .compare left operator right
  | .like left word right =>
      (left.resolve names).bind fun left =>
        (right.resolve names).map fun right => .like left word right
  | .isNull operand negated =>
      (operand.resolve names).map fun operand => .isNull operand negated

/-- A text of the given characters. -/
def isText {Json : Type} (content : List Char) : Datum Json → Bool
  | .text value => value.toList = content
  | _ => false

def comparisonOperators : List (List Char) :=
  [['='], ['<'], ['>'], ['<', '='], ['>', '=']]

/-- The server's comparisons on the columns of a table: which rows meet one, or
none if the server rejects it for the types of its operands, and the order of
the values of a column. -/
structure Engine {Column : Type} (Json : Type) (schema : Schema Column) where
  test : Predicate Column → Option (Row Column Json → Bool)
  le : Datum Json → Datum Json → Bool
  isPreorder : IsPreorder le
  test_isNull : ∀ column, test (.isNull (.column column) false) =
    some fun row : Row Column Json => (row column).isNull
  test_boolean : ∀ column value, schema.sqlType column = .boolean →
    test (.compare (.column column) ['='] (.boolean value)) =
      some fun row : Row Column Json =>
        decide ((row column).asBool = some value)
  test_text : ∀ column length content,
    schema.sqlType column = .varchar length →
      test (.compare (.column column) ['='] (.text content)) =
        some fun row : Row Column Json => isText content (row column)
  /-- No operator compares a `TIMESTAMPTZ` with a number. -/
  test_timestamp_number : ∀ column, ∀ operator ∈ comparisonOperators,
    ∀ digits, schema.sqlType column = .timestamptz →
      test (.compare (.column column) operator (.number digits)) = none
  le_timestamp : ∀ first second,
    le (.timestamp first) (.timestamp second) = decide (first ≤ second)

/-- The place of a value in the order of the timestamps. -/
def rank {Json : Type} : Datum Json → ℕ
  | .timestamp ms => ms
  | _ => 0

/-- The comparisons of the rules, with all others rejected. -/
def plainEngine {Column : Type} (Json : Type) (schema : Schema Column) :
    Engine Json schema where
  test
    | .isNull (.column column) false => some fun row => (row column).isNull
    | .compare (.column column) ['='] (.boolean value) =>
        some fun row => decide ((row column).asBool = some value)
    | .compare (.column column) ['='] (.text content) =>
        some fun row => isText content (row column)
    | _ => none
  le := byKey rank
  isPreorder := isPreorder_byKey rank
  test_isNull _ := rfl
  test_boolean _ _ _ := rfl
  test_text _ _ _ _ := rfl
  test_timestamp_number column operator hmem digits htype := by
    simp only [comparisonOperators, List.mem_cons, List.not_mem_nil,
      or_false] at hmem
    rcases hmem with rfl | rfl | rfl | rfl | rfl <;> rfl
  le_timestamp _ _ := rfl

/-- What an accepted statement asks for. -/
structure Plan (Column Json : Type) where
  selects : Row Column Json → Bool
  order : Option (Column × Bool)
  limit : Option ℕ

section

variable {Column Json : Type} {schema : Schema Column}

/-- All values, or none where one is missing. -/
def allOrNone {Value : Type} : List (Option Value) → Option (List Value)
  | [] => some []
  | none :: _ => none
  | some value :: rest => (allOrNone rest).map (value :: ·)

/-- The rows that meet a condition; all of them without one. -/
def selection (engine : Engine Json schema) (names : Names Column) :
    Option (List (List (Predicate (List Char)))) →
      Option (Row Column Json → Bool)
  | none => some fun _ => true
  | some condition =>
      (allOrNone (condition.map fun conjunction =>
        allOrNone (conjunction.map fun comparison =>
          (comparison.resolve names).bind engine.test))).map fun tests row =>
            tests.any fun conjunction => conjunction.all fun test => test row

def ordering (names : Names Column) :
    Option (List Char × Bool) → Option (Option (Column × Bool))
  | none => some none
  | some order =>
      (names.find? order.1).map fun column => some (column, order.2)

/-- None if the server rejects the statement. -/
def Statement.plan (engine : Engine Json schema) (names : Names Column)
    (statement : Statement (List Char)) : Option (Plan Column Json) :=
  (selection engine names statement.condition).bind fun selects =>
    (ordering names statement.order).map fun order =>
      ⟨selects, order, statement.limit⟩

/-- What a text asks for of a table; none if the server rejects it. -/
def planOf (engine : Engine Json schema) (names : Names Column) (table : String)
    (text : List Char) : Option (Plan Column Json) :=
  (parse (lexemes text)).bind fun statement =>
    if statement.table = table.toList then statement.plan engine names
    else none

/-- The order of the rows; without one, any two may stand in any order. -/
def Plan.le (engine : Engine Json schema) (plan : Plan Column Json)
    (first second : Row Column Json) : Bool :=
  match plan.order with
  | none => true
  | some (column, false) => engine.le (first column) (second column)
  | some (column, true) => engine.le (second column) (first column)

def Plan.limited (plan : Plan Column Json) (rows : List (Row Column Json)) :
    List (Row Column Json) :=
  match plan.limit with
  | none => rows
  | some count => rows.take count

/-- A result that the server can give. -/
def Plan.Returns (engine : Engine Json schema) (plan : Plan Column Json)
    (rows result : List (Row Column Json)) : Prop :=
  ∃ arranged, Arranges (plan.le engine) (rows.filter plan.selects) arranged ∧
    result = plan.limited arranged

theorem Plan.isPreorder (engine : Engine Json schema)
    (plan : Plan Column Json) : IsPreorder (plan.le engine) := by
  obtain ⟨selects, order, limit⟩ := plan
  cases order with
  | none => exact ⟨fun _ _ => rfl, fun _ _ _ _ _ => rfl⟩
  | some order =>
      obtain ⟨column, descending⟩ := order
      cases descending with
      | false =>
          exact engine.isPreorder.comap fun row : Row Column Json => row column
      | true =>
          exact (engine.isPreorder.comap
            fun row : Row Column Json => row column).flip

theorem Plan.exists_returns (engine : Engine Json schema)
    (plan : Plan Column Json) (rows : List (Row Column Json)) :
    ∃ result, plan.Returns engine rows result := by
  obtain ⟨arranged, harranged⟩ :=
    exists_arranges (plan.isPreorder engine) (rows.filter plan.selects)
  exact ⟨_, arranged, harranged, rfl⟩

/-- A text that is no statement is rejected. -/
theorem planOf_of_not_grammatical (engine : Engine Json schema)
    (names : Names Column) (table : String) {text : List Char}
    (hnot : ¬ Grammatical text) : planOf engine names table text = none := by
  rw [Grammatical, Bool.not_eq_true, Option.isSome_eq_false_iff,
    Option.isNone_iff_eq_none] at hnot
  rw [planOf, hnot]
  rfl

theorem allOrNone_of_none_mem {Value : Type} {values : List (Option Value)}
    (hmem : none ∈ values) : allOrNone values = none := by
  induction values with
  | nil => cases hmem
  | cons value values ih =>
      cases value with
      | none => rfl
      | some value =>
          rw [allOrNone, ih ((List.mem_cons.mp hmem).resolve_left nofun)]
          rfl

/-- A comparison that the server rejects makes it reject the condition. -/
theorem selection_of_rejected (engine : Engine Json schema)
    (names : Names Column) {condition : List (List (Predicate (List Char)))}
    {conjunction : List (Predicate (List Char))}
    (hconjunction : conjunction ∈ condition)
    {comparison : Predicate (List Char)} (hcomparison : comparison ∈ conjunction)
    (hrejected : (comparison.resolve names).bind engine.test = none) :
    selection engine names (some condition) = none := by
  have hinner : allOrNone (conjunction.map fun comparison =>
      (comparison.resolve names).bind engine.test) = none :=
    allOrNone_of_none_mem (List.mem_map.mpr ⟨comparison, hcomparison, hrejected⟩)
  rw [selection, allOrNone_of_none_mem
    (List.mem_map.mpr ⟨conjunction, hconjunction, hinner⟩)]
  rfl

theorem planOf_of_parse (engine : Engine Json schema) (names : Names Column)
    {table : String} {text : List Char} {statement : Statement (List Char)}
    (hparse : parse (lexemes text) = some statement)
    (htable : statement.table = table.toList) :
    planOf engine names table text = statement.plan engine names := by
  rw [planOf, hparse, Option.bind_some, if_pos htable]

end

end Datafeed.Select
