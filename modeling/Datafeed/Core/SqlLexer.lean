import Mathlib.Data.List.Basic
import Mathlib.Data.Nat.Notation
import Mathlib.Tactic.Common

/-!
# Lexing SQL

The lexical structure of a PostgreSQL statement, read character by character: a
state holds what is being read and the tokens before it, so the lexing of a
concatenation is that of its parts in turn.  Statements that are composed of
fixed texts and quoted strings are described by their pieces; the main rules say
when the quoted strings are lexed as literals that hold them, and that then they
do not affect the other tokens.  Backslashes are ordinary in a literal, as they
are with `standard_conforming_strings`.
-/

namespace Datafeed.SqlLexer

def quote : Char := Char.ofNat 39

def doubleQuote : Char := Char.ofNat 34

def backslash : Char := Char.ofNat 92

/-- A statement is passed to the server as a C string. -/
def terminator : Char := Char.ofNat 0

/-- Two literals with only a line break between them, which the server joins,
are two tokens here; so are the parts of an identifier with a doubled quote.
Numbers are words, an operator is the longest run of its characters, and the
escapes of an `E` literal are not decoded. -/
inductive Token
  | word (text : List Char)
  | operator (text : List Char)
  | punctuation (character : Char)
  | literal (content : List Char)
  | escapeLiteral (content : List Char)
  | identifier (content : List Char)
  /-- A literal, identifier or comment that the statement does not close. -/
  | unterminated
  deriving DecidableEq

/-- What is being read. -/
inductive Mode
  | between
  | word (text : List Char)
  | operator (text : List Char)
  | literal (content : List Char)
  /-- After a quote in a literal, which ends it unless another follows. -/
  | closing (content : List Char)
  | escapes (content : List Char)
  | escaped (content : List Char)
  | escapesClosing (content : List Char)
  | identifier (content : List Char)
  | lineComment
  | blockComment (depth : ℕ) (last : Char)
  /-- After the dollar that may begin a dollar-quoted literal. -/
  | dollarTag (tag : List Char)
  | dollarBody (tag body : List Char)
  | ended
  deriving DecidableEq

structure State where
  mode : Mode
  tokens : List Token
  deriving DecidableEq

def start : State := ⟨.between, []⟩

def isSpace (character : Char) : Bool :=
  [' ', '\t', '\n', '\r', Char.ofNat 11, Char.ofNat 12].contains character

def isWordChar (character : Char) : Bool :=
  character.isAlphanum || character = '_' || character = '$' ||
    128 ≤ character.toNat

def isOperatorChar (character : Char) : Bool :=
  "+-*/<>=~!@#%^&|`?".toList.contains character

/-! ## Steps -/

/-- An operator without the first character of a comment after it. -/
def operatorBefore (text : List Char) : List Token :=
  if text.dropLast = [] then [] else [.operator text.dropLast]

/-- The tokens, with the one that is being read. -/
def State.finish (state : State) : List Token :=
  match state.mode with
  | .between | .lineComment | .ended => state.tokens
  | .word text => state.tokens ++ [.word text]
  | .operator text => state.tokens ++ [.operator text]
  | .closing content => state.tokens ++ [.literal content]
  | .escapesClosing content => state.tokens ++ [.escapeLiteral content]
  | .dollarTag tag => state.tokens ++ [.word ('$' :: tag)]
  | .literal _ | .escapes _ | .escaped _ | .identifier _ | .blockComment _ _
  | .dollarBody _ _ => state.tokens ++ [.unterminated]

/-- A character where no token is being read. -/
def begin (tokens : List Token) (character : Char) : State :=
  if isSpace character then ⟨.between, tokens⟩
  else if character = quote then ⟨.literal [], tokens⟩
  else if character = doubleQuote then ⟨.identifier [], tokens⟩
  else if character = '$' then ⟨.dollarTag [], tokens⟩
  else if isWordChar character then ⟨.word [character], tokens⟩
  else if isOperatorChar character then ⟨.operator [character], tokens⟩
  else ⟨.between, tokens ++ [.punctuation character]⟩

/-- A character of a comment that nests. -/
def stepComment (tokens : List Token) (depth : ℕ) (last character : Char) :
    State :=
  if last = '*' ∧ character = '/' then
    if depth ≤ 1 then ⟨.between, tokens⟩
    else ⟨.blockComment (depth - 1) ' ', tokens⟩
  else if last = '/' ∧ character = '*' then
    ⟨.blockComment (depth + 1) ' ', tokens⟩
  else ⟨.blockComment depth character, tokens⟩

/-- A character of a dollar-quoted literal, which its tag ends. -/
def stepDollar (tokens : List Token) (tag body : List Char)
    (character : Char) : State :=
  let delimiter := '$' :: (tag ++ ['$'])
  let body := body ++ [character]
  if delimiter.isSuffixOf body then
    ⟨.between, tokens ++ [.literal (body.take (body.length -
      delimiter.length))]⟩
  else ⟨.dollarBody tag body, tokens⟩

def stepMode (tokens : List Token) (character : Char) : Mode → State
  | .between => begin tokens character
  | .word text =>
      if isWordChar character then ⟨.word (text ++ [character]), tokens⟩
      else if character = quote ∧ (text = ['e'] ∨ text = ['E']) then
        ⟨.escapes [], tokens⟩
      else begin (tokens ++ [.word text]) character
  | .operator text =>
      if character = '-' ∧ text.getLast? = some '-' then
        ⟨.lineComment, tokens ++ operatorBefore text⟩
      else if character = '*' ∧ text.getLast? = some '/' then
        ⟨.blockComment 1 ' ', tokens ++ operatorBefore text⟩
      else if isOperatorChar character then
        ⟨.operator (text ++ [character]), tokens⟩
      else begin (tokens ++ [.operator text]) character
  | .literal content =>
      if character = quote then ⟨.closing content, tokens⟩
      else ⟨.literal (content ++ [character]), tokens⟩
  | .closing content =>
      if character = quote then ⟨.literal (content ++ [quote]), tokens⟩
      else begin (tokens ++ [.literal content]) character
  | .escapes content =>
      if character = quote then ⟨.escapesClosing content, tokens⟩
      else if character = backslash then
        ⟨.escaped (content ++ [backslash]), tokens⟩
      else ⟨.escapes (content ++ [character]), tokens⟩
  | .escaped content => ⟨.escapes (content ++ [character]), tokens⟩
  | .escapesClosing content =>
      if character = quote then ⟨.escapes (content ++ [quote]), tokens⟩
      else begin (tokens ++ [.escapeLiteral content]) character
  | .identifier content =>
      if character = doubleQuote then
        ⟨.between, tokens ++ [.identifier content]⟩
      else ⟨.identifier (content ++ [character]), tokens⟩
  | .lineComment =>
      if character = '\n' ∨ character = '\r' then ⟨.between, tokens⟩
      else ⟨.lineComment, tokens⟩
  | .blockComment depth last => stepComment tokens depth last character
  | .dollarTag tag =>
      if character = '$' then ⟨.dollarBody tag [], tokens⟩
      else if tag = [] ∧ character.isDigit then
        ⟨.word ['$', character], tokens⟩
      else if isWordChar character then
        ⟨.dollarTag (tag ++ [character]), tokens⟩
      else begin (tokens ++ [.word ('$' :: tag)]) character
  | .dollarBody tag body => stepDollar tokens tag body character
  | .ended => ⟨.ended, tokens⟩

def State.step (state : State) (character : Char) : State :=
  if character = terminator then ⟨.ended, state.finish⟩
  else stepMode state.tokens character state.mode

def State.run (state : State) (text : List Char) : State :=
  text.foldl State.step state

def lex (text : List Char) : List Token := (start.run text).finish

/-- A token without the content of its literal. -/
def Token.erase : Token → Token
  | .literal _ => .literal []
  | .escapeLiteral _ => .escapeLiteral []
  | token => token

def skeleton (tokens : List Token) : List Token := tokens.map Token.erase

/-- The content of the literal that a quote begins in a state, if the text after
the quote closes it. -/
def State.literalAt (state : State) (text : List Char) : Option (List Char) :=
  if state.mode = .between then
    match ((State.run ⟨.literal [], []⟩ text).finish).head? with
    | some (.literal content) => some content
    | _ => none
  else none

/-! ## Composed statements -/

/-- A part of a composed statement: a text, or a string that is put between
quotes as it is. -/
inductive Piece
  | text (text : String)
  | quoted (content : String)

def Piece.chars : Piece → List Char
  | .text fixed => fixed.toList
  | .quoted content => quote :: (content.toList ++ [quote])

def compose (pieces : List Piece) : List Char := pieces.flatMap Piece.chars

/-- Every quoted string is lexed as a literal that holds it. -/
def Quotes : State → List Piece → Prop
  | _, [] => True
  | state, .text text :: pieces => Quotes (state.run text.toList) pieces
  | state, .quoted content :: pieces =>
      state.literalAt (content.toList ++ quote :: compose pieces) =
          some content.toList ∧
        Quotes (state.run (Piece.quoted content).chars) pieces

/-- A string without quotes and without the end of a C string. -/
def Clean (content : String) : Prop :=
  quote ∉ content.toList ∧ terminator ∉ content.toList

instance (content : String) : Decidable (Clean content) :=
  inferInstanceAs (Decidable (_ ∧ _))

/-- Every quoted string is clean and stands where a literal can begin. -/
def Admits : State → List Piece → Prop
  | _, [] => True
  | state, .text text :: pieces => Admits (state.run text.toList) pieces
  | state, .quoted content :: pieces =>
      state.mode = .between ∧ Clean content ∧
        Admits (state.run (Piece.quoted content).chars) pieces

/-- After every quoted string there is a text that begins with a blank. -/
def Spaced : List Piece → Prop
  | [] => True
  | .text _ :: pieces => Spaced pieces
  | .quoted _ :: pieces =>
      (∃ text rest, pieces = .text text :: rest ∧
        text.toList.head? = some ' ') ∧ Spaced pieces

/-- Two statements with the same texts and quoted strings in the same
places. -/
inductive SameShape : List Piece → List Piece → Prop
  | nil : SameShape [] []
  | text (text : String) {first second : List Piece}
      (hrest : SameShape first second) :
      SameShape (.text text :: first) (.text text :: second)
  | quoted (left right : String) {first second : List Piece}
      (hrest : SameShape first second) :
      SameShape (.quoted left :: first) (.quoted right :: second)

/-! ## Runs -/

theorem run_append (state : State) (first second : List Char) :
    state.run (first ++ second) = (state.run first).run second :=
  List.foldl_append

@[simp]
theorem run_cons (state : State) (character : Char) (text : List Char) :
    state.run (character :: text) = (state.step character).run text := rfl

@[simp]
theorem run_nil (state : State) : state.run [] = state := rfl

theorem finish_eq (mode : Mode) (tokens : List Token) :
    State.finish ⟨mode, tokens⟩ = tokens ++ State.finish ⟨mode, []⟩ := by
  cases mode <;> simp [State.finish]

theorem begin_eq (tokens : List Token) (character : Char) :
    begin tokens character =
      ⟨(begin [] character).mode, tokens ++ (begin [] character).tokens⟩ := by
  simp only [begin]
  split_ifs <;> simp

theorem stepMode_eq (tokens : List Token) (character : Char) (mode : Mode) :
    stepMode tokens character mode =
      ⟨(stepMode [] character mode).mode,
        tokens ++ (stepMode [] character mode).tokens⟩ := by
  have hbegin (added : List Token) : begin (tokens ++ added) character =
      ⟨(begin added character).mode,
        tokens ++ (begin added character).tokens⟩ := by
    rw [begin_eq (tokens ++ added), begin_eq added, List.append_assoc]
  cases mode with
  | between =>
      have hempty := hbegin []
      rwa [List.append_nil] at hempty
  | word text =>
      simp only [stepMode, hbegin]
      split_ifs <;> simp
  | operator text =>
      simp only [stepMode, hbegin]
      split_ifs <;> simp
  | closing content =>
      simp only [stepMode, hbegin]
      split_ifs <;> simp
  | escapesClosing content =>
      simp only [stepMode, hbegin]
      split_ifs <;> simp
  | dollarTag tag =>
      simp only [stepMode, hbegin]
      split_ifs <;> simp
  | blockComment depth last =>
      simp only [stepMode, stepComment]
      split_ifs <;> simp
  | dollarBody tag body =>
      simp only [stepMode, stepDollar]
      split_ifs <;> simp
  | literal content | escapes content | identifier content | lineComment =>
      simp only [stepMode]
      split_ifs <;> simp
  | escaped content | ended => simp [stepMode]

/-- The tokens before a step stay in front of those it adds. -/
theorem step_eq (mode : Mode) (tokens : List Token) (character : Char) :
    State.step ⟨mode, tokens⟩ character =
      ⟨(State.step ⟨mode, []⟩ character).mode,
        tokens ++ (State.step ⟨mode, []⟩ character).tokens⟩ := by
  simp only [State.step]
  split
  · rw [finish_eq]
  · exact stepMode_eq tokens character mode

theorem run_eq (mode : Mode) (tokens : List Token) (text : List Char) :
    State.run ⟨mode, tokens⟩ text =
      ⟨(State.run ⟨mode, []⟩ text).mode,
        tokens ++ (State.run ⟨mode, []⟩ text).tokens⟩ := by
  induction text generalizing mode tokens with
  | nil => simp
  | cons character text ih =>
      rw [run_cons, run_cons, step_eq]
      generalize State.step ⟨mode, []⟩ character = next
      rw [ih, ih next.mode next.tokens, List.append_assoc]

/-- The tokens of a text after those before it. -/
theorem finish_run_eq (mode : Mode) (tokens : List Token) (text : List Char) :
    (State.run ⟨mode, tokens⟩ text).finish =
      tokens ++ (State.run ⟨mode, []⟩ text).finish := by
  rw [run_eq, finish_eq, List.append_assoc]
  congr 1
  exact (finish_eq _ _).symm

/-! ## Literals -/

/-- What is read of a literal after its opening quote. -/
def literalContent : List Char → Option (List Char)
  | [] => none
  | [character] => if character = quote then some [] else none
  | character :: next :: text =>
      if character = terminator then none
      else if character = quote then
        if next = quote then (literalContent text).map (quote :: ·)
        else some []
      else (literalContent (next :: text)).map (character :: ·)

theorem quote_ne_terminator : quote ≠ terminator := by decide

theorem step_terminator (state : State) :
    state.step terminator = ⟨.ended, state.finish⟩ := if_pos rfl

@[simp]
theorem step_literal_quote (content : List Char) (tokens : List Token) :
    State.step ⟨.literal content, tokens⟩ quote =
      ⟨.closing content, tokens⟩ := by
  rw [State.step, if_neg quote_ne_terminator]
  simp only [stepMode, if_true]

theorem step_literal {character : Char} (hopen : character ≠ quote)
    (hrunning : character ≠ terminator) (content : List Char)
    (tokens : List Token) :
    State.step ⟨.literal content, tokens⟩ character =
      ⟨.literal (content ++ [character]), tokens⟩ := by
  rw [State.step, if_neg hrunning]
  exact if_neg hopen

@[simp]
theorem step_closing_quote (content : List Char) (tokens : List Token) :
    State.step ⟨.closing content, tokens⟩ quote =
      ⟨.literal (content ++ [quote]), tokens⟩ := by
  rw [State.step, if_neg quote_ne_terminator]
  simp only [stepMode, if_true]

/-- A literal that is followed by another character than a quote ends. -/
theorem step_closing {character : Char} (hcloses : character ≠ quote)
    (content : List Char) :
    ∃ mode added, State.step ⟨.closing content, []⟩ character =
      ⟨mode, .literal content :: added⟩ := by
  rw [State.step]
  split
  · exact ⟨.ended, [], rfl⟩
  · simp only [stepMode, if_neg hcloses]
    rw [begin_eq]
    exact ⟨_, _, rfl⟩

/-- The first token that is read in a literal. -/
theorem head?_finish_literal (content text : List Char) :
    (State.run ⟨.literal content, []⟩ text).finish.head? =
      some ((literalContent text).elim .unterminated
        fun rest => .literal (content ++ rest)) := by
  induction text using literalContent.induct generalizing content with
  | case1 => rfl
  | case2 =>
      rw [run_cons, step_literal_quote, literalContent, if_pos rfl,
        Option.elim_some, List.append_nil]
      rfl
  | case3 character hopen =>
      rw [run_cons, literalContent, if_neg hopen]
      by_cases hrunning : character = terminator
      · rw [hrunning, step_terminator]
        rfl
      · rw [step_literal hopen hrunning]
        rfl
  | case4 next text =>
      rw [run_cons, step_terminator, finish_run_eq, literalContent,
        if_pos rfl]
      rfl
  | case5 text hquote ih =>
      rw [run_cons, run_cons, step_literal_quote, step_closing_quote, ih,
        literalContent, if_neg hquote, if_pos rfl, if_pos rfl]
      cases literalContent text with
      | none => rfl
      | some rest => simp
  | case6 next text hcloses hquote =>
      obtain ⟨mode, added, hstep⟩ := step_closing hcloses content
      rw [run_cons, run_cons, step_literal_quote, hstep, finish_run_eq,
        literalContent, if_neg hquote, if_pos rfl, if_neg hcloses,
        Option.elim_some, List.append_nil]
      rfl
  | case7 character next text hrunning hopen ih =>
      rw [run_cons, step_literal hopen hrunning, ih, literalContent,
        if_neg hrunning, if_neg hopen]
      cases literalContent (next :: text) with
      | none => rfl
      | some rest => simp

theorem literalAt_eq (state : State) (text : List Char) :
    state.literalAt text =
      if state.mode = .between then literalContent text else none := by
  rw [State.literalAt, head?_finish_literal]
  cases literalContent text with
  | none => rfl
  | some content => rfl

theorem literalContent_cons {character : Char}
    (hrunning : character ≠ terminator) (hopen : character ≠ quote)
    (text : List Char) :
    literalContent (character :: text) =
      (literalContent text).map (character :: ·) := by
  cases text with
  | nil => exact if_neg hopen
  | cons next text =>
      rw [literalContent, if_neg hrunning, if_neg hopen]

theorem literalContent_terminator (text : List Char) :
    literalContent (terminator :: text) = none := by
  cases text with
  | nil => rfl
  | cons next text => rfl

theorem literalContent_quote_quote (text : List Char) :
    literalContent (quote :: quote :: text) =
      (literalContent text).map (quote :: ·) := by
  rw [literalContent, if_neg quote_ne_terminator, if_pos rfl, if_pos rfl]

theorem literalContent_quote {next : Char} (hcloses : next ≠ quote)
    (text : List Char) : literalContent (quote :: next :: text) = some [] := by
  rw [literalContent, if_neg quote_ne_terminator, if_pos rfl,
    if_neg hcloses]

/-- If the text to come out begins with another character than a quote, it is no
longer than the body. -/
theorem count_eq_zero {character : Char} (hopen : character ≠ quote)
    {read : Option (List Char)} {count : ℕ} {body : List Char}
    (hread : read.map (character :: ·) =
      some (List.replicate count quote ++ body)) : count = 0 := by
  obtain ⟨content, -, hcontent⟩ := Option.map_eq_some_iff.mp hread
  cases count with
  | zero => rfl
  | succ count => exact absurd (List.cons.inj hcontent).1 hopen

/-- A string that is put between quotes is read back from the literal only if it
has no quote.  The induction needs the same of a text that is to come out longer
by some quotes. -/
theorem clean_of_literalContent {body rest : List Char} {count : ℕ}
    (hread : literalContent (body ++ quote :: ' ' :: rest) =
      some (List.replicate count quote ++ body)) :
    count = 0 ∧ quote ∉ body ∧ terminator ∉ body := by
  induction body using literalContent.induct generalizing count with
  | case1 =>
      rw [List.nil_append, literalContent_quote (by decide)] at hread
      have hcount := congrArg List.length (Option.some.inj hread)
      simp only [List.length_append, List.length_replicate,
        List.length_nil] at hcount
      exact ⟨by omega, List.not_mem_nil, List.not_mem_nil⟩
  | case2 =>
      rw [List.cons_append, List.nil_append, literalContent_quote_quote,
        literalContent_cons (by decide) (by decide), Option.map_map] at hread
      obtain ⟨content, -, hcontent⟩ := Option.map_eq_some_iff.mp hread
      have hblank : ' ' ∈ List.replicate count quote ++ [quote] := by
        rw [← hcontent]
        exact List.mem_cons_of_mem quote List.mem_cons_self
      rw [← List.replicate_succ'] at hblank
      exact absurd (List.eq_of_mem_replicate hblank) (by decide)
  | case3 character hopen =>
      by_cases hrunning : character = terminator
      · rw [hrunning, List.cons_append, literalContent_terminator] at hread
        cases hread
      · rw [List.cons_append, literalContent_cons hrunning hopen] at hread
        refine ⟨count_eq_zero hopen hread, ?_, ?_⟩
        · rw [List.mem_singleton]
          exact Ne.symm hopen
        · rw [List.mem_singleton]
          exact Ne.symm hrunning
  | case4 next text =>
      rw [List.cons_append, literalContent_terminator] at hread
      cases hread
  | case5 text hquote ih =>
      rw [List.cons_append, List.cons_append,
        literalContent_quote_quote] at hread
      obtain ⟨content, hrest, hcontent⟩ := Option.map_eq_some_iff.mp hread
      have hlonger : List.replicate count quote ++ quote :: quote :: text =
          quote :: (List.replicate (count + 1) quote ++ text) :=
        calc
          List.replicate count quote ++ quote :: quote :: text
            = List.replicate count quote ++ List.replicate 2 quote ++
                text := by
              rw [List.append_assoc]
              rfl
          _ = List.replicate (count + 2) quote ++ text := by
              rw [List.replicate_append_replicate]
          _ = quote :: (List.replicate (count + 1) quote ++ text) := rfl
      rw [hlonger] at hcontent
      rw [(List.cons.inj hcontent).2] at hrest
      exact absurd (ih hrest).1 (Nat.succ_ne_zero count)
  | case6 next text hcloses hquote =>
      rw [List.cons_append, List.cons_append,
        literalContent_quote hcloses] at hread
      have hlength := congrArg List.length (Option.some.inj hread)
      simp at hlength
  | case7 character next text hrunning hopen ih =>
      rw [List.cons_append, literalContent_cons hrunning hopen] at hread
      have hcount := count_eq_zero hopen hread
      obtain ⟨content, hrest, hcontent⟩ := Option.map_eq_some_iff.mp hread
      rw [hcount] at hcontent
      have htext : content = List.replicate 0 quote ++ next :: text :=
        (List.cons.inj hcontent).2
      rw [htext] at hrest
      obtain ⟨-, hquotes, hterminators⟩ := ih hrest
      refine ⟨hcount, ?_, ?_⟩
      · exact List.not_mem_cons_of_ne_of_not_mem (Ne.symm hopen) hquotes
      · exact List.not_mem_cons_of_ne_of_not_mem (Ne.symm hrunning)
          hterminators

/-- A string without quotes is read back. -/
theorem literalContent_of_clean {body : List Char} (hquote : quote ∉ body)
    (hterminator : terminator ∉ body) (rest : List Char) :
    literalContent (body ++ quote :: ' ' :: rest) = some body := by
  induction body with
  | nil => exact literalContent_quote (by decide) rest
  | cons character body ih =>
      rw [List.mem_cons, not_or] at hquote hterminator
      rw [List.cons_append, literalContent_cons (Ne.symm hterminator.1)
        (Ne.symm hquote.1), ih hquote.2 hterminator.2, Option.map_some]

/-! ## Quoted strings -/

/-- A quoted string that a blank follows is lexed as a literal that holds it
exactly where a literal can begin and the string is clean. -/
theorem literalAt_iff (state : State) (content : String)
    (rest : List Char) :
    state.literalAt (content.toList ++ quote :: ' ' :: rest) =
        some content.toList ↔
      state.mode = .between ∧ Clean content := by
  rw [literalAt_eq]
  split
  · next hbetween =>
      constructor
      · intro hread
        exact ⟨hbetween, (clean_of_literalContent
          (show _ = some (List.replicate 0 quote ++ content.toList) from
            hread)).2⟩
      · rintro ⟨-, hquote, hterminator⟩
        exact literalContent_of_clean hquote hterminator rest
  · next hinside =>
      exact iff_of_false (by simp) fun hclean => hinside hclean.1

theorem run_literal {body : List Char} (hquote : quote ∉ body)
    (hterminator : terminator ∉ body) (content : List Char)
    (tokens : List Token) :
    State.run ⟨.literal content, tokens⟩ body =
      ⟨.literal (content ++ body), tokens⟩ := by
  induction body generalizing content with
  | nil => rw [run_nil, List.append_nil]
  | cons character body ih =>
      rw [List.mem_cons, not_or] at hquote hterminator
      rw [run_cons, step_literal (Ne.symm hquote.1) (Ne.symm hterminator.1),
        ih hquote.2 hterminator.2, List.append_assoc]
      rfl

/-- After a clean quoted string the literal only waits for its end. -/
theorem run_quoted {content : String} (hclean : Clean content)
    (tokens : List Token) :
    State.run ⟨.between, tokens⟩ (Piece.quoted content).chars =
      ⟨.closing content.toList, tokens⟩ := by
  rw [Piece.chars, run_cons]
  have hopened : State.step ⟨.between, tokens⟩ quote =
      ⟨.literal [], tokens⟩ := rfl
  rw [hopened, run_append, run_literal hclean.1 hclean.2, run_cons,
    step_literal_quote, run_nil]
  rfl

theorem step_closing_blank (content : List Char) (tokens : List Token) :
    State.step ⟨.closing content, tokens⟩ ' ' =
      ⟨.between, tokens ++ [.literal content]⟩ := rfl

theorem compose_cons (piece : Piece) (pieces : List Piece) :
    compose (piece :: pieces) = piece.chars ++ compose pieces :=
  List.flatMap_cons

/-- A blank follows a quoted string of a spaced statement. -/
theorem exists_compose_eq {content : String} {pieces : List Piece}
    (hspaced : Spaced (.quoted content :: pieces)) :
    ∃ rest, compose pieces = ' ' :: rest := by
  obtain ⟨⟨text, rest, rfl, hblank⟩, -⟩ := hspaced
  obtain ⟨tail, htail⟩ := List.head?_eq_some_iff.mp hblank
  exact ⟨tail ++ compose rest, by
    rw [compose_cons, Piece.chars, htail, List.cons_append]⟩

/-- Quoted strings are lexed as literals that hold them exactly when they are
clean and stand where a literal can begin. -/
theorem quotes_iff_admits {pieces : List Piece} (hspaced : Spaced pieces)
    (state : State) : Quotes state pieces ↔ Admits state pieces := by
  induction pieces generalizing state with
  | nil => exact Iff.rfl
  | cons piece pieces ih =>
      cases piece with
      | text text => exact ih hspaced _
      | quoted content =>
          obtain ⟨rest, hrest⟩ := exists_compose_eq hspaced
          rw [Quotes, Admits, hrest, literalAt_iff, and_assoc,
            ih hspaced.2]

theorem mode_run_congr {first second : State}
    (hmode : first.mode = second.mode) (text : List Char) :
    (first.run text).mode = (second.run text).mode := by
  obtain ⟨mode, tokens⟩ := first
  obtain ⟨other, others⟩ := second
  obtain rfl : mode = other := hmode
  rw [run_eq mode tokens, run_eq mode others]

/-- Whether quoted strings are admitted does not depend on earlier tokens. -/
theorem admits_congr {first second : State} (hmode : first.mode = second.mode)
    (pieces : List Piece) : Admits first pieces ↔ Admits second pieces := by
  induction pieces generalizing first second with
  | nil => exact Iff.rfl
  | cons piece pieces ih =>
      cases piece with
      | text text => exact ih (mode_run_congr hmode text.toList)
      | quoted content =>
          rw [Admits, Admits, hmode,
            ih (mode_run_congr hmode (Piece.quoted content).chars)]

/-- After a quoted string and a blank the lexer is where it starts. -/
theorem admits_quoted_text {text : String}
    (hblank : text.toList.head? = some ' ') (state : State) (content : String)
    (pieces : List Piece) :
    Admits state (.quoted content :: .text text :: pieces) ↔
      state.mode = .between ∧ Clean content ∧
        Admits (start.run text.toList) pieces := by
  obtain ⟨mode, tokens⟩ := state
  rw [Admits, Admits]
  apply and_congr_right
  intro hbetween
  obtain rfl : mode = .between := hbetween
  apply and_congr_right
  intro hclean
  obtain ⟨tail, htail⟩ := List.head?_eq_some_iff.mp hblank
  apply admits_congr
  rw [run_quoted hclean, htail, run_cons, run_cons, step_closing_blank]
  have hmode : (⟨.between, tokens ++ [.literal content.toList]⟩ :
      State).mode = (start.step ' ').mode := rfl
  exact mode_run_congr hmode tail

/-! ## Texts without quotes -/

/-- A literal, an identifier or a comment is being read, or nothing any more. -/
def Mode.Inside : Mode → Prop
  | .literal _ | .escapes _ | .escaped _ | .identifier _ | .lineComment
  | .blockComment _ _ | .dollarBody _ _ | .ended => True
  | _ => False

/-- A character that ends no literal, identifier or comment. -/
def IsPlain (character : Char) : Prop :=
  character ∉ [terminator, quote, doubleQuote, backslash, '\n', '\r', '*', '/',
    '$']

instance (character : Char) : Decidable (IsPlain character) :=
  inferInstanceAs (Decidable (_ ∉ _))

/-- Plain texts are recognized character by character. -/
theorem forall_isPlain {text : List Char}
    (hall : text.all (fun character => decide (IsPlain character)) = true) :
    ∀ character ∈ text, IsPlain character :=
  fun character hmem =>
    of_decide_eq_true (List.all_eq_true.mp hall character hmem)

theorem stepDollar_of_plain {character : Char} (hdollar : character ≠ '$')
    (tokens : List Token) (tag body : List Char) :
    stepDollar tokens tag body character =
      ⟨.dollarBody tag (body ++ [character]), tokens⟩ := by
  rw [stepDollar, if_neg]
  intro hsuffix
  rw [List.isSuffixOf_iff_suffix] at hsuffix
  obtain ⟨before, hbefore⟩ := hsuffix
  rw [← List.cons_append, ← List.append_assoc] at hbefore
  have hlast := (List.append_inj' hbefore rfl).2
  exact hdollar (List.cons.inj hlast).1.symm

theorem inside_step {state : State} (hinside : state.mode.Inside)
    {character : Char} (hplain : IsPlain character) :
    (state.step character).mode.Inside := by
  obtain ⟨mode, tokens⟩ := state
  simp only [IsPlain, List.mem_cons, List.not_mem_nil, or_false,
    not_or] at hplain
  obtain ⟨hterminator, hquote, hdouble, hbackslash, hline, hreturn, hstar,
    hslash, hdollar⟩ := hplain
  rw [State.step, if_neg hterminator]
  cases mode with
  | literal content => simp [stepMode, hquote, Mode.Inside]
  | escapes content => simp [stepMode, hquote, hbackslash, Mode.Inside]
  | escaped content => simp [stepMode, Mode.Inside]
  | identifier content => simp [stepMode, hdouble, Mode.Inside]
  | lineComment => simp [stepMode, hline, hreturn, Mode.Inside]
  | blockComment depth last =>
      simp [stepMode, stepComment, hslash, hstar, Mode.Inside]
  | dollarBody tag body =>
      simp [stepMode, stepDollar_of_plain hdollar, Mode.Inside]
  | ended => simp [stepMode, Mode.Inside]
  | _ => exact hinside.elim

theorem inside_run {state : State} (hinside : state.mode.Inside)
    {text : List Char} (hplain : ∀ character ∈ text, IsPlain character) :
    (state.run text).mode.Inside := by
  induction text generalizing state with
  | nil => exact hinside
  | cons character text ih =>
      have hstep := inside_step hinside (hplain character List.mem_cons_self)
      exact ih hstep fun other hother =>
        hplain other (List.mem_cons_of_mem character hother)

/-- A blank ends every token but those that can hold it. -/
theorem step_blank (state : State) :
    (state.step ' ').mode = .between ∨ (state.step ' ').mode.Inside := by
  have hplain : IsPlain ' ' := by decide
  by_cases hinside : state.mode.Inside
  · exact Or.inr (inside_step hinside hplain)
  · apply Or.inl
    obtain ⟨mode, tokens⟩ := state
    cases mode with
    | between | word text | operator text | closing content
    | escapesClosing content => rfl
    | dollarTag tag =>
        cases tag with
        | nil => rfl
        | cons character tag => rfl
    | _ => exact absurd trivial hinside

/-- A text that begins with a blank leads out of no literal or comment. -/
theorem step_blank_of_run {state : State} {text : List Char}
    (hplain : ∀ character ∈ text, IsPlain character)
    (hbetween : (state.run (' ' :: text)).mode = .between) :
    (state.step ' ').mode = .between := by
  rcases step_blank state with hstep | hinside
  · exact hstep
  · have hrun := inside_run hinside hplain
    rw [run_cons] at hbetween
    rw [hbetween] at hrun
    exact hrun.elim

/-- Where a plain text begins with a blank, a literal can begin after it exactly
if one can begin after the blank. -/
theorem mode_run_blank_iff {text : List Char}
    (hplain : ∀ character ∈ text, IsPlain character)
    (hbetween : (start.run (' ' :: text)).mode = .between) (state : State) :
    (state.run (' ' :: text)).mode = .between ↔
      (state.step ' ').mode = .between := by
  constructor
  · exact step_blank_of_run hplain
  · intro hblank
    have hmode : (state.step ' ').mode = (start.step ' ').mode := hblank
    rw [run_cons, mode_run_congr hmode]
    exact hbetween

/-- After a blank between tokens the lexer starts anew. -/
theorem finish_run_blank {state : State}
    (hbetween : (state.step ' ').mode = .between) (text : List Char) :
    (state.run (' ' :: text)).finish =
      (state.step ' ').tokens ++ lex (' ' :: text) := by
  rw [run_cons]
  generalize state.step ' ' = next at hbetween
  obtain ⟨mode, tokens⟩ := next
  obtain rfl : mode = .between := hbetween
  exact finish_run_eq .between tokens text

theorem compose_append (first second : List Piece) :
    compose (first ++ second) = compose first ++ compose second :=
  List.flatMap_append

/-- Texts before the first quoted string are read as one. -/
theorem admits_append {texts : List Piece}
    (htexts : ∀ piece ∈ texts, ∃ text, piece = .text text) (state : State)
    (pieces : List Piece) :
    Admits state (texts ++ pieces) ↔
      Admits (state.run (compose texts)) pieces := by
  induction texts generalizing state with
  | nil => exact Iff.rfl
  | cons piece texts ih =>
      obtain ⟨text, rfl⟩ := htexts piece List.mem_cons_self
      rw [List.cons_append, Admits, compose_cons, run_append]
      exact ih (fun other hother =>
        htexts other (List.mem_cons_of_mem _ hother)) _

theorem admits_texts {texts : List Piece}
    (htexts : ∀ piece ∈ texts, ∃ text, piece = .text text) (state : State) :
    Admits state texts := by
  have hadmits := admits_append htexts state []
  rw [List.append_nil] at hadmits
  exact hadmits.mpr trivial

theorem spaced_append {texts pieces : List Piece}
    (htexts : ∀ piece ∈ texts, ∃ text, piece = .text text)
    (hspaced : Spaced pieces) : Spaced (texts ++ pieces) := by
  induction texts with
  | nil => exact hspaced
  | cons piece texts ih =>
      obtain ⟨text, rfl⟩ := htexts piece List.mem_cons_self
      exact ih fun other hother =>
        htexts other (List.mem_cons_of_mem _ hother)

theorem spaced_texts {texts : List Piece}
    (htexts : ∀ piece ∈ texts, ∃ text, piece = .text text) :
    Spaced texts := by
  have hspaced := @spaced_append texts [] htexts trivial
  rwa [List.append_nil] at hspaced

theorem sameShape_append (pieces : List Piece) {first second : List Piece}
    (hshape : SameShape first second) :
    SameShape (pieces ++ first) (pieces ++ second) := by
  induction pieces with
  | nil => exact hshape
  | cons piece pieces ih =>
      cases piece with
      | text text => exact .text text ih
      | quoted content => exact .quoted content content ih

theorem sameShape_refl (pieces : List Piece) : SameShape pieces pieces := by
  have hshape := sameShape_append pieces .nil
  rwa [List.append_nil] at hshape

/-! ## The other tokens -/

/-- Two states of the lexer that differ in the contents of literals only, before
a text. -/
def Alike (first second : State) (text : List Char) : Prop :=
  skeleton first.tokens = skeleton second.tokens ∧
    (first.mode = second.mode ∨
      ((∃ content, first.mode = .closing content) ∧
        (∃ content, second.mode = .closing content) ∧
        ∃ rest, text = ' ' :: rest))

theorem skeleton_append (first second : List Token) :
    skeleton (first ++ second) = skeleton first ++ skeleton second :=
  List.map_append

theorem Alike.run {first second : State} {text rest : List Char}
    (halike : Alike first second (text ++ rest)) :
    Alike (first.run text) (second.run text) rest := by
  have hsame {left right : State} {characters : List Char}
      (htokens : skeleton left.tokens = skeleton right.tokens)
      (hmode : left.mode = right.mode) :
      Alike (left.run characters) (right.run characters) rest := by
    obtain ⟨mode, tokens⟩ := left
    obtain ⟨other, others⟩ := right
    obtain rfl : mode = other := hmode
    rw [run_eq mode tokens, run_eq mode others]
    refine ⟨?_, Or.inl rfl⟩
    simp only [skeleton_append]
    rw [htokens]
  obtain ⟨htokens, hmode | ⟨⟨left, hleft⟩, ⟨right, hright⟩, tail, htail⟩⟩ :=
    halike
  · exact hsame htokens hmode
  · cases text with
    | nil => exact ⟨htokens, Or.inr ⟨⟨left, hleft⟩, ⟨right, hright⟩,
        tail, htail⟩⟩
    | cons character text =>
        obtain rfl : character = ' ' := (List.cons.inj htail).1
        obtain ⟨mode, tokens⟩ := first
        obtain ⟨other, others⟩ := second
        obtain rfl : mode = .closing left := hleft
        obtain rfl : other = .closing right := hright
        rw [run_cons, run_cons, step_closing_blank, step_closing_blank]
        apply hsame
        · simp only [skeleton_append]
          rw [htokens]
          rfl
        · rfl

theorem Alike.finish {first second : State} (halike : Alike first second []) :
    skeleton first.finish = skeleton second.finish := by
  obtain ⟨htokens, hmode | ⟨-, -, rest, hrest⟩⟩ := halike
  · obtain ⟨mode, tokens⟩ := first
    obtain ⟨other, others⟩ := second
    obtain rfl : mode = other := hmode
    rw [finish_eq mode tokens, finish_eq mode others, skeleton_append,
      skeleton_append]
    rw [htokens]
  · cases hrest

theorem Alike.quoted {first second : State} {left right : String}
    {text rest : List Char} (halike : Alike first second text)
    (hfirst : first.mode = .between) (hsecond : second.mode = .between)
    (hleft : Clean left) (hright : Clean right) (hblank : rest.head? = some ' ') :
    Alike (first.run (Piece.quoted left).chars)
      (second.run (Piece.quoted right).chars) rest := by
  obtain ⟨mode, tokens⟩ := first
  obtain ⟨other, others⟩ := second
  obtain rfl : mode = .between := hfirst
  obtain rfl : other = .between := hsecond
  rw [run_quoted hleft, run_quoted hright]
  exact ⟨halike.1, Or.inr ⟨⟨_, rfl⟩, ⟨_, rfl⟩,
    List.head?_eq_some_iff.mp hblank⟩⟩

/-- Statements of the same shape have the same tokens up to the contents of
literals, if their quoted strings are admitted. -/
theorem skeleton_eq_of_sameShape {first second : List Piece}
    (hshape : SameShape first second) (hfirst : Spaced first)
    (hsecond : Spaced second) {left right : State}
    (hleft : Admits left first) (hright : Admits right second)
    (halike : Alike left right (compose first)) :
    skeleton (left.run (compose first)).finish =
      skeleton (right.run (compose second)).finish := by
  induction hshape generalizing left right with
  | nil => exact halike.finish
  | text text hrest ih =>
      rw [compose_cons] at halike
      rw [compose_cons, compose_cons, run_append, run_append]
      exact ih hfirst hsecond hleft hright halike.run
  | quoted content other hrest ih =>
      obtain ⟨hbetween, hclean, hadmits⟩ := hleft
      obtain ⟨hbetween', hclean', hadmits'⟩ := hright
      obtain ⟨rest, hblank⟩ := exists_compose_eq hfirst
      rw [compose_cons, compose_cons, run_append, run_append]
      apply ih hfirst.2 hsecond.2 hadmits hadmits'
      apply halike.quoted hbetween hbetween' hclean hclean'
      rw [hblank]
      rfl

/-- Composed statements differ in the contents of literals only, and every
quoted string is the content of its literal. -/
structure DifferInContents (first second : List Piece) : Prop where
  structure_eq : skeleton (lex (compose first)) = skeleton (lex (compose second))
  first_quotes : Quotes start first
  second_quotes : Quotes start second

/-- Statements of the same shape differ in contents only exactly when all their
quoted strings are admitted. -/
theorem differInContents_iff {first second : List Piece}
    (hshape : SameShape first second) (hfirst : Spaced first)
    (hsecond : Spaced second) :
    DifferInContents first second ↔
      Admits start first ∧ Admits start second := by
  constructor
  · intro hdiffer
    exact ⟨(quotes_iff_admits hfirst start).mp hdiffer.first_quotes,
      (quotes_iff_admits hsecond start).mp hdiffer.second_quotes⟩
  · rintro ⟨hleft, hright⟩
    refine ⟨?_, (quotes_iff_admits hfirst start).mpr hleft,
      (quotes_iff_admits hsecond start).mpr hright⟩
    exact skeleton_eq_of_sameShape hshape hfirst hsecond hleft hright
      ⟨rfl, Or.inl rfl⟩

end Datafeed.SqlLexer
