import Datafeed.Core.SqlLexer

/-!
# Statements with values in their texts

A statement whose values are written into its text: strings between quotes,
with their quotes doubled, printed texts between quotes, and numbers as they
are.  The fixed texts between the values are checked by themselves, which can be
computed.  Then the literals of the statement are its strings, and no string
affects a token besides its own literal.
-/

namespace Datafeed.SqlLexer

/-- What of a text is passed on as a C string. -/
def cString (text : List Char) : List Char :=
  text.takeWhile fun character => character ≠ terminator

def double (text : List Char) : List Char :=
  text.flatMap fun character =>
    if character = quote then [quote, quote] else [character]

/-- A function that escapes strings for the inside of a literal, as it is
documented for `standard_conforming_strings`. -/
structure Escaping where
  escape : String → String
  escape_eq : ∀ text, (escape text).toList = double (cString text.toList)

def isBareChar (character : Char) : Bool :=
  character.isAlphanum || character = '.'

/-- Letters, digits and points after at most one sign. -/
def IsBare (text : List Char) : Prop :=
  (if text.head? = some '-' then text.tail else text).all isBareChar = true

instance (text : List Char) : Decidable (IsBare text) :=
  inferInstanceAs (Decidable (_ = _))

/-- A value in the text of a statement. -/
inductive Slot
  | escaped (content : String)
  /-- A text between quotes that needs no escaping. -/
  | quoted (content : String) (hclean : Clean content)
  | plain (text : String) (hbare : IsBare text.toList)

def Slot.chars (escaping : Escaping) : Slot → List Char
  | .escaped content =>
      quote :: ((escaping.escape content).toList ++ [quote])
  | .quoted content _ => quote :: (content.toList ++ [quote])
  | .plain text _ => text.toList

/-- The content of the literal that the value becomes. -/
def Slot.content : Slot → Option (List Char)
  | .escaped content => some (cString content.toList)
  | .quoted content _ => some content.toList
  | .plain _ _ => none

/-- The value without the content of its literal. -/
def Slot.shape : Slot → Option String
  | .plain text _ => some text
  | _ => none

/-- A statement: a text, and values with a text after each. -/
structure Template where
  head : List Char
  slots : List (Slot × String)

def slotChars (escaping : Escaping) (slots : List (Slot × String)) :
    List Char :=
  slots.flatMap fun slot => slot.1.chars escaping ++ slot.2.toList

def Template.chars (escaping : Escaping) (template : Template) : List Char :=
  template.head ++ slotChars escaping template.slots

def Template.contents (template : Template) : List (List Char) :=
  template.slots.filterMap fun slot => slot.1.content

/-- The fixed texts, and the values without the contents of literals. -/
def Template.shape (template : Template) :
    List Char × List (Option String × String) :=
  (template.head, template.slots.map fun slot => (slot.1.shape, slot.2))

/-- The contents of the literals among the tokens. -/
def literals (tokens : List Token) : List (List Char) :=
  tokens.filterMap fun token =>
    match token with
    | .literal content => some content
    | _ => none

/-! ## The fixed texts -/

/-- A value can follow. -/
def Ready (mode : Mode) : Prop := mode = .between ∨ mode = .operator ['=']

instance (mode : Mode) : Decidable (Ready mode) :=
  inferInstanceAs (Decidable (_ ∨ _))

def isDelimiter (character : Char) : Bool :=
  [' ', ',', ')'].contains character

/-- A text has no literals, and each text but the last is one that a value can
follow. -/
def Sound : List Char → List String → Prop
  | text, [] => literals (State.run ⟨.between, []⟩ text).finish = []
  | text, next :: texts =>
      literals (State.run ⟨.between, []⟩ text).tokens = [] ∧
        Ready (State.run ⟨.between, []⟩ text).mode ∧
        next.toList.head?.all isDelimiter = true ∧
        (next = "" → texts = []) ∧ Sound next.toList texts

instance Sound.decidable : ∀ (text : List Char) (texts : List String),
    Decidable (Sound text texts)
  | _, [] => inferInstanceAs (Decidable (_ = _))
  | _, next :: texts =>
      have := Sound.decidable next.toList texts
      inferInstanceAs (Decidable (_ ∧ _))

def Template.Sound (template : Template) : Prop :=
  SqlLexer.Sound template.head (template.slots.map Prod.snd)

instance (template : Template) : Decidable template.Sound :=
  inferInstanceAs (Decidable (SqlLexer.Sound _ _))

/-! ## Tokens -/

theorem literals_append (first second : List Token) :
    literals (first ++ second) = literals first ++ literals second :=
  List.filterMap_append

theorem skeleton_literal (tokens : List Token) (content : List Char) :
    skeleton (tokens ++ [.literal content]) =
      skeleton tokens ++ [.literal []] := by
  rw [skeleton_append]
  rfl

/-! ## The lexing of a value -/

theorem terminator_notMem_cString (text : List Char) :
    terminator ∉ cString text := by
  intro hmem
  have hall : (cString text).all (fun character => character ≠ terminator) =
      true := List.all_takeWhile
  have hkept := List.all_eq_true.mp hall terminator hmem
  simp at hkept

/-- A doubled quote is a quote of the literal's content. -/
theorem run_double {text : List Char} (hterminator : terminator ∉ text)
    (content : List Char) (tokens : List Token) :
    State.run ⟨.literal content, tokens⟩ (double text) =
      ⟨.literal (content ++ text), tokens⟩ := by
  induction text generalizing content with
  | nil => rw [List.append_nil]; rfl
  | cons character text ih =>
      rw [List.mem_cons, not_or] at hterminator
      have hrest := ih hterminator.2 (content ++ [character])
      rw [List.append_assoc, List.singleton_append] at hrest
      rw [double, List.flatMap_cons, run_append]
      by_cases hquote : character = quote
      · subst hquote
        rw [if_pos rfl, run_cons, run_cons, run_nil, step_literal_quote,
          step_closing_quote]
        exact hrest
      · rw [if_neg hquote, run_cons, run_nil,
          step_literal hquote (Ne.symm hterminator.1)]
        exact hrest

/-- A quote where a value can follow begins a literal. -/
theorem Ready.step_quote {mode : Mode} (hready : Ready mode)
    (tokens : List Token) :
    State.step ⟨mode, tokens⟩ quote =
      ⟨.literal [], State.finish ⟨mode, tokens⟩⟩ := by
  rcases hready with rfl | rfl
  · rfl
  · rfl

theorem Ready.run_escaped {mode : Mode} (hready : Ready mode)
    (escaping : Escaping) (content : String) (tokens : List Token) :
    State.run ⟨mode, tokens⟩ ((Slot.escaped content).chars escaping) =
      ⟨.closing (cString content.toList), State.finish ⟨mode, tokens⟩⟩ := by
  rw [Slot.chars, run_cons, hready.step_quote, run_append, escaping.escape_eq,
    run_double (terminator_notMem_cString _), run_cons, run_nil,
    step_literal_quote, List.nil_append]

theorem Ready.run_quoted {mode : Mode} (hready : Ready mode)
    (escaping : Escaping) {content : String} (hclean : Clean content)
    (tokens : List Token) :
    State.run ⟨mode, tokens⟩ ((Slot.quoted content hclean).chars escaping) =
      ⟨.closing content.toList, State.finish ⟨mode, tokens⟩⟩ := by
  rw [Slot.chars, run_cons, hready.step_quote, run_append,
    run_literal hclean.1 hclean.2, run_cons, run_nil, step_literal_quote,
    List.nil_append]

/-- What is being read while a bare text is. -/
def Loose : Mode → Prop
  | .between | .word _ | .operator _ => True
  | _ => False

theorem not_contains_of_isBareChar {character : Char}
    (hbare : isBareChar character = true) {others : List Char}
    (hothers : others.all (fun other => !isBareChar other) = true) :
    others.contains character = false := by
  rw [Bool.eq_false_iff]
  intro hcontains
  have hother := List.all_eq_true.mp hothers character
    (List.contains_iff_mem.mp hcontains)
  rw [hbare] at hother
  cases hother

theorem ne_of_isBareChar {character other : Char}
    (hbare : isBareChar character = true)
    (hother : isBareChar other = false) : character ≠ other := by
  rintro rfl
  rw [hbare] at hother
  cases hother

theorem isOperatorChar_of_isBareChar {character : Char}
    (hbare : isBareChar character = true) :
    isOperatorChar character = false :=
  not_contains_of_isBareChar hbare (by decide)

theorem loose_begin {character : Char} (hbare : isBareChar character = true)
    (tokens : List Token) :
    Loose (begin tokens character).mode ∧
      literals (begin tokens character).tokens = literals tokens := by
  have hspace : isSpace character = false :=
    not_contains_of_isBareChar hbare (by decide)
  have hquote : character ≠ quote := ne_of_isBareChar hbare (by decide)
  have hdouble : character ≠ doubleQuote := ne_of_isBareChar hbare (by decide)
  have hdollar : character ≠ '$' := ne_of_isBareChar hbare (by decide)
  simp only [begin, hspace, isOperatorChar_of_isBareChar hbare, hquote,
    hdouble, hdollar, if_false, Bool.false_eq_true]
  split
  · exact ⟨trivial, rfl⟩
  · refine ⟨trivial, ?_⟩
    rw [literals_append]
    exact List.append_nil _

/-- A character of a bare text ends no literal and begins none. -/
theorem Loose.step {mode : Mode} (hloose : Loose mode) {character : Char}
    (hbare : isBareChar character = true) (tokens : List Token) :
    Loose (State.step ⟨mode, tokens⟩ character).mode ∧
      literals (State.step ⟨mode, tokens⟩ character).tokens =
        literals tokens := by
  have hterminator : character ≠ terminator :=
    ne_of_isBareChar hbare (by decide)
  rw [State.step, if_neg hterminator]
  cases mode with
  | between => exact loose_begin hbare tokens
  | word text =>
      have hquote : character ≠ quote := ne_of_isBareChar hbare (by decide)
      simp only [stepMode, hquote, false_and, if_false]
      split
      · exact ⟨trivial, rfl⟩
      · obtain ⟨hbegin, hliterals⟩ := loose_begin hbare (tokens ++ [.word text])
        rw [literals_append] at hliterals
        exact ⟨hbegin, hliterals.trans (List.append_nil _)⟩
  | operator text =>
      have hminus : character ≠ '-' := ne_of_isBareChar hbare (by decide)
      have hstar : character ≠ '*' := ne_of_isBareChar hbare (by decide)
      simp only [stepMode, hminus, hstar, false_and, if_false,
        isOperatorChar_of_isBareChar hbare, Bool.false_eq_true]
      obtain ⟨hbegin, hliterals⟩ :=
        loose_begin hbare (tokens ++ [.operator text])
      rw [literals_append] at hliterals
      exact ⟨hbegin, hliterals.trans (List.append_nil _)⟩
  | _ => exact hloose.elim

theorem Loose.run {state : State} (hloose : Loose state.mode)
    {text : List Char} (hbare : text.all isBareChar = true) :
    Loose (state.run text).mode ∧
      literals (state.run text).tokens = literals state.tokens := by
  induction text generalizing state with
  | nil => exact ⟨hloose, rfl⟩
  | cons character text ih =>
      rw [List.all_cons, Bool.and_eq_true] at hbare
      obtain ⟨hstep, hliterals⟩ := hloose.step hbare.1 state.tokens
      obtain ⟨hrun, htokens⟩ := ih hstep hbare.2
      exact ⟨hrun, htokens.trans hliterals⟩

theorem Ready.run_plain {mode : Mode} (hready : Ready mode) {text : List Char}
    (hbare : IsBare text) (tokens : List Token) :
    Loose (State.run ⟨mode, tokens⟩ text).mode ∧
      literals (State.run ⟨mode, tokens⟩ text).tokens = literals tokens := by
  have hloose : Loose mode := by
    rcases hready with rfl | rfl
    · trivial
    · trivial
  rw [IsBare] at hbare
  split_ifs at hbare with hsign
  · obtain ⟨rest, rfl⟩ := List.head?_eq_some_iff.mp hsign
    have hstep : Loose (State.step ⟨mode, tokens⟩ '-').mode ∧
        literals (State.step ⟨mode, tokens⟩ '-').tokens = literals tokens := by
      rcases hready with rfl | rfl
      · exact ⟨trivial, rfl⟩
      · exact ⟨trivial, rfl⟩
    obtain ⟨hrun, hliterals⟩ := Loose.run hstep.1 hbare
    exact ⟨hrun, hliterals.trans hstep.2⟩
  · exact Loose.run hloose hbare

/-! ## The text after a value -/

/-- A delimiter ends what is being read. -/
def Ends (mode : Mode) : Prop :=
  Loose mode ∨ ∃ content, mode = .closing content

theorem step_delimiter {mode : Mode} (hends : Ends mode) {character : Char}
    (hdelimiter : isDelimiter character = true) (tokens : List Token) :
    State.step ⟨mode, tokens⟩ character =
      State.step ⟨.between, State.finish ⟨mode, tokens⟩⟩ character := by
  have hmem : character = ' ' ∨ character = ',' ∨ character = ')' := by
    simpa [isDelimiter] using hdelimiter
  have hmode : ∃ text, mode = .between ∨ mode = .word text ∨
      mode = .operator text ∨ mode = .closing text := by
    rcases hends with hloose | ⟨content, rfl⟩
    · cases mode with
      | between => exact ⟨[], Or.inl rfl⟩
      | word text => exact ⟨text, Or.inr (Or.inl rfl)⟩
      | operator text => exact ⟨text, Or.inr (Or.inr (Or.inl rfl))⟩
      | _ => exact hloose.elim
    · exact ⟨content, Or.inr (Or.inr (Or.inr rfl))⟩
  obtain ⟨text, rfl | rfl | rfl | rfl⟩ := hmode <;>
    rcases hmem with rfl | rfl | rfl <;> rfl

/-- The text after a value is read as if nothing were before it. -/
theorem finish_run_delimiter {mode : Mode} (hends : Ends mode)
    {text : List Char} (hdelimiter : text.head?.all isDelimiter = true)
    (tokens : List Token) :
    (State.run ⟨mode, tokens⟩ text).finish =
      (State.run ⟨.between, State.finish ⟨mode, tokens⟩⟩ text).finish := by
  cases text with
  | nil => rfl
  | cons character text =>
      rw [run_cons, run_cons, step_delimiter hends hdelimiter]

theorem head?_slotChars {next : String} {slots : List (Slot × String)}
    (hdelimiter : next.toList.head?.all isDelimiter = true)
    (hlast : next = "" → slots.map Prod.snd = []) (escaping : Escaping) :
    (next.toList ++ slotChars escaping slots).head?.all isDelimiter = true := by
  by_cases hempty : next = ""
  · obtain rfl : slots = [] := List.map_eq_nil_iff.mp (hlast hempty)
    rw [hempty]
    rfl
  · have hcons : next.toList ≠ [] := fun hnil =>
      hempty (String.toList_eq_nil_iff.mp hnil)
    rw [List.head?_append_of_ne_nil _ hcons]
    exact hdelimiter

/-! ## Statements -/

theorem Loose.literals_finish {mode : Mode} (hloose : Loose mode)
    (tokens : List Token) :
    literals (State.finish ⟨mode, tokens⟩) = literals tokens := by
  cases mode with
  | between => rfl
  | word text => exact (literals_append _ _).trans (List.append_nil _)
  | operator text => exact (literals_append _ _).trans (List.append_nil _)
  | _ => exact hloose.elim

theorem Ready.literals_finish {mode : Mode} (hready : Ready mode)
    (tokens : List Token) :
    literals (State.finish ⟨mode, tokens⟩) = literals tokens := by
  rcases hready with rfl | rfl
  · rfl
  · exact (literals_append _ _).trans (List.append_nil _)

/-- A value adds its literal, if it becomes one. -/
theorem Ready.run_slot {mode : Mode} (hready : Ready mode) (slot : Slot)
    (escaping : Escaping) (tokens : List Token) :
    Ends (State.run ⟨mode, tokens⟩ (slot.chars escaping)).mode ∧
      literals (State.run ⟨mode, tokens⟩ (slot.chars escaping)).finish =
        literals tokens ++ slot.content.toList := by
  cases slot with
  | escaped content =>
      rw [hready.run_escaped]
      refine ⟨Or.inr ⟨_, rfl⟩, ?_⟩
      have hclosed := literals_append (State.finish ⟨mode, tokens⟩)
        [.literal (cString content.toList)]
      rw [hready.literals_finish] at hclosed
      exact hclosed
  | quoted content hclean =>
      rw [hready.run_quoted]
      refine ⟨Or.inr ⟨_, rfl⟩, ?_⟩
      have hclosed := literals_append (State.finish ⟨mode, tokens⟩)
        [.literal content.toList]
      rw [hready.literals_finish] at hclosed
      exact hclosed
  | plain text hbare =>
      obtain ⟨hloose, hliterals⟩ := hready.run_plain hbare tokens
      refine ⟨Or.inl hloose, ?_⟩
      have hfinish := hloose.literals_finish
        (State.run ⟨mode, tokens⟩ text.toList).tokens
      exact (hfinish.trans hliterals).trans (List.append_nil _).symm

theorem slotChars_cons (escaping : Escaping) (slot : Slot) (next : String)
    (slots : List (Slot × String)) :
    slotChars escaping ((slot, next) :: slots) =
      slot.chars escaping ++ (next.toList ++ slotChars escaping slots) := by
  rw [slotChars, List.flatMap_cons, List.append_assoc]
  rfl

/-- The tokens up to the end of a value, before the tokens after it. -/
def valueTokens (escaping : Escaping) (text : List Char) (slot : Slot)
    (tokens : List Token) : List Token :=
  let before := State.run ⟨.between, []⟩ text
  State.finish (State.run ⟨before.mode, tokens ++ before.tokens⟩
    (slot.chars escaping))

/-- One value of a statement is read, and then the rest. -/
theorem finish_run_slots_cons {text : List Char} {slot : Slot} {next : String}
    {slots : List (Slot × String)}
    (hsound : Sound text (next :: slots.map Prod.snd)) (escaping : Escaping)
    (tokens : List Token) :
    (State.run ⟨.between, tokens⟩
        (text ++ slotChars escaping ((slot, next) :: slots))).finish =
      (State.run ⟨.between, valueTokens escaping text slot tokens⟩
        (next.toList ++ slotChars escaping slots)).finish := by
  obtain ⟨-, hready, hdelimiter, hlast, -⟩ := hsound
  have hends := (hready.run_slot slot escaping
    (tokens ++ (State.run ⟨.between, []⟩ text).tokens)).1
  rw [slotChars_cons, run_append, run_eq .between tokens text,
    run_append]
  exact finish_run_delimiter hends
    (head?_slotChars hdelimiter hlast escaping) _

theorem literals_run_slots {text : List Char} {slots : List (Slot × String)}
    (hsound : Sound text (slots.map Prod.snd)) (escaping : Escaping)
    (tokens : List Token) :
    literals (State.run ⟨.between, tokens⟩
        (text ++ slotChars escaping slots)).finish =
      literals tokens ++ slots.filterMap fun slot => slot.1.content := by
  induction slots generalizing text tokens with
  | nil =>
      rw [List.map_nil, Sound] at hsound
      rw [slotChars, List.flatMap_nil, List.append_nil, finish_run_eq,
        literals_append, hsound]
      rfl
  | cons slot slots ih =>
      obtain ⟨slot, next⟩ := slot
      have hcons : Sound text (next :: slots.map Prod.snd) := hsound
      obtain ⟨hliterals, hready, -, -, hrest⟩ := hsound
      have hslot : literals (valueTokens escaping text slot tokens) =
          literals tokens ++ slot.content.toList := by
        rw [valueTokens, (hready.run_slot slot escaping _).2, literals_append,
          hliterals, List.append_nil]
      rw [finish_run_slots_cons hcons, ih hrest, hslot, List.append_assoc]
      congr 1
      rw [List.filterMap_cons]
      cases slot.content with
      | none => rfl
      | some content => rfl

/-- The literals of a statement are its strings, in their order. -/
theorem literals_lex {template : Template} (hsound : template.Sound)
    (escaping : Escaping) :
    literals (lex (template.chars escaping)) = template.contents :=
  literals_run_slots hsound escaping []

/-- Values with the same shape are read alike. -/
theorem Ready.skeleton_slot {mode : Mode} (hready : Ready mode)
    {first second : Slot} (hshape : first.shape = second.shape)
    (escaping : Escaping) {tokens others : List Token}
    (hskeleton : skeleton tokens = skeleton others) :
    skeleton (State.run ⟨mode, tokens⟩ (first.chars escaping)).finish =
      skeleton (State.run ⟨mode, others⟩ (second.chars escaping)).finish := by
  have hliteral : ∀ (slot : Slot), slot.shape = none → ∀ read,
      skeleton (State.run ⟨mode, read⟩ (slot.chars escaping)).finish =
        skeleton (State.finish ⟨mode, read⟩) ++ [.literal []] := by
    intro slot hnone read
    cases slot with
    | escaped content =>
        rw [hready.run_escaped]
        exact skeleton_literal _ _
    | quoted content hclean =>
        rw [hready.run_quoted]
        exact skeleton_literal _ _
    | plain text hbare => cases hnone
  cases hkind : first.shape with
  | none =>
      rw [hliteral first hkind, hliteral second (hshape ▸ hkind),
        SqlLexer.finish_eq, SqlLexer.finish_eq mode others, skeleton_append,
        skeleton_append, hskeleton]
  | some text =>
      have hplain : ∀ (slot : Slot), slot.shape = some text →
          slot.chars escaping = text.toList := by
        intro slot hsome
        cases slot with
        | plain other hbare =>
            obtain rfl : other = text := Option.some.inj hsome
            rfl
        | _ => cases hsome
      rw [hplain first hkind, hplain second (hshape ▸ hkind), finish_run_eq,
        finish_run_eq mode others, skeleton_append, skeleton_append, hskeleton]

theorem skeleton_run_slots {text : List Char}
    {first second : List (Slot × String)}
    (hsound : Sound text (first.map Prod.snd))
    (hshape : first.map (fun slot => (slot.1.shape, slot.2)) =
      second.map fun slot => (slot.1.shape, slot.2)) (escaping : Escaping)
    {tokens others : List Token}
    (hskeleton : skeleton tokens = skeleton others) :
    skeleton (State.run ⟨.between, tokens⟩
        (text ++ slotChars escaping first)).finish =
      skeleton (State.run ⟨.between, others⟩
        (text ++ slotChars escaping second)).finish := by
  induction first generalizing text second tokens others with
  | nil =>
      obtain rfl : second = [] := List.map_eq_nil_iff.mp hshape.symm
      rw [finish_run_eq, finish_run_eq .between others, skeleton_append,
        skeleton_append, hskeleton]
  | cons slot slots ih =>
      obtain ⟨slot, next⟩ := slot
      cases second with
      | nil => cases hshape
      | cons other others' =>
          obtain ⟨other, after⟩ := other
          obtain ⟨hhead, htail⟩ := List.cons.inj hshape
          obtain ⟨hslot, hnext⟩ := Prod.mk.inj hhead
          obtain rfl : next = after := hnext
          have hrest := hsound.2.2.2.2
          have htexts : slots.map Prod.snd = others'.map Prod.snd := by
            have hsecond := congrArg (List.map Prod.snd) htail
            simpa [List.map_map, Function.comp_def] using hsecond
          have hsound' : Sound text (next :: others'.map Prod.snd) := by
            rw [← htexts]
            exact hsound
          rw [finish_run_slots_cons hsound, finish_run_slots_cons hsound']
          apply ih hrest htail
          apply hsound.2.1.skeleton_slot hslot escaping
          rw [skeleton_append, skeleton_append, hskeleton]

/-- Of the tokens of a statement, its strings affect their own literals only. -/
theorem skeleton_lex_eq {first second : Template} (hsound : first.Sound)
    (hshape : first.shape = second.shape) (escaping : Escaping) :
    skeleton (lex (first.chars escaping)) =
      skeleton (lex (second.chars escaping)) := by
  obtain ⟨hhead, hslots⟩ := Prod.mk.inj hshape
  have hrun := skeleton_run_slots hsound hslots escaping
    (show skeleton [] = skeleton [] from rfl)
  rw [lex, lex, Template.chars, Template.chars, ← hhead]
  exact hrun

end Datafeed.SqlLexer
