import Datafeed.Core.Regex
import Datafeed.Core.Text
import Mathlib.Data.List.TakeWhile

/-!
# Routes

A route's pattern is turned into a regular expression, character by character.
For the patterns in use this comes to a comparison segment by segment.
-/

namespace Datafeed.Routing

/-! ## The router -/

/-- A request, with a message that only the handlers read. -/
structure Request (Message : Type*) where
  method : String
  target : String
  message : Message

abbrev Handler (Message Response : Type*) :=
  Request Message → List (List Char) → Response

structure Route (Message Response : Type*) where
  method : String
  pattern : String
  regex : Regex
  handler : Handler Message Response

structure Router (Message Response : Type*) where
  routes : List (Route Message Response)

def pathToRegexLoop : List Char → List Char
  | [] => ['$']
  | ':' :: rest =>
      -- The name of the parameter is not used.
      ['(', '[', '^', '/', ']', '+', ')'] ++
        pathToRegexLoop (rest.dropWhile (· ≠ '/'))
  | '.' :: rest => '\\' :: '.' :: pathToRegexLoop rest
  | c :: rest => c :: pathToRegexLoop rest
termination_by path => path.length
decreasing_by
  · exact Nat.lt_succ_of_le (List.dropWhile_suffix _).length_le
  · exact Nat.lt_succ_self _
  · exact Nat.lt_succ_self _

def pathToRegex (path : String) : String :=
  String.ofList ('^' :: pathToRegexLoop path.toList)

section Dispatch

variable {Message Response : Type*}

def Router.addRoute (router : Router Message Response)
    (method path : String) (handler : Handler Message Response) :
    Option (Router Message Response) :=
  (Regex.compile (pathToRegex path)).map fun regex =>
    ⟨router.routes ++ [⟨method, path, regex, handler⟩]⟩

/-- The target without its query string. -/
def pathOf (target : String) : String :=
  match Text.find "?" target with
  | none => target
  | some qpos => Text.substr target 0 qpos

def Router.handleRequest (router : Router Message Response)
    (request : Request Message) : Option Response :=
  let path := pathOf request.target
  router.routes.findSome? fun route =>
    if route.method ≠ request.method then none
    else (route.regex.regexMatch path.toList).map (route.handler request)

/-- What `add_route` is given. -/
structure Registration (Message Response : Type*) where
  method : String
  path : String
  handler : Handler Message Response

def addRoutes (table : List (Registration Message Response)) :
    Option (Router Message Response) :=
  table.foldlM (fun router entry =>
    router.addRoute entry.method entry.path entry.handler) ⟨[]⟩

end Dispatch

/-! ## Segments -/

/-- The characters of the patterns. -/
def PatternCharacter (c : Char) : Prop :=
  c.isAlphanum ∨ c ∈ ['/', '-', '_', '.', ':']

instance : DecidablePred PatternCharacter := fun _ =>
  inferInstanceAs (Decidable (_ ∨ _))

def segments (path : List Char) : List (List Char) :=
  path.splitOn '/'

/-- Segment by segment, a pattern and a path with the texts of the
parameters. -/
inductive SegmentsMatch :
    List (List Char) → List (List Char) → List (List Char) → Prop
  | nil : SegmentsMatch [] [] []
  | literal {segment pattern path captures} :
      ':' ∉ segment → SegmentsMatch pattern path captures →
        SegmentsMatch (segment :: pattern) (segment :: path) captures
  | parameter {front name remainder pattern path captures} :
      ':' ∉ front → remainder ≠ [] → SegmentsMatch pattern path captures →
        SegmentsMatch ((front ++ ':' :: name) :: pattern)
          ((front ++ remainder) :: path) (remainder :: captures)

section Inversion

variable {segment front name : List Char}
  {pattern path captures : List (List Char)}

theorem segmentsMatch_literal_iff (hsegment : ':' ∉ segment) :
    SegmentsMatch (segment :: pattern) path captures ↔
      ∃ rest, path = segment :: rest ∧
        SegmentsMatch pattern rest captures := by
  constructor
  · intro hmatch
    cases hmatch with
    | literal _ hrest => exact ⟨_, rfl, hrest⟩
    | parameter => simp at hsegment
  · rintro ⟨rest, rfl, hrest⟩
    exact .literal hsegment hrest

theorem segmentsMatch_colon_iff :
    SegmentsMatch ((':' :: name) :: pattern) path captures ↔
      ∃ remainder rest later, path = remainder :: rest ∧ remainder ≠ [] ∧
        captures = remainder :: later ∧
        SegmentsMatch pattern rest later := by
  constructor
  · intro hmatch
    generalize hfirst : ':' :: name = first at hmatch
    cases hmatch with
    | literal hsegment _ => simp [← hfirst] at hsegment
    | parameter hfront hremainder hrest =>
        rename_i front name remainder path later
        have hempty : front = [] := by
          cases front with
          | nil => rfl
          | cons head front =>
              obtain ⟨rfl, -⟩ := List.cons.inj hfirst
              simp at hfront
        exact ⟨remainder, path, later, by rw [hempty]; rfl, hremainder, rfl,
          hrest⟩
  · rintro ⟨remainder, rest, later, rfl, hremainder, rfl, hrest⟩
    exact .parameter List.not_mem_nil hremainder hrest

theorem segmentsMatch_cons_iff {c : Char} (hc : c ≠ ':') :
    SegmentsMatch ((c :: segment) :: pattern) path captures ↔
      ∃ front rest, path = (c :: front) :: rest ∧
        SegmentsMatch (segment :: pattern) (front :: rest) captures := by
  constructor
  · intro hmatch
    generalize hfirst : c :: segment = first at hmatch
    cases hmatch with
    | literal hsegment hrest =>
        subst hfirst
        exact ⟨segment, _, rfl, .literal
          (fun hmem => hsegment (List.mem_cons_of_mem _ hmem)) hrest⟩
    | parameter hfront hremainder hrest =>
        rename_i front name remainder path later
        cases front with
        | nil => exact absurd (List.cons.inj hfirst).1 hc
        | cons head front =>
            obtain ⟨rfl, rfl⟩ := List.cons.inj hfirst
            exact ⟨front ++ remainder, path, rfl, .parameter
              (fun hmem => hfront (List.mem_cons_of_mem _ hmem)) hremainder
              hrest⟩
  · rintro ⟨front, rest, rfl, hmatch⟩
    have hcons : ∀ {word : List Char}, ':' ∉ word → ':' ∉ c :: word := by
      intro word hword
      simp [hword, hc.symm]
    generalize hfirst : front :: rest = rest' at hmatch
    cases hmatch with
    | literal hsegment hrest =>
        obtain ⟨rfl, rfl⟩ := List.cons.inj hfirst
        exact .literal (hcons hsegment) hrest
    | parameter hfront hremainder hrest =>
        obtain ⟨rfl, rfl⟩ := List.cons.inj hfirst
        exact .parameter (hcons hfront) hremainder hrest

end Inversion

section Characters

variable {pattern text : List Char} {captures : List (List Char)}

theorem exists_segments (text : List Char) :
    ∃ front rest, segments text = front :: rest :=
  List.exists_cons_of_ne_nil (List.splitOn_ne_nil '/' text)

theorem segments_ne_nil (text : List Char) : segments text ≠ [] :=
  List.splitOn_ne_nil '/' text

theorem segments_append {front : List Char} (hfront : '/' ∉ front)
    (rest : List Char) :
    segments (front ++ '/' :: rest) = front :: segments rest :=
  List.splitOn_append_cons_self_of_not_mem hfront rest

theorem segments_eq_cons_iff {front : List Char} {rest : List (List Char)} :
    segments text = front :: rest ↔ '/' ∉ front ∧
      (rest = [] ∧ text = front ∨
        ∃ after, text = front ++ '/' :: after ∧ segments after = rest) :=
  Text.splitOn_eq_cons_iff

theorem segmentsMatch_nil_iff {path : List (List Char)} :
    SegmentsMatch [] path captures ↔ path = [] ∧ captures = [] := by
  constructor
  · intro hmatch
    cases hmatch
    exact ⟨rfl, rfl⟩
  · rintro ⟨rfl, rfl⟩
    exact .nil

theorem not_segmentsMatch_nil : 
    ¬ SegmentsMatch (segments pattern) [] captures := by
  obtain ⟨front, rest, hpattern⟩ := exists_segments pattern
  rw [hpattern]
  intro hmatch
  cases hmatch

theorem segmentsMatch_segments_nil_iff :
    SegmentsMatch (segments []) (segments text) captures ↔
      text = [] ∧ captures = [] := by
  have hpattern : segments [] = [[]] := List.splitOn_nil '/'
  rw [hpattern, segmentsMatch_literal_iff List.not_mem_nil]
  constructor
  · rintro ⟨rest, htext, hrest⟩
    obtain ⟨rfl, rfl⟩ := segmentsMatch_nil_iff.mp hrest
    obtain ⟨-, ⟨-, rfl⟩ | ⟨after, -, hafter⟩⟩ := segments_eq_cons_iff.mp htext
    · exact ⟨rfl, rfl⟩
    · exact absurd hafter (segments_ne_nil after)
  · rintro ⟨rfl, rfl⟩
    exact ⟨[], hpattern, .nil⟩

theorem segmentsMatch_separator_iff :
    SegmentsMatch (segments ('/' :: pattern)) (segments text) captures ↔
      ∃ rest, text = '/' :: rest ∧
        SegmentsMatch (segments pattern) (segments rest) captures := by
  have hcons : ∀ rest : List Char,
      segments ('/' :: rest) = [] :: segments rest :=
    segments_append List.not_mem_nil
  rw [hcons, segmentsMatch_literal_iff List.not_mem_nil]
  constructor
  · rintro ⟨rest, htext, hrest⟩
    obtain ⟨-, ⟨rfl, -⟩ | ⟨after, rfl, rfl⟩⟩ := segments_eq_cons_iff.mp htext
    · exact absurd hrest not_segmentsMatch_nil
    · exact ⟨after, rfl, hrest⟩
  · rintro ⟨rest, rfl, hrest⟩
    exact ⟨segments rest, hcons rest, hrest⟩

theorem segments_cons_eq_iff {c : Char} (hc : c ≠ '/') {front : List Char}
    {rest : List (List Char)} :
    segments text = (c :: front) :: rest ↔
      ∃ after, text = c :: after ∧ segments after = front :: rest := by
  have hmem : '/' ∉ c :: front ↔ '/' ∉ front := by simp [hc.symm]
  simp only [segments_eq_cons_iff, hmem]
  constructor
  · rintro ⟨hfront, ⟨rfl, rfl⟩ | ⟨after, rfl, rfl⟩⟩
    · exact ⟨front, rfl, hfront, Or.inl ⟨rfl, rfl⟩⟩
    · exact ⟨front ++ '/' :: after, rfl, hfront, Or.inr ⟨after, rfl, rfl⟩⟩
  · rintro ⟨_, rfl, hfront, ⟨rfl, rfl⟩ | ⟨after, rfl, rfl⟩⟩
    · exact ⟨hfront, Or.inl ⟨rfl, rfl⟩⟩
    · exact ⟨hfront, Or.inr ⟨after, rfl, rfl⟩⟩

/-- A character of the pattern that is not a parameter's is compared. -/
theorem segmentsMatch_segments_cons_iff {c : Char} (hc : c ≠ ':') :
    SegmentsMatch (segments (c :: pattern)) (segments text) captures ↔
      ∃ rest, text = c :: rest ∧
        SegmentsMatch (segments pattern) (segments rest) captures := by
  by_cases hseparator : c = '/'
  · rw [hseparator]
    exact segmentsMatch_separator_iff
  · obtain ⟨front, others, hpattern⟩ := exists_segments pattern
    have hcons : segments (c :: pattern) = (c :: front) :: others :=
      (segments_cons_eq_iff hseparator).mpr ⟨pattern, rfl, hpattern⟩
    rw [hcons, hpattern, segmentsMatch_cons_iff hc]
    constructor
    · rintro ⟨head, rest, htext, hmatch⟩
      obtain ⟨after, rfl, hafter⟩ := (segments_cons_eq_iff hseparator).mp htext
      exact ⟨after, rfl, hafter ▸ hmatch⟩
    · rintro ⟨after, rfl, hmatch⟩
      obtain ⟨head, rest, hafter⟩ := exists_segments after
      exact ⟨head, rest, (segments_cons_eq_iff hseparator).mpr
        ⟨after, rfl, hafter⟩, hafter ▸ hmatch⟩

/-- A parameter's name ends where its segment does. -/
theorem exists_name (pattern : List Char) :
    ∃ name, '/' ∉ name ∧ pattern = name ++ pattern.dropWhile (· ≠ '/') ∧
      (pattern.dropWhile (· ≠ '/') = [] ∨
        ∃ after, pattern.dropWhile (· ≠ '/') = '/' :: after) := by
  refine ⟨pattern.takeWhile (· ≠ '/'), ?_,
    List.takeWhile_append_dropWhile.symm, ?_⟩
  · intro hmem
    simpa using List.mem_takeWhile_imp hmem
  · cases hrest : pattern.dropWhile (· ≠ '/') with
    | nil => exact Or.inl rfl
    | cons head after =>
        have hhead := List.head?_dropWhile_not (· ≠ '/') pattern
        rw [hrest] at hhead
        replace hhead : head = '/' := by simpa using hhead
        exact Or.inr ⟨after, by rw [hhead]⟩

/-- A parameter takes what is left of its segment, which is not empty. -/
theorem segmentsMatch_segments_colon_iff :
    SegmentsMatch (segments (':' :: pattern)) (segments text) captures ↔
      ∃ remainder rest later, text = remainder ++ rest ∧ remainder ≠ [] ∧
        '/' ∉ remainder ∧ captures = remainder :: later ∧
        SegmentsMatch (segments (pattern.dropWhile (· ≠ '/')))
          (segments rest) later := by
  obtain ⟨name, hname, hpattern, hrest⟩ := exists_name pattern
  have hcolon : '/' ∉ ':' :: name := by simp [hname]
  rcases hrest with hrest | ⟨after, hrest⟩
  · rw [hrest, List.append_nil] at hpattern
    have hsegments : segments (':' :: pattern) = [':' :: name] := by
      rw [hpattern]
      exact List.splitOn_eq_singleton hcolon
    rw [hrest, hsegments, segmentsMatch_colon_iff]
    constructor
    · rintro ⟨remainder, rest, later, htext, hremainder, rfl, hmatch⟩
      obtain ⟨rfl, rfl⟩ := segmentsMatch_nil_iff.mp hmatch
      obtain ⟨hslash, ⟨-, rfl⟩ | ⟨after, -, hafter⟩⟩ :=
        segments_eq_cons_iff.mp htext
      · exact ⟨text, [], [], (List.append_nil text).symm, hremainder, hslash,
          rfl, segmentsMatch_segments_nil_iff.mpr ⟨rfl, rfl⟩⟩
      · exact absurd hafter (segments_ne_nil after)
    · rintro ⟨remainder, rest, later, rfl, hremainder, hslash, rfl, hmatch⟩
      obtain ⟨rfl, rfl⟩ := segmentsMatch_segments_nil_iff.mp hmatch
      rw [List.append_nil]
      exact ⟨remainder, [], [], List.splitOn_eq_singleton hslash, hremainder,
        rfl, .nil⟩
  · rw [hrest] at hpattern
    have hsegments : segments (':' :: pattern) =
        (':' :: name) :: segments after := by
      rw [hpattern]
      exact segments_append hcolon after
    rw [hrest, hsegments, segmentsMatch_colon_iff]
    constructor
    · rintro ⟨remainder, rest, later, htext, hremainder, rfl, hmatch⟩
      obtain ⟨hslash, ⟨rfl, -⟩ | ⟨next, rfl, rfl⟩⟩ :=
        segments_eq_cons_iff.mp htext
      · exact absurd hmatch not_segmentsMatch_nil
      · exact ⟨remainder, '/' :: next, later, rfl, hremainder, hslash, rfl,
          segmentsMatch_separator_iff.mpr ⟨next, rfl, hmatch⟩⟩
    · rintro ⟨remainder, rest, later, rfl, hremainder, hslash, rfl, hmatch⟩
      obtain ⟨next, rfl, hnext⟩ := segmentsMatch_separator_iff.mp hmatch
      exact ⟨remainder, segments next, later, segments_append hslash next,
        hremainder, rfl, hnext⟩

end Characters

/-! ## From a pattern to a regular expression -/

/-- The second expression reads what the first one reads, and behind it the
pattern. -/
def Continues (current : Regex) (pattern : List Char) (regex : Regex) : Prop :=
  ∀ before found, regex.Matches before found ↔
    ∃ front captures, current.Matches before front ∧
      SegmentsMatch (segments pattern) (segments front.rest) captures ∧
      found = ⟨front.consumed ++ front.rest, [], front.captures ++ captures⟩

/-- What a parameter is turned into. -/
def parameterRegex : Regex :=
  .group (.seq .empty (.plus (.noneOf '/')))

section Translation

variable {current regex : Regex} {pattern : List Char}

/-- Of the patterns' characters only `.` is escaped, and no other needs to
be. -/
theorem not_mem_syntaxCharacters {c : Char} (hc : PatternCharacter c)
    (hdot : c ≠ '.') : c ∉ Regex.syntaxCharacters := by
  have hall : Regex.syntaxCharacters.all (fun c =>
      decide (PatternCharacter c → c = '.')) = true := by
    decide
  intro hmem
  exact hdot (of_decide_eq_true (List.all_eq_true.mp hall c hmem) hc)

theorem matches_parameterRegex_iff {before : List Char} {found : Regex.Match} :
    parameterRegex.Matches before found ↔ found.consumed ≠ [] ∧
      '/' ∉ found.consumed ∧ found.captures = [found.consumed] := by
  have haccepts : (∀ c ∈ found.consumed, (Atom.noneOf '/').accepts c = true) ↔
      '/' ∉ found.consumed := by
    simp only [Atom.accepts, bne_iff_ne]
    exact ⟨fun hall hmem => hall _ hmem rfl,
      fun hnot c hc heq => hnot (heq ▸ hc)⟩
  simp only [parameterRegex, Regex.matches_group_iff,
    Regex.matches_empty_seq_iff, Regex.matches_plus_iff, haccepts]
  constructor
  · rintro ⟨captures, hcaptures, hne, hslash, rfl⟩
    exact ⟨hne, hslash, hcaptures⟩
  · rintro ⟨hne, hslash, hcaptures⟩
    exact ⟨[], hcaptures, hne, hslash, rfl⟩

theorem continues_nil (current : Regex) :
    Continues current [] (current.seq .stop) := by
  intro before found
  rw [Regex.matches_seq_iff]
  constructor
  · rintro ⟨front, back, rfl, hrest, hfront, hstop⟩
    obtain ⟨hback, hconsumed, hcaptures⟩ := hstop
    rw [hback, hconsumed] at hrest
    refine ⟨front, [], hfront,
      segmentsMatch_segments_nil_iff.mpr ⟨hrest, rfl⟩, ?_⟩
    rw [hrest, hback, hconsumed, hcaptures]
    rfl
  · rintro ⟨front, captures, hfront, hmatch, rfl⟩
    obtain ⟨hrest, rfl⟩ := segmentsMatch_segments_nil_iff.mp hmatch
    refine ⟨front, ⟨[], [], []⟩, ?_, hrest, hfront, rfl, rfl, rfl⟩
    rw [hrest]

theorem Continues.char {c : Char} (hc : c ≠ ':')
    (hrest : Continues (current.seq (.atom (.char c))) pattern regex) :
    Continues current (c :: pattern) regex := by
  intro before found
  rw [hrest before found]
  simp only [Regex.matches_seq_iff, segmentsMatch_segments_cons_iff hc]
  constructor
  · rintro ⟨middle, captures, ⟨front, back, rfl, hfrontRest, hfront, hback⟩,
      hmatch, rfl⟩
    obtain ⟨d, haccepts, hconsumed, hcaptures⟩ := hback
    obtain rfl : d = c := by simpa [Atom.accepts] using haccepts
    rw [hconsumed] at hfrontRest
    refine ⟨front, captures, hfront, ⟨back.rest, hfrontRest, hmatch⟩, ?_⟩
    simp [hfrontRest, hconsumed, hcaptures]
  · rintro ⟨front, captures, hfront, ⟨rest, hfrontRest, hmatch⟩, rfl⟩
    refine ⟨⟨front.consumed ++ [c], rest, front.captures⟩, captures,
      ⟨front, ⟨[c], rest, []⟩, by simp, hfrontRest, hfront, c, ?_, rfl, rfl⟩,
      hmatch, ?_⟩
    · simp [Atom.accepts]
    · simp [hfrontRest]

theorem Continues.parameter
    (hrest : Continues (current.seq parameterRegex)
      (pattern.dropWhile (· ≠ '/')) regex) :
    Continues current (':' :: pattern) regex := by
  intro before found
  rw [hrest before found]
  simp only [Regex.matches_seq_iff, matches_parameterRegex_iff,
    segmentsMatch_segments_colon_iff]
  constructor
  · rintro ⟨middle, later, ⟨front, back, rfl, hfrontRest, hfront, hne, hslash,
      hcaptures⟩, hmatch, rfl⟩
    refine ⟨front, back.consumed :: later, hfront, ⟨back.consumed, back.rest,
      later, hfrontRest, hne, hslash, rfl, hmatch⟩, ?_⟩
    simp [hfrontRest, hcaptures]
  · rintro ⟨front, captures, hfront, ⟨remainder, rest, later, hfrontRest, hne,
      hslash, rfl, hmatch⟩, rfl⟩
    refine ⟨⟨front.consumed ++ remainder, rest, front.captures ++ [remainder]⟩,
      later, ⟨front, ⟨remainder, rest, [remainder]⟩, rfl, hfrontRest, hfront,
        hne, hslash, rfl⟩, hmatch, ?_⟩
    simp [hfrontRest]

theorem exists_parse (hpattern : ∀ c ∈ pattern, PatternCharacter c)
    (current : Regex) :
    ∃ regex, Regex.parse [] current (pathToRegexLoop pattern) = some regex ∧
      Continues current pattern regex := by
  fun_induction pathToRegexLoop pattern generalizing current with
  | case1 => exact ⟨current.seq .stop, rfl, continues_nil current⟩
  | case2 rest ih =>
      have hrest : ∀ c ∈ rest.dropWhile (· ≠ '/'), PatternCharacter c :=
        fun c hc => hpattern c (List.mem_cons_of_mem _
          ((List.dropWhile_suffix _).subset hc))
      obtain ⟨regex, hparse, hregex⟩ :=
        ih hrest (current.seq parameterRegex)
      exact ⟨regex, hparse, hregex.parameter⟩
  | case3 rest ih =>
      obtain ⟨regex, hparse, hregex⟩ :=
        ih (fun c hc => hpattern c (List.mem_cons_of_mem _ hc))
          (current.seq (.atom (.char '.')))
      exact ⟨regex, hparse, hregex.char (by decide)⟩
  | case4 c rest hcolon hdot ih =>
      obtain ⟨regex, hparse, hregex⟩ :=
        ih (fun c hc => hpattern c (List.mem_cons_of_mem _ hc))
          (current.seq (.atom (.char c)))
      refine ⟨regex, ?_, hregex.char hcolon⟩
      rw [Regex.parse_char (not_mem_syntaxCharacters
        (hpattern c List.mem_cons_self) hdot), hparse]

theorem SegmentsMatch.captures_eq {patterns path left right : List (List Char)}
    (hleft : SegmentsMatch patterns path left)
    (hright : SegmentsMatch patterns path right) : left = right := by
  induction hleft generalizing right with
  | nil => exact (segmentsMatch_nil_iff.mp hright).2.symm
  | literal hsegment _ ih =>
      obtain ⟨rest, hrest, hmatch⟩ :=
        (segmentsMatch_literal_iff hsegment).mp hright
      exact ih ((List.cons.inj hrest).2 ▸ hmatch)
  | @parameter front name remainder patterns path captures hfront _ _ ih =>
      generalize hpattern : (front ++ ':' :: name) :: patterns = pattern'
        at hright
      generalize hpath : (front ++ remainder) :: path = path' at hright
      cases hright with
      | nil => cases hpattern
      | literal hsegment hmatch =>
          obtain ⟨rfl, -⟩ := List.cons.inj hpattern
          simp at hsegment
      | @parameter other _ taken _ _ later hother _ hmatch =>
          obtain ⟨hsegment, rfl⟩ := List.cons.inj hpattern
          obtain ⟨htext, rfl⟩ := List.cons.inj hpath
          have hsame : front = other := by
            rw [← Text.takeWhile_append_cons hfront name, hsegment,
              Text.takeWhile_append_cons hother]
          rw [hsame] at htext
          rw [ih hmatch, List.append_cancel_left htext]

/-- A pattern's expression matches segment by segment. -/
theorem exists_compile {path : String}
    (hpath : ∀ c ∈ path.toList, PatternCharacter c) :
    ∃ regex, Regex.compile (pathToRegex path) = some regex ∧
      ∀ text captures, regex.regexMatch text = some captures ↔
        SegmentsMatch (segments path.toList) (segments text) captures := by
  obtain ⟨regex, hparse, hregex⟩ := exists_parse hpath (.seq .empty .start)
  have hcompile : Regex.compile (pathToRegex path) = some regex := by
    rw [Regex.compile, pathToRegex, String.toList_ofList]
    exact hparse
  have hfull : ∀ text captures, regex.Matches [] ⟨text, [], captures⟩ ↔
      SegmentsMatch (segments path.toList) (segments text) captures := by
    intro text captures
    rw [hregex]
    simp only [Regex.matches_empty_seq_iff]
    constructor
    · rintro ⟨front, later, ⟨-, hconsumed, hcaptures⟩, hmatch, hfound⟩
      rw [hconsumed, hcaptures] at hfound
      obtain ⟨rfl, -, rfl⟩ := Regex.Match.mk.inj hfound
      exact hmatch
    · intro hmatch
      exact ⟨⟨[], text, []⟩, captures, ⟨rfl, rfl, rfl⟩, hmatch, rfl⟩
  refine ⟨regex, hcompile, fun text captures => ?_⟩
  rw [Regex.regexMatch_eq_some_iff, hfull]
  intro left right hleft hright
  exact ((hfull text left).mp hleft).captures_eq ((hfull text right).mp hright)

example : pathToRegex "/clients/v:id/a.b" = "^/clients/v([^/]+)/a\\.b$" := by
  decide +kernel

end Translation

/-! ## Dispatch -/

section Spec

variable {Message Response : Type*}

def Route.registration (route : Route Message Response) :
    Registration Message Response :=
  ⟨route.method, route.pattern, route.handler⟩

/-- The route is for the target's path, the texts of its parameters being those
given. -/
def Route.Takes (route : Route Message Response) (target : String)
    (captures : List (List Char)) : Prop :=
  SegmentsMatch (segments route.pattern.toList)
    (segments (target.toList.takeWhile (· ≠ '?'))) captures

/-- The route's expression decides which targets it is for. -/
def Route.Faithful (route : Route Message Response) : Prop :=
  ∀ target captures,
    route.regex.regexMatch (pathOf target).toList = some captures ↔
      route.Takes target captures

def Registration.Plain (entry : Registration Message Response) : Prop :=
  ∀ c ∈ entry.path.toList, PatternCharacter c

theorem toList_pathOf (target : String) :
    (pathOf target).toList = target.toList.takeWhile (· ≠ '?') := by
  by_cases hmem : '?' ∈ target.toList
  · obtain ⟨front, rest, htarget, hfront⟩ := List.eq_append_cons_of_mem hmem
    rw [pathOf, Text.find_character rfl htarget hfront]
    simp only [Text.substr, String.toList_ofList, List.drop_zero]
    rw [htarget, Text.takeWhile_append_cons hfront, List.take_left]
  · rw [pathOf, Text.find_character_none rfl hmem]
    refine (List.takeWhile_eq_self_iff.mpr fun c hc => ?_).symm
    exact decide_eq_true fun heq => hmem (heq ▸ hc)

theorem exists_addRoute {entry : Registration Message Response}
    (hentry : entry.Plain) (router : Router Message Response) :
    ∃ route : Route Message Response,
      router.addRoute entry.method entry.path entry.handler =
        some ⟨router.routes ++ [route]⟩ ∧
      route.registration = entry ∧ route.Faithful := by
  obtain ⟨regex, hcompile, hregex⟩ := exists_compile hentry
  refine ⟨⟨entry.method, entry.path, regex, entry.handler⟩, ?_, rfl, ?_⟩
  · rw [Router.addRoute, hcompile]
    rfl
  · intro target captures
    rw [hregex, toList_pathOf]
    rfl

/-- Every registration becomes a route, in the same order. -/
theorem exists_addRoutes {table : List (Registration Message Response)}
    (htable : ∀ entry ∈ table, entry.Plain)
    (router : Router Message Response)
    (hrouter : ∀ route ∈ router.routes, route.Faithful) :
    ∃ result : Router Message Response,
      table.foldlM (fun router entry =>
        router.addRoute entry.method entry.path entry.handler) router =
          some result ∧
      result.routes.map Route.registration =
        router.routes.map Route.registration ++ table ∧
      ∀ route ∈ result.routes, route.Faithful := by
  induction table generalizing router with
  | nil => exact ⟨router, rfl, (List.append_nil _).symm, hrouter⟩
  | cons entry table ih =>
      obtain ⟨hentry, hrest⟩ := List.forall_mem_cons.mp htable
      obtain ⟨route, hadded, hentry, hroute⟩ := exists_addRoute hentry router
      obtain ⟨result, hresult, hroutes, hfaithful⟩ :=
        ih hrest ⟨router.routes ++ [route]⟩ (by
          rw [List.forall_mem_append, List.forall_mem_singleton]
          exact ⟨hrouter, hroute⟩)
      refine ⟨result, ?_, ?_, hfaithful⟩
      · rw [List.foldlM_cons, hadded]
        exact hresult
      · rw [hroutes, List.map_append, List.map_singleton, hentry,
          List.append_assoc]
        rfl

/-- What the loop does with a route. -/
def Route.answer (route : Route Message Response) (request : Request Message) :
    Option Response :=
  if route.method ≠ request.method then none
  else (route.regex.regexMatch (pathOf request.target).toList).map
    (route.handler request)

theorem Router.handleRequest_eq (router : Router Message Response)
    (request : Request Message) :
    router.handleRequest request =
      router.routes.findSome? fun route => route.answer request :=
  rfl

theorem Route.Faithful.answer_eq_some {route : Route Message Response}
    (hroute : route.Faithful) {request : Request Message}
    {captures : List (List Char)} (hmethod : route.method = request.method)
    (htakes : route.Takes request.target captures) :
    route.answer request = some (route.handler request captures) := by
  rw [Route.answer, if_neg (not_not.mpr hmethod),
    (hroute request.target captures).mpr htakes]
  rfl

theorem Route.Faithful.answer_eq_none_iff {route : Route Message Response}
    (hroute : route.Faithful) {request : Request Message} :
    route.answer request = none ↔ route.method = request.method →
      ∀ captures, ¬ route.Takes request.target captures := by
  by_cases hmethod : route.method = request.method
  · have hnone : route.regex.regexMatch (pathOf request.target).toList =
        none ↔ ∀ captures, ¬ route.Takes request.target captures := by
      rw [Option.eq_none_iff_forall_ne_some]
      exact forall_congr' fun captures =>
        not_congr (hroute request.target captures)
    rw [Route.answer, if_neg (not_not.mpr hmethod), Option.map_eq_none_iff,
      hnone]
    exact ⟨fun htakes _ => htakes, fun htakes => htakes hmethod⟩
  · simp [Route.answer, hmethod]

/-- No two routes are for one method and path. -/
def Router.Exclusive (router : Router Message Response) : Prop :=
  router.routes.Pairwise fun left right => left.method = right.method →
    ∀ target leftCaptures rightCaptures,
      left.Takes target leftCaptures → ¬ right.Takes target rightCaptures

/-- However the routes are ordered, a request is answered by the handler whose
route is for it, and not at all just when there is none. -/
structure Router.OrderFree (router : Router Message Response) : Prop where
  exclusive : router.Exclusive
  handler : ∀ {order}, order.Perm router.routes → ∀ request,
    ∀ route ∈ router.routes, ∀ captures, route.method = request.method →
      route.Takes request.target captures →
        (Router.mk order).handleRequest request =
          some (route.handler request captures)
  nullopt : ∀ {order}, order.Perm router.routes → ∀ request,
    (Router.mk order).handleRequest request = none ↔
      ∀ route ∈ router.routes, route.method = request.method →
        ∀ captures, ¬ route.Takes request.target captures

/-- If no two items have a result, the search finds the one there is. -/
theorem findSome?_eq_of_pairwise {α β : Type*} {f : α → Option β}
    {items : List α} {item : α} {result : β}
    (hpairwise : items.Pairwise fun left right =>
      f left = none ∨ f right = none)
    (hmem : item ∈ items) (hitem : f item = some result) :
    items.findSome? f = some result := by
  induction items with
  | nil => cases hmem
  | cons head items ih =>
      obtain ⟨hhead, hrest⟩ := List.pairwise_cons.mp hpairwise
      rcases List.mem_cons.mp hmem with rfl | hlater
      · rw [List.findSome?_cons, hitem]
      · have hnone : f head = none := by
          rcases hhead item hlater with hnone | hnone
          · exact hnone
          · rw [hitem] at hnone
            cases hnone
        rw [List.findSome?_cons, hnone]
        exact ih hrest hlater

theorem Router.Exclusive.orderFree {router : Router Message Response}
    (hexclusive : router.Exclusive)
    (hfaithful : ∀ route ∈ router.routes, route.Faithful) :
    router.OrderFree := by
  refine ⟨hexclusive, ?_, ?_⟩
  · intro order horder request route hroute captures hmethod htakes
    have hpairwise : router.routes.Pairwise fun left right =>
        left.answer request = none ∨ right.answer request = none := by
      refine hexclusive.imp_of_mem fun {left right} hleft hright hpair => ?_
      rw [or_iff_not_imp_left, (hfaithful left hleft).answer_eq_none_iff,
        (hfaithful right hright).answer_eq_none_iff]
      intro hanswers hmethod rightCaptures hrightTakes
      apply hanswers
      intro hleftMethod leftCaptures hleftTakes
      exact hpair (hleftMethod.trans hmethod.symm) _ _ _ hleftTakes hrightTakes
    rw [Router.handleRequest_eq]
    exact findSome?_eq_of_pairwise
      (horder.symm.pairwise hpairwise fun h => h.symm)
      (horder.mem_iff.mpr hroute)
      ((hfaithful route hroute).answer_eq_some hmethod htakes)
  · intro order horder request
    rw [Router.handleRequest_eq, List.findSome?_eq_none_iff]
    constructor
    · intro hnone route hroute
      exact (hfaithful route hroute).answer_eq_none_iff.mp
        (hnone route (horder.mem_iff.mpr hroute))
    · intro hnone route hroute
      have hmem : route ∈ router.routes := horder.mem_iff.mp hroute
      exact (hfaithful route hmem).answer_eq_none_iff.mpr (hnone route hmem)

end Spec

end Datafeed.Routing
