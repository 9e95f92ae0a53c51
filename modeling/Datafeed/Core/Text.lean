import Mathlib.Data.List.Infix

/-!
# Substring search

`std::string::find` and `substr` on strings, whose characters stand for the
bytes of the text, and texts that are cut at a separator.
-/

namespace Datafeed.Text

/-- The least position at which the pattern occurs. -/
def find (pattern text : String) : Option ℕ :=
  (List.range (text.toList.length + 1)).find? fun position =>
    pattern.toList.isPrefixOf (text.toList.drop position)

/-- `text.find(pattern) != npos`. -/
def contains (text pattern : String) : Bool :=
  (find pattern text).isSome

def substr (text : String) (position count : ℕ) : String :=
  String.ofList ((text.toList.drop position).take count)

/-- `substr` without a count. -/
def substrFrom (text : String) (position : ℕ) : String :=
  String.ofList (text.toList.drop position)

/-- `text.find(pattern, start)` -/
def findFrom (pattern text : String) (start : ℕ) : Option ℕ :=
  (find pattern (substrFrom text start)).map (start + ·)

/-- `replace` of the characters from a position on. -/
def replace (text : String) (position count : ℕ) (piece : String) : String :=
  String.ofList (text.toList.take position ++ piece.toList ++
    text.toList.drop (position + count))

theorem contains_iff {text pattern : String} :
    contains text pattern = true ↔ pattern.toList <:+: text.toList := by
  rw [contains, find, List.find?_isSome]
  constructor
  · rintro ⟨position, -, hstarts⟩
    obtain ⟨rest, hrest⟩ := List.isPrefixOf_iff_prefix.mp hstarts
    refine ⟨text.toList.take position, rest, ?_⟩
    rw [List.append_assoc, hrest, List.take_append_drop]
  · rintro ⟨before, rest, htext⟩
    refine ⟨before.length, ?_, ?_⟩
    · rw [List.mem_range, ← htext, List.length_append, List.length_append]
      omega
    · rw [← htext, List.append_assoc, List.drop_left,
        List.isPrefixOf_iff_prefix]
      exact List.prefix_append _ _

theorem find_eq_none_iff {pattern text : String} :
    find pattern text = none ↔ ¬ pattern.toList <:+: text.toList := by
  rw [← contains_iff, contains, Bool.not_eq_true, Option.isSome_eq_false_iff,
    Option.isNone_iff_eq_none]

/-- An occurrence is the first one when the text before its last character has
none. -/
theorem find_eq_some_of_append {pattern text : String} {before after : List Char}
    (htext : text.toList = before ++ pattern.toList ++ after)
    (hfirst : ¬ pattern.toList <:+: (before ++ pattern.toList).dropLast) :
    find pattern text = some before.length := by
  rw [find, List.find?_range_eq_some]
  refine ⟨?_, ?_, fun position hposition => ?_⟩
  · rw [List.isPrefixOf_iff_prefix, htext, List.append_assoc, List.drop_left]
    exact List.prefix_append _ _
  · rw [List.mem_range, htext, List.length_append, List.length_append]
    omega
  · rw [Bool.not_eq_true', ← Bool.not_eq_true, List.isPrefixOf_iff_prefix]
    intro hstarts
    -- An occurrence that starts earlier ends before the last character.
    obtain ⟨rest, hrest⟩ : ∃ rest, (before ++ pattern.toList).length - 1 =
        position + rest := by
      rw [List.length_append]
      exact ⟨before.length + pattern.toList.length - 1 - position, by omega⟩
    have hshort : pattern.toList <+: (text.toList.drop position).take rest := by
      refine List.prefix_take_iff.mpr ⟨hstarts, ?_⟩
      rw [List.length_append] at hrest
      omega
    have hwhole : (before ++ pattern.toList).dropLast =
        text.toList.take position ++ (text.toList.drop position).take rest := by
      rw [List.dropLast_eq_take, hrest, ← List.take_add, htext]
      exact (List.take_append_of_le_length (by omega)).symm
    apply hfirst
    rw [hwhole]
    exact List.infix_append_of_infix_right hshort.isInfix

/-- The first occurrence of a single character. -/
theorem find_character {pattern text : String} {c : Char}
    {front rest : List Char} (hpattern : pattern.toList = [c])
    (htext : text.toList = front ++ c :: rest) (hfront : c ∉ front) :
    find pattern text = some front.length := by
  have hsplit : text.toList = front ++ pattern.toList ++ rest := by
    rw [htext, hpattern, List.append_assoc]
    rfl
  refine find_eq_some_of_append hsplit ?_
  rw [hpattern, List.dropLast_concat, List.singleton_infix_iff]
  exact hfront

theorem find_character_none {pattern text : String} {c : Char}
    (hpattern : pattern.toList = [c]) (htext : c ∉ text.toList) :
    find pattern text = none := by
  rw [find_eq_none_iff, hpattern, List.singleton_infix_iff]
  exact htext

/-- A word that lacks a character does not reach across it. -/
theorem infix_append_cons_iff {word before after : List Char}
    {separator : Char} (hseparator : separator ∉ word) :
    word <:+: before ++ separator :: after ↔
      word <:+: before ∨ word <:+: after := by
  constructor
  · rintro ⟨front, rest, htext⟩
    rcases List.append_eq_append_iff.mp htext with
      ⟨tail, hbefore, -⟩ | ⟨tail, hword, hafter⟩
    · left
      exact ⟨front, tail, hbefore.symm⟩
    · cases tail with
      | nil =>
          left
          exact ⟨front, [], by simpa using hword⟩
      | cons head tail =>
          obtain rfl : separator = head := (List.cons.inj hafter).1
          have hrest : after = tail ++ rest := (List.cons.inj hafter).2
          rcases List.append_eq_append_iff.mp hword with
            ⟨middle, -, hacross⟩ | ⟨middle, -, hbehind⟩
          · rw [hacross] at hseparator
            simp at hseparator
          · cases middle with
            | nil =>
                have hstart : separator :: tail = word := hbehind
                rw [← hstart] at hseparator
                simp at hseparator
            | cons head middle =>
                have htail : tail = middle ++ word := (List.cons.inj hbehind).2
                right
                exact ⟨middle, rest, by rw [hrest, htail]⟩
  · rintro (hbefore | hafter)
    · exact List.infix_append_of_infix_left hbefore
    · exact List.infix_append_of_infix_right (List.infix_cons hafter)

/-- A word does not reach into a text that has none of its characters. -/
theorem infix_append_iff_of_disjoint {word before after : List Char}
    (hword : word ≠ []) (hafter : ∀ c ∈ after, c ∉ word) :
    word <:+: before ++ after ↔ word <:+: before := by
  induction after generalizing before with
  | nil => rw [List.append_nil]
  | cons c after ih =>
      have hrest : ¬ word <:+: after := fun hoccurs => by
        have hnil := (@ih [] fun d hd => hafter d (List.mem_cons_of_mem c hd)).mp hoccurs
        exact hword (List.infix_nil.mp hnil)
      rw [infix_append_cons_iff (hafter c List.mem_cons_self)]
      exact or_iff_left hrest

/-- A text with an occurrence of a pattern, cut at the first one. -/
theorem exists_first {pattern text : List Char} (hpattern : pattern ≠ [])
    (hoccurs : pattern <:+: text) :
    ∃ before after, text = before ++ pattern ++ after ∧
      ¬ pattern <:+: before := by
  induction text with
  | nil => exact absurd (List.infix_nil.mp hoccurs) hpattern
  | cons c text ih =>
      by_cases hstarts : pattern <+: c :: text
      · obtain ⟨after, hafter⟩ := hstarts
        refine ⟨[], after, hafter.symm, fun hnil => ?_⟩
        exact hpattern (List.infix_nil.mp hnil)
      · obtain ⟨before, after, rfl, hfirst⟩ :=
          ih ((List.infix_cons_iff.mp hoccurs).resolve_left hstarts)
        refine ⟨c :: before, after, rfl, fun hearlier => ?_⟩
        rcases List.infix_cons_iff.mp hearlier with hhead | htail
        · apply hstarts
          exact hhead.trans ⟨pattern ++ after, by simp⟩
        · exact hfirst htail

/-- A word that ends in a character it has nowhere else does not overlap
itself. -/
theorem infix_append_dropLast_iff {word before : List Char} {c : Char}
    (hc : c ∉ word) :
    word ++ [c] <:+: before ++ word ↔ word ++ [c] <:+: before := by
  refine ⟨?_, List.infix_append_of_infix_left⟩
  rintro ⟨front, rest, htext⟩
  rcases List.append_eq_append_iff.mp htext with
    ⟨tail, hbefore, -⟩ | ⟨tail, hword, hrest⟩
  · exact ⟨front, tail, hbefore.symm⟩
  · rcases List.eq_nil_or_concat' tail with rfl | ⟨init, last, rfl⟩
    · exact ⟨front, [], by simpa using hword⟩
    · rw [← List.append_assoc, ← List.append_assoc] at hword
      obtain rfl : c = last := by
        simpa using List.append_inj_right' hword rfl
      rw [hrest] at hc
      simp at hc

/-- The first occurrence of such a word. -/
theorem find_word {pattern text : String} {word before after : List Char}
    {c : Char} (hpattern : pattern.toList = word ++ [c]) (hc : c ∉ word)
    (htext : text.toList = before ++ pattern.toList ++ after)
    (hfirst : ¬ pattern.toList <:+: before) :
    find pattern text = some before.length := by
  refine find_eq_some_of_append htext ?_
  rw [hpattern, ← List.append_assoc, List.dropLast_concat,
    infix_append_dropLast_iff hc, ← hpattern]
  exact hfirst

/-- The first occurrence of such a word cuts a text in one way. -/
theorem first_unique {word before after before' after' : List Char} {c : Char}
    (hc : c ∉ word)
    (hsame : before ++ (word ++ [c]) ++ after =
      before' ++ (word ++ [c]) ++ after')
    (hfirst : ¬ word ++ [c] <:+: before)
    (hfirst' : ¬ word ++ [c] <:+: before') :
    before = before' ∧ after = after' := by
  have hpattern : (String.ofList (word ++ [c])).toList = word ++ [c] :=
    String.toList_ofList
  have hfind : ∀ {front rest : List Char},
      before ++ (word ++ [c]) ++ after = front ++ (word ++ [c]) ++ rest →
      ¬ word ++ [c] <:+: front →
      find (String.ofList (word ++ [c]))
        (String.ofList (before ++ (word ++ [c]) ++ after)) =
          some front.length := by
    intro front rest htext hnot
    have htext' : (String.ofList (before ++ (word ++ [c]) ++ after)).toList =
        front ++ (String.ofList (word ++ [c])).toList ++ rest := by
      rw [String.toList_ofList, hpattern, htext]
    exact find_word hpattern hc htext' (by rwa [hpattern])
  have hlength : before.length = before'.length :=
    Option.some.inj ((hfind rfl hfirst).symm.trans (hfind hsame hfirst'))
  rw [List.append_assoc before, List.append_assoc before'] at hsame
  obtain ⟨hbefore, hrest⟩ := List.append_inj hsame hlength
  exact ⟨hbefore, List.append_cancel_left hrest⟩

/-- What is before the first separator is determined. -/
theorem takeWhile_append_cons {α : Type*} [DecidableEq α] {separator : α}
    {front : List α} (hfront : separator ∉ front) (rest : List α) :
    (front ++ separator :: rest).takeWhile (· ≠ separator) = front := by
  have hall : ∀ item ∈ front, decide (item ≠ separator) = true :=
    fun item hitem => decide_eq_true fun heq => hfront (heq ▸ hitem)
  rw [List.takeWhile_append_of_pos hall]
  simp

/-- A text whose first piece is known. -/
theorem splitOn_eq_cons_iff {α : Type*} [BEq α] [LawfulBEq α] {separator : α}
    {text head : List α} {tail : List (List α)} :
    text.splitOn separator = head :: tail ↔
      separator ∉ head ∧ (tail = [] ∧ text = head ∨
        ∃ rest, text = head ++ separator :: rest ∧
          rest.splitOn separator = tail) := by
  constructor
  · intro hsplit
    induction text generalizing head with
    | nil =>
        rw [List.splitOn_nil] at hsplit
        obtain ⟨rfl, rfl⟩ := List.cons.inj hsplit
        exact ⟨List.not_mem_nil, Or.inl ⟨rfl, rfl⟩⟩
    | cons c text ih =>
        rw [List.splitOn_cons_eq_if_modifyHead] at hsplit
        by_cases hc : c = separator
        · rw [if_pos (beq_iff_eq.mpr hc)] at hsplit
          obtain ⟨rfl, rfl⟩ := List.cons.inj hsplit
          exact ⟨List.not_mem_nil, Or.inr ⟨text, by rw [hc]; rfl, rfl⟩⟩
        · rw [if_neg (by simpa using hc)] at hsplit
          obtain ⟨front, rest, hfront⟩ :=
            List.exists_cons_of_ne_nil (List.splitOn_ne_nil separator text)
          rw [hfront, List.modifyHead_cons] at hsplit
          obtain ⟨rfl, rfl⟩ := List.cons.inj hsplit
          obtain ⟨hnot, htext⟩ := ih hfront
          refine ⟨by simp [hnot, Ne.symm hc], ?_⟩
          rcases htext with ⟨rfl, rfl⟩ | ⟨after, rfl, hafter⟩
          · exact Or.inl ⟨rfl, rfl⟩
          · exact Or.inr ⟨after, rfl, hafter⟩
  · rintro ⟨hnot, ⟨rfl, rfl⟩ | ⟨rest, rfl, rfl⟩⟩
    · exact List.splitOn_eq_singleton hnot
    · exact List.splitOn_append_cons_self_of_not_mem hnot rest

end Datafeed.Text
