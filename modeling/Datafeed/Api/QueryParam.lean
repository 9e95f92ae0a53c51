import Datafeed.Core.Text
import Mathlib.Data.List.Induction

/-!
# Query parameters

Three controllers read a parameter of the request target in the same way: they
search the text after the first `?` for the key followed by `=`, and take what
follows up to the next `&`.  The search is one for a substring, so it does not
see where a key begins.
-/

namespace Datafeed.QueryParam

open Text (find findFrom substr substrFrom)

/-! ## The controllers -/

/-- The body that the three functions share. -/
def getQueryParam (target key : String) : String :=
  match find "?" target with
  | none => ""
  | some qpos =>
      let qs := substrFrom target (qpos + 1)
      let search := key ++ "="
      match find search qs with
      | none => ""
      | some kpos =>
          let vstart := kpos + search.length
          match findFrom "&" qs vstart with
          | none => substrFrom qs vstart
          | some vend => substr qs vstart (vend - vstart)

def MonitorController.getQueryParam (target key : String) : String :=
  QueryParam.getQueryParam target key

def AlertsController.getQueryParam (target key : String) : String :=
  QueryParam.getQueryParam target key

def SearchController.getQueryParam (target key : String) : String :=
  QueryParam.getQueryParam target key

inductive Controller
  | monitor
  | alerts
  | search
  deriving DecidableEq

def Controller.getQueryParam : Controller → String → String → String
  | monitor => MonitorController.getQueryParam
  | alerts => AlertsController.getQueryParam
  | search => SearchController.getQueryParam

/-! ## Query strings -/

/-- A key and its value. -/
abbrev Pair := String × String

/-- The text has none of the separators. -/
def Free (text : String) : Prop :=
  '&' ∉ text.toList ∧ '=' ∉ text.toList ∧ '?' ∉ text.toList

instance : DecidablePred Free := fun _ =>
  inferInstanceAs (Decidable (_ ∧ _ ∧ _))

def pairText (pair : Pair) : List Char :=
  pair.1.toList ++ '=' :: pair.2.toList

/-- `k1=v1&...&kn=vn` -/
def queryText : List Pair → List Char
  | [] => []
  | [pair] => pairText pair
  | pair :: pairs => pairText pair ++ '&' :: queryText pairs

def query (pairs : List Pair) : String :=
  String.ofList (queryText pairs)

@[simp]
theorem toList_query (pairs : List Pair) :
    (query pairs).toList = queryText pairs :=
  String.toList_ofList

def target (path : String) (pairs : List Pair) : String :=
  path ++ "?" ++ query pairs

/-- The value of the first pair with the key. -/
def valueOf (key : String) (pairs : List Pair) : String :=
  ((pairs.find? fun pair => pair.1 = key).map Prod.snd).getD ""

/-- The key ends with another one, or is that one. -/
def EndsWith (key : String) (pair : Pair) : Prop :=
  key.toList <:+ pair.1.toList

instance (key : String) : DecidablePred (EndsWith key) := fun _ =>
  inferInstanceAs (Decidable (_ <:+ _))

/-- The text before a pair, and after it. -/
def leading (earlier : List Pair) : List Char :=
  earlier.flatMap fun pair => pairText pair ++ ['&']

def trailing (later : List Pair) : List Char :=
  later.flatMap fun pair => '&' :: pairText pair

/-- A pair with the key starts at the position. -/
def PairAt (pairs : List Pair) (key : String) (position : ℕ) : Prop :=
  ∃ earlier pair later, pairs = earlier ++ pair :: later ∧
    pair.1 = key ∧ position = (leading earlier).length

/-- What a lookup of a key in a query string should give. -/
structure LooksUp (controller : Controller) (path : String)
    (pairs : List Pair) (key : String) : Prop where
  value : controller.getQueryParam (target path pairs) key = valueOf key pairs
  /-- Neither the end of another key nor a part of a value is taken for the
  key. -/
  wholeKey : ∀ kpos, find (key ++ "=") (query pairs) = some kpos →
    PairAt pairs key kpos

/-! ## Where the search ends -/

theorem infix_pairText_iff {word key value : List Char} (hkey : '=' ∉ key)
    (hvalue : '=' ∉ value) :
    word ++ ['='] <:+: key ++ '=' :: value ↔ word <:+ key := by
  constructor
  · rintro ⟨before, after, htext⟩
    have hsplit : before ++ word ++ '=' :: after = key ++ '=' :: value := by
      simpa using htext
    suffices hsame : before ++ word = key from ⟨before, hsame⟩
    -- The `=` of the pattern is the only one there is.
    rcases List.append_eq_append_iff.mp hsplit with
      ⟨rest, hkeyText, hrest⟩ | ⟨rest, hleft, hrest⟩
    · cases rest with
      | nil => simpa using hkeyText.symm
      | cons head rest =>
          obtain rfl : '=' = head := (List.cons.inj hrest).1
          exact absurd (by simp [hkeyText]) hkey
    · cases rest with
      | nil => simpa using hleft
      | cons head rest =>
          have hvalueText : value = rest ++ '=' :: after :=
            (List.cons.inj hrest).2
          exact absurd (by simp [hvalueText]) hvalue
  · rintro ⟨before, rfl⟩
    exact ⟨before, value, by simp⟩

section Lookup

variable {key : String} {pairs earlier later : List Pair} {first : Pair}

theorem separator_not_mem_search (hkey : Free key) :
    '&' ∉ key.toList ++ ['='] := by
  simp [hkey.1]

theorem infix_queryText_iff (hkey : Free key)
    (hpairs : ∀ pair ∈ pairs, Free pair.1 ∧ Free pair.2) :
    key.toList ++ ['='] <:+: queryText pairs ↔
      ∃ pair ∈ pairs, EndsWith key pair := by
  induction pairs with
  | nil => simp [queryText]
  | cons head pairs ih =>
      obtain ⟨hhead, hrest⟩ := List.forall_mem_cons.mp hpairs
      have hpair : key.toList ++ ['='] <:+: pairText head ↔
          EndsWith key head :=
        infix_pairText_iff hhead.1.2.1 hhead.2.2.1
      cases pairs with
      | nil => simpa [queryText] using hpair
      | cons next pairs =>
          rw [queryText, Text.infix_append_cons_iff
            (separator_not_mem_search hkey), hpair, ih hrest]
          simp only [List.mem_cons, exists_eq_or_imp]
          exact fun h => by cases h

theorem queryText_cons (pair : Pair) (later : List Pair) :
    queryText (pair :: later) = pairText pair ++ trailing later := by
  induction later generalizing pair with
  | nil => simp [queryText, trailing]
  | cons next later ih =>
      rw [queryText, ih]
      · simp [trailing]
      · exact fun h => by cases h

theorem queryText_append (earlier : List Pair) (pair : Pair)
    (later : List Pair) :
    queryText (earlier ++ pair :: later) =
      leading earlier ++ (pairText pair ++ trailing later) := by
  induction earlier with
  | nil => exact queryText_cons pair later
  | cons head earlier ih =>
      have hne : earlier ++ pair :: later ≠ [] := by simp
      obtain ⟨next, rest, hnext⟩ := List.exists_cons_of_ne_nil hne
      rw [List.cons_append, hnext, queryText, ← hnext, ih]
      · simp [leading]
      · exact fun h => by cases h

/-- The search does not end before the first key that ends with the key. -/
theorem not_infix_leading {rest : List Char} (hkey : Free key)
    (hearlier : ∀ pair ∈ earlier, Free pair.1 ∧ Free pair.2)
    (hnone : ∀ pair ∈ earlier, ¬ EndsWith key pair) (hrest : '=' ∉ rest) :
    ¬ key.toList ++ ['='] <:+: leading earlier ++ rest := by
  induction earlier with
  | nil =>
      intro hoccurs
      exact hrest (hoccurs.subset (by simp))
  | cons head earlier ih =>
      obtain ⟨hhead, hothers⟩ := List.forall_mem_cons.mp hearlier
      obtain ⟨hends, hnones⟩ := List.forall_mem_cons.mp hnone
      have htext : leading (head :: earlier) ++ rest =
          pairText head ++ '&' :: (leading earlier ++ rest) := by
        simp [leading]
      rw [htext, Text.infix_append_cons_iff (separator_not_mem_search hkey)]
      rintro (hoccurs | hoccurs)
      · exact hends
          ((infix_pairText_iff hhead.1.2.1 hhead.2.2.1).mp hoccurs)
      · exact ih hothers hnones hoccurs

theorem exists_split (hfirst : (pairs.find? fun pair => EndsWith key pair) =
      some first) :
    ∃ earlier later before, pairs = earlier ++ first :: later ∧
      (∀ pair ∈ earlier, ¬ EndsWith key pair) ∧
      before ++ key.toList = first.1.toList := by
  obtain ⟨hends, earlier, later, hpairs, hnone⟩ :=
    List.find?_eq_some_iff_append.mp hfirst
  obtain ⟨before, hbefore⟩ : EndsWith key first := by simpa using hends
  exact ⟨earlier, later, before, hpairs, by simpa using hnone, hbefore⟩

/-- The search ends in the first key that ends with the key. -/
theorem find_search_query {before : List Char} (hkey : Free key)
    (hpairs : ∀ pair ∈ earlier ++ first :: later, Free pair.1 ∧ Free pair.2)
    (hnone : ∀ pair ∈ earlier, ¬ EndsWith key pair)
    (hbefore : before ++ key.toList = first.1.toList) :
    find (key ++ "=") (query (earlier ++ first :: later)) =
      some (leading earlier ++ before).length := by
  obtain ⟨hearlier, hrest⟩ := List.forall_mem_append.mp hpairs
  have hfirst : Free first.1 := (hrest first List.mem_cons_self).1
  have hsearch : (key ++ "=").toList = key.toList ++ ['='] :=
    String.toList_append
  have htext : (query (earlier ++ first :: later)).toList =
      leading earlier ++ before ++ (key ++ "=").toList ++
        (first.2.toList ++ trailing later) := by
    rw [toList_query, queryText_append, pairText, ← hbefore,
      hsearch]
    simp
  refine Text.find_eq_some_of_append htext ?_
  rw [hsearch, ← List.append_assoc, List.dropLast_concat, List.append_assoc,
    hbefore]
  exact not_infix_leading hkey hearlier hnone hfirst.2.1

theorem find_search_none (hkey : Free key)
    (hpairs : ∀ pair ∈ pairs, Free pair.1 ∧ Free pair.2)
    (hnone : ∀ pair ∈ pairs, ¬ EndsWith key pair) :
    find (key ++ "=") (query pairs) = none := by
  have hsearch : (key ++ "=").toList = key.toList ++ ['='] :=
    String.toList_append
  rw [Text.find_eq_none_iff, hsearch, toList_query,
    infix_queryText_iff hkey hpairs]
  rintro ⟨pair, hmem, hends⟩
  exact hnone pair hmem hends

/-- The query string is what follows the first `?`. -/
theorem find_question {path : String} (hpath : '?' ∉ path.toList)
    (pairs : List Pair) :
    find "?" (target path pairs) = some path.toList.length := by
  have htext : (target path pairs).toList =
      path.toList ++ '?' :: queryText pairs := by
    simp [target, query]
  exact Text.find_character rfl htext hpath

theorem substrFrom_target (path : String) (pairs : List Pair) :
    substrFrom (target path pairs) (path.toList.length + 1) = query pairs := by
  have htext : (target path pairs).toList =
      (path.toList ++ ['?']) ++ queryText pairs := by
    simp [target, query]
  rw [substrFrom, htext, List.drop_left' (by simp), query]

/-- What is cut out from a value's first position on is the value. -/
theorem value_cut {value qs : String} {vstart : ℕ} (hvalue : Free value)
    (hqs : qs.toList.drop vstart = value.toList ++ trailing later) :
    (findFrom "&" qs vstart = none ∧ substrFrom qs vstart = value) ∨
      ∃ vend, findFrom "&" qs vstart = some vend ∧
        substr qs vstart (vend - vstart) = value := by
  cases later with
  | nil =>
      have hrest : qs.toList.drop vstart = value.toList := by
        simpa [trailing] using hqs
      have hcut : substrFrom qs vstart = value := by
        rw [substrFrom, hrest, String.ofList_toList]
      have hnone : findFrom "&" qs vstart = none := by
        rw [findFrom, hcut, Text.find_character_none rfl hvalue.1]
        rfl
      exact Or.inl ⟨hnone, hcut⟩
  | cons next later =>
      have hrest : qs.toList.drop vstart = value.toList ++
          '&' :: (pairText next ++ trailing later) := by
        simpa [trailing] using hqs
      have hsome : findFrom "&" qs vstart =
          some (vstart + value.toList.length) := by
        have hfind : find "&" (substrFrom qs vstart) =
            some value.toList.length :=
          Text.find_character rfl (String.toList_ofList.trans hrest) hvalue.1
        rw [findFrom, hfind]
        rfl
      refine Or.inr ⟨_, hsome, ?_⟩
      rw [substr, hrest, Nat.add_sub_cancel_left, List.take_left,
        String.ofList_toList]

/-- The function returns the value of the first pair whose key ends with the
key. -/
theorem getQueryParam_target {path : String} (hpath : '?' ∉ path.toList)
    (hkey : Free key) (hpairs : ∀ pair ∈ pairs, Free pair.1 ∧ Free pair.2) :
    getQueryParam (target path pairs) key =
      ((pairs.find? fun pair => EndsWith key pair).map Prod.snd).getD "" := by
  simp only [getQueryParam, find_question hpath, substrFrom_target]
  cases hfind : pairs.find? fun pair => EndsWith key pair with
  | none =>
      have hnone : ∀ pair ∈ pairs, ¬ EndsWith key pair := by
        simpa using hfind
      rw [find_search_none hkey hpairs hnone]
      rfl
  | some first =>
      obtain ⟨earlier, later, before, rfl, hothers, hbefore⟩ :=
        exists_split hfind
      have hvalueFree : Free first.2 := (hpairs first (by simp)).2
      have hvalue : (query (earlier ++ first :: later)).toList.drop
          ((leading earlier ++ before).length + (key ++ "=").length) =
            first.2.toList ++ trailing later := by
        have htext : (query (earlier ++ first :: later)).toList =
            (leading earlier ++ before ++ (key ++ "=").toList) ++
              (first.2.toList ++ trailing later) := by
          rw [toList_query, queryText_append, pairText, ← hbefore]
          simp
        have hlength : (leading earlier ++ before ++
            (key ++ "=").toList).length =
              (leading earlier ++ before).length + (key ++ "=").length := by
          rw [List.length_append, String.length_toList]
        rw [htext, List.drop_left' hlength]
      rw [find_search_query hkey hpairs hothers hbefore]
      rcases value_cut hvalueFree hvalue with
        ⟨hend, hcut⟩ | ⟨vend, hend, hcut⟩ <;>
        simp only [hend, hcut, Option.map_some, Option.getD_some]

theorem endsWith_of_eq {pair : Pair} (hpair : pair.1 = key) :
    EndsWith key pair :=
  hpair ▸ List.suffix_rfl

/-- A pair with the key that starts where the search ends is the first one
whose key ends with the key. -/
theorem PairAt.first_eq {before : List Char}
    (hnone : ∀ pair ∈ earlier, ¬ EndsWith key pair)
    (hbefore : before ++ key.toList = first.1.toList)
    (hpair : PairAt (earlier ++ first :: later) key
      (leading earlier ++ before).length) :
    first.1 = key := by
  obtain ⟨front, pair, rest, hpairs, hkey, hposition⟩ := hpair
  rcases List.append_eq_append_iff.mp hpairs with
    ⟨middle, hfront, hmiddle⟩ | ⟨middle, hearlier, hmiddle⟩
  · cases middle with
    | nil =>
        obtain rfl : first = pair := (List.cons.inj hmiddle).1
        exact hkey
    | cons head middle =>
        -- The pair starts behind the end of the first one.
        obtain rfl : first = head := (List.cons.inj hmiddle).1
        have hlength : (leading earlier ++ before).length <
            (leading front).length := by
          have hkeyLength : before.length ≤ first.1.toList.length := by
            rw [← hbefore, List.length_append]
            exact Nat.le_add_right _ _
          simp only [hfront, leading, pairText, List.flatMap_append,
            List.flatMap_cons, List.length_append, List.length_cons]
          omega
        exact absurd hposition hlength.ne
  · cases middle with
    | nil =>
        obtain rfl : pair = first := (List.cons.inj hmiddle).1
        exact hkey
    | cons head middle =>
        obtain rfl : pair = head := (List.cons.inj hmiddle).1
        exact absurd (endsWith_of_eq hkey) (hnone pair (by simp [hearlier]))

end Lookup

/-! ## When the key is found -/

@[simp]
theorem Controller.getQueryParam_eq (controller : Controller) :
    controller.getQueryParam = QueryParam.getQueryParam := by
  cases controller <;> rfl

section Value

variable {path key : String} {pairs : List Pair} {first : Pair}

/-- A first pair whose key ends with its own key is the first one with it. -/
theorem valueOf_of_find (hfirst : (pairs.find? fun pair =>
      EndsWith first.1 pair) = some first) :
    valueOf first.1 pairs = first.2 := by
  obtain ⟨earlier, later, -, rfl, hnone, -⟩ := exists_split hfirst
  have hother : ∀ pair ∈ earlier, pair.1 ≠ first.1 :=
    fun pair hmem hpair => hnone pair hmem (endsWith_of_eq hpair)
  have hfind : (earlier ++ first :: later).find?
      (fun pair => pair.1 = first.1) = some first := by
    rw [List.find?_eq_some_iff_append]
    exact ⟨by simp, earlier, later, rfl, by simpa using hother⟩
  rw [valueOf, hfind]
  rfl

theorem looksUp_of_find (controller : Controller) (hpath : '?' ∉ path.toList)
    (hpairs : ∀ pair ∈ pairs, Free pair.1 ∧ Free pair.2)
    (hfirst : (pairs.find? fun pair => EndsWith first.1 pair) =
      some first) :
    LooksUp controller path pairs first.1 := by
  have hkey : Free first.1 := (hpairs first (List.mem_of_find?_eq_some hfirst)).1
  constructor
  · rw [Controller.getQueryParam_eq, getQueryParam_target hpath hkey hpairs,
      hfirst, valueOf_of_find hfirst]
    rfl
  · intro kpos hkpos
    obtain ⟨earlier, later, before, rfl, hnone, hbefore⟩ :=
      exists_split hfirst
    obtain rfl : before = [] := List.append_left_eq_self.mp hbefore
    rw [find_search_query hkey hpairs hnone hbefore,
      List.append_nil] at hkpos
    exact ⟨earlier, first, later, rfl, rfl, (Option.some.inj hkpos).symm⟩

theorem looksUp_of_not_infix (controller : Controller)
    (hpath : '?' ∉ path.toList)
    (hpairs : ∀ pair ∈ pairs, Free pair.1 ∧ Free pair.2)
    (hoccurs : ¬ (key ++ "=").toList <:+: (query pairs).toList) :
    LooksUp controller path pairs key := by
  have hnone : find (key ++ "=") (query pairs) = none :=
    Text.find_eq_none_iff.mpr hoccurs
  constructor
  · have hother : ∀ pair ∈ pairs, pair.1 ≠ key := by
      rintro pair hmem rfl
      apply hoccurs
      rw [String.toList_append, toList_query]
      exact (infix_queryText_iff (hpairs pair hmem).1 hpairs).mpr
        ⟨pair, hmem, endsWith_of_eq rfl⟩
    have hfind : pairs.find? (fun pair => pair.1 = key) = none := by
      simpa using hother
    simp only [Controller.getQueryParam_eq, getQueryParam, find_question hpath,
      substrFrom_target, hnone, valueOf, hfind]
    rfl
  · intro kpos hkpos
    rw [hnone] at hkpos
    cases hkpos

end Value

/-- The key is found, if at all, in a pair that has it. -/
def FirstIsWhole (key : String) (pairs : List Pair) : Prop :=
  (key ++ "=").toList <:+: (query pairs).toList →
    ∃ first, (pairs.find? fun pair => EndsWith key pair) = some first ∧
      first.1 = key

/-- The value of the first pair with the key is returned, and nothing else is
taken for the key, just when the first pair whose key ends with it has no
longer key. -/
theorem getQueryParam_iff (controller : Controller) {path : String}
    {pairs : List Pair} (key : String) (hpath : '?' ∉ path.toList)
    (hpairs : ∀ pair ∈ pairs, Free pair.1 ∧ Free pair.2) :
    LooksUp controller path pairs key ↔ FirstIsWhole key pairs := by
  constructor
  · intro hlooks hoccurs
    obtain ⟨kpos, hkpos⟩ : ∃ kpos, find (key ++ "=") (query pairs) =
        some kpos :=
      Option.isSome_iff_exists.mp (Text.contains_iff.mpr hoccurs)
    obtain ⟨front, pair, rest, hpair, hwhole, -⟩ := hlooks.wholeKey kpos hkpos
    have hmem : pair ∈ pairs := by simp [hpair]
    have hkey : Free key := hwhole ▸ (hpairs pair hmem).1
    cases hfind : pairs.find? fun pair => EndsWith key pair with
    | none =>
        have hnone : ¬ EndsWith key pair := by
          simpa using List.find?_eq_none.mp hfind pair hmem
        exact absurd (endsWith_of_eq hwhole) hnone
    | some first =>
        refine ⟨first, rfl, ?_⟩
        obtain ⟨earlier, later, before, rfl, hothers, hbefore⟩ :=
          exists_split hfind
        have hstart := hlooks.wholeKey _
          (find_search_query hkey hpairs hothers hbefore)
        exact hstart.first_eq hothers hbefore
  · intro hfirst
    by_cases hoccurs : (key ++ "=").toList <:+: (query pairs).toList
    · obtain ⟨first, hfind, rfl⟩ := hfirst hoccurs
      exact looksUp_of_find controller hpath hpairs hfind
    · exact looksUp_of_not_infix controller hpath hpairs hoccurs

theorem getQueryParam_iff_search : LooksUp .search "/api/v1/search"
    [("limit", "5"), ("q", "btc")] "q" ↔
      FirstIsWhole "q" [("limit", "5"), ("q", "btc")] :=
  getQueryParam_iff .search "q" (by decide +kernel) (by decide +kernel)

/-- The end of another key is taken for the key. -/
theorem getQueryParam_end_of_key : ¬ LooksUp .search "/api/v1/search"
    [("seq", "1"), ("q", "btc")] "q" := by
  intro hlooks
  have hvalue := hlooks.value
  revert hvalue
  decide +kernel

end Datafeed.QueryParam
