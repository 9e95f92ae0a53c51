import Mathlib.Data.List.Basic
import Mathlib.Data.List.Count

/-!
# The first rows of an order with ties

What a sort gives is an arrangement of its rows in which none precedes one that
goes before it; rows that are equal in the order may stand in any order.  The
first rows of a selection are first rows of all exactly where every row left out
has enough rows of the selection before it.
-/

namespace Datafeed.Ranking

variable {Row Record : Type*} (le : Row → Row → Bool)

/-- The rows in the order. -/
structure Arranges (rows arranged : List Row) : Prop where
  perm : arranged.Perm rows
  ordered : arranged.Pairwise fun first second => le first second = true

/-- The first rows of an arrangement. -/
def Top (count : ℕ) (rows result : List Row) : Prop :=
  ∃ arranged, Arranges le rows arranged ∧ result = arranged.take count

/-- Any two rows can be compared, and the comparison is transitive. -/
structure IsPreorder : Prop where
  total : ∀ first second, (le first second || le second first) = true
  trans : ∀ first second third, le first second = true →
    le second third = true → le first third = true

/-- The order of a number that a row has. -/
def byKey (key : Row → ℕ) (first second : Row) : Bool :=
  decide (key first ≤ key second)

variable {le}

theorem isPreorder_byKey (key : Row → ℕ) : IsPreorder (byKey key) where
  total first second := by
    rw [Bool.or_eq_true, byKey, byKey, decide_eq_true_eq, decide_eq_true_eq]
    exact Nat.le_total _ _
  trans first second third hfirst hsecond := by
    rw [byKey, decide_eq_true_eq] at hfirst hsecond ⊢
    exact Nat.le_trans hfirst hsecond

/-- The order of a value of the rows, and the other way round. -/
theorem IsPreorder.comap {Value : Type*} {leValue : Value → Value → Bool}
    (hle : IsPreorder leValue) (value : Row → Value) :
    IsPreorder fun first second => leValue (value first) (value second) where
  total _ _ := hle.total _ _
  trans _ _ _ := hle.trans _ _ _

theorem IsPreorder.flip (hle : IsPreorder le) :
    IsPreorder fun first second => le second first where
  total first second := hle.total second first
  trans first second third hfirst hsecond :=
    hle.trans third second first hsecond hfirst

theorem exists_arranges (hle : IsPreorder le) (rows : List Row) :
    ∃ arranged, Arranges le rows arranged :=
  ⟨rows.mergeSort le, List.mergeSort_perm rows le,
    List.pairwise_mergeSort hle.trans hle.total rows⟩

/-- Two orders that agree on the rows have the same arrangements. -/
theorem Arranges.congr {other : Row → Row → Bool} {rows arranged : List Row}
    (hsame : ∀ first ∈ rows, ∀ second ∈ rows,
      le first second = other first second)
    (harranged : Arranges le rows arranged) : Arranges other rows arranged where
  perm := harranged.perm
  ordered := harranged.ordered.imp_of_mem fun hfirst hsecond hle => by
    rw [← hsame _ (harranged.perm.mem_iff.mp hfirst) _
      (harranged.perm.mem_iff.mp hsecond)]
    exact hle

/-- Merging puts the rows of the left list first where they are equal. -/
theorem arranges_merge (hle : IsPreorder le) {rows others arranged rest : List Row}
    (hrows : Arranges le rows arranged) (hothers : Arranges le others rest) :
    Arranges le (rows ++ others) (arranged.merge rest le) where
  perm := (List.merge_perm_append le).trans (hrows.perm.append hothers.perm)
  ordered := List.pairwise_merge hle.trans hle.total _ _ hrows.ordered
    hothers.ordered

/-- A merge begins with the rows of the left list that have enough of them before
every row of the right list. -/
theorem take_merge (hle : IsPreorder le) {count : ℕ} {rows others : List Row}
    (hordered : rows.Pairwise fun first second => le first second = true)
    (hbefore : ∀ other ∈ others, count ≤ rows.countP fun row => le row other) :
    (rows.merge others le).take count = rows.take count := by
  induction rows generalizing count with
  | nil =>
      cases others with
      | nil => rw [List.merge_right]
      | cons other others =>
          have hzero := hbefore other List.mem_cons_self
          rw [List.countP_nil, Nat.le_zero] at hzero
          rw [hzero, List.take_zero, List.take_zero]
  | cons row rows ih =>
      cases count with
      | zero => rw [List.take_zero, List.take_zero]
      | succ count =>
          cases others with
          | nil => rw [List.merge_right]
          | cons other others =>
              obtain ⟨hfirst, hrest⟩ := List.pairwise_cons.mp hordered
              -- the first row goes before any row that one of the rows does
              have hhead : ∀ left ∈ other :: others, le row left = true := by
                intro left hleft
                have hpositive := List.countP_pos_iff.mp
                  (Nat.lt_of_lt_of_le (Nat.succ_pos count) (hbefore left hleft))
                obtain ⟨between, hmem, hbetween⟩ := hpositive
                rcases List.mem_cons.mp hmem with rfl | htail
                · exact hbetween
                · exact hle.trans _ _ _ (hfirst between htail) hbetween
              rw [List.cons_merge_cons_pos le _ _
                  (hhead other List.mem_cons_self),
                List.take_succ_cons, List.take_succ_cons, ih hrest]
              intro left hleft
              have hcount := hbefore left hleft
              rw [List.countP_cons, if_pos (hhead left hleft)] at hcount
              exact Nat.le_of_succ_le_succ hcount

/-- A row behind the first ones goes after all of them. -/
theorem le_of_mem_drop {count : ℕ} {arranged : List Row}
    (hordered : arranged.Pairwise fun first second => le first second = true)
    {row other : Row} (hrow : row ∈ arranged.take count)
    (hother : other ∈ arranged.drop count) : le row other = true := by
  rw [← List.take_append_drop count arranged] at hordered
  exact (List.pairwise_append.mp hordered).2.2 row hrow other hother

section Selections

variable {selected : Row → Bool} {read : Row → Record}

/-- A row behind the first ones has all of them before it, and if they are
selected, so many of the selected rows. -/
theorem count_le_countP {count : ℕ} {rows whole : List Row}
    (hwhole : Arranges le rows whole)
    (hselected : ∀ first ∈ whole.take count, selected first = true) {row : Row}
    (hbehind : row ∈ whole.drop count) :
    count ≤ (rows.filter selected).countP fun other => le other row := by
  have hlength : (whole.take count).length = count := by
    have hlonger := List.length_pos_of_mem hbehind
    rw [List.length_drop] at hlonger
    rw [List.length_take]
    omega
  have hcount : (whole.take count).countP
      (fun other => selected other && le other row) = count := by
    refine Eq.trans (List.countP_eq_length.mpr ?_) hlength
    intro other hother
    rw [hselected other hother, le_of_mem_drop hwhole.ordered hother hbehind]
    rfl
  calc count = (whole.take count).countP
        (fun other => selected other && le other row) := hcount.symm
    _ ≤ whole.countP (fun other => selected other && le other row) :=
        (List.take_sublist count whole).countP_le
    _ = rows.countP (fun other => selected other && le other row) :=
        hwhole.perm.countP_eq _
    _ = (rows.filter selected).countP (fun other => le other row) := by
        rw [List.countP_filter]
        simp only [Bool.and_comm]

/-- The first rows of a selection are read as first rows of all exactly where
every row that is not selected has enough selected rows that it does not go
before.  What is read of a row tells whether it is selected. -/
theorem top_filter_iff (hle : IsPreorder le) (count : ℕ) {rows : List Row}
    (htells : ∀ first ∈ rows, ∀ second ∈ rows, read first = read second →
      selected first = selected second) :
    (∀ result, Top le count (rows.filter selected) result →
      ∃ other, Top le count rows other ∧ other.map read = result.map read) ↔
    ∀ row ∈ rows, selected row = false →
      count ≤ (rows.filter selected).countP fun other => le other row := by
  constructor
  · intro hall row hrow hleft
    obtain ⟨arranged, harranged⟩ := exists_arranges hle (rows.filter selected)
    obtain ⟨-, ⟨whole, hwhole, rfl⟩, hread⟩ :=
      hall _ ⟨arranged, harranged, rfl⟩
    -- the first rows of all are selected, since they are read as such rows
    have hselected : ∀ first ∈ whole.take count, selected first = true := by
      intro first hfirst
      have hmem : read first ∈ (whole.take count).map read :=
        List.mem_map_of_mem hfirst
      rw [hread] at hmem
      obtain ⟨second, hsecond, hsame⟩ := List.mem_map.mp hmem
      have hkept := List.mem_filter.mp
        (harranged.perm.mem_iff.mp (List.mem_of_mem_take hsecond))
      rw [← hkept.2]
      exact (htells second hkept.1 first
        (hwhole.perm.mem_iff.mp (List.mem_of_mem_take hfirst)) hsame).symm
    have hbehind : row ∈ whole.drop count := by
      have hmem := hwhole.perm.mem_iff.mpr hrow
      rw [← List.take_append_drop count whole, List.mem_append] at hmem
      rcases hmem with htake | hdrop
      · rw [hselected row htake] at hleft
        cases hleft
      · exact hdrop
    exact count_le_countP hwhole hselected hbehind
  · rintro hbefore result ⟨arranged, harranged, rfl⟩
    obtain ⟨rest, hrest⟩ :=
      exists_arranges hle (rows.filter fun row => !selected row)
    refine ⟨arranged.take count, ⟨arranged.merge rest le, ?_, ?_⟩, rfl⟩
    · have hmerged := arranges_merge hle harranged hrest
      exact ⟨hmerged.perm.trans (List.filter_append_perm selected rows),
        hmerged.ordered⟩
    · refine (take_merge hle harranged.ordered ?_).symm
      intro other hother
      obtain ⟨hmem, hnot⟩ := List.mem_filter.mp (hrest.perm.mem_iff.mp hother)
      rw [harranged.perm.countP_eq]
      exact hbefore other hmem (by simpa using hnot)

end Selections

/-- Every order of the rows is one of the order exactly where no two rows
differ in it. -/
theorem forall_perm_ordered_iff (hle : IsPreorder le) (rows : List Row) :
    (∀ arranged : List Row, arranged.Perm rows →
      arranged.Pairwise fun first second => le first second = true) ↔
    ∀ first ∈ rows, ∀ second ∈ rows, le first second = true := by
  constructor
  · intro hall first hfirst second hsecond
    obtain ⟨before, after, rfl⟩ := List.append_of_mem hfirst
    have hordered := hall (first :: (before ++ after)) List.perm_middle.symm
    have hmem := List.perm_middle.mem_iff.mp hsecond
    rcases List.mem_cons.mp hmem with rfl | hrest
    · simpa using hle.total second second
    · exact List.rel_of_pairwise_cons hordered hrest
  · intro hall arranged hperm
    exact List.pairwise_of_forall_mem_list fun first hfirst second hsecond =>
      hall first (hperm.mem_iff.mp hfirst) second (hperm.mem_iff.mp hsecond)

section Keys

variable {key seen : Row → ℕ} {rows : List Row}

theorem pairwise_map_key {arranged : List Row}
    (harranged : Arranges (byKey key) rows arranged) :
    (arranged.map key).Pairwise (· ≤ ·) := by
  rw [List.pairwise_map]
  exact harranged.ordered.imp fun hle => of_decide_eq_true hle

/-- Two arrangements by a number have the same numbers in the same places. -/
theorem map_key_eq {first second : List Row}
    (hfirst : Arranges (byKey key) rows first)
    (hsecond : Arranges (byKey key) rows second) :
    first.map key = second.map key :=
  List.Perm.eq_of_pairwise (fun _ _ _ _ hle hge => Nat.le_antisymm hle hge)
    (pairwise_map_key hfirst) (pairwise_map_key hsecond)
    ((hfirst.perm.trans hsecond.perm.symm).map key)

/-- If an arrangement is seen with the numbers of an arrangement, every row is
seen with its own. -/
theorem seen_eq_of_arranges {arranged result : List Row}
    (hresult : Arranges (byKey key) rows result)
    (harranged : Arranges (byKey key) rows arranged)
    (hseen : arranged.map key = result.map seen) :
    ∀ row ∈ rows, seen row = key row := by
  intro row hrow
  have hsame : result.map seen = result.map key :=
    hseen.symm.trans (map_key_eq harranged hresult)
  exact List.map_inj_left.mp hsame row (hresult.perm.mem_iff.mpr hrow)

/-- If the rows are seen with the numbers of an arrangement in whatever order
they stand, they all have the same number and are seen with it. -/
theorem seen_eq_of_forall_perm
    (hall : ∀ result : List Row, result.Perm rows → ∃ arranged,
      Arranges (byKey key) rows arranged ∧ arranged.map key = result.map seen) :
    ∀ row ∈ rows, seen row = key row ∧ ∀ other ∈ rows, key row = key other := by
  have hordered : ∀ result : List Row, result.Perm rows →
      result.Pairwise fun first second => byKey seen first second = true := by
    intro result hresult
    obtain ⟨arranged, harranged, hseen⟩ := hall result hresult
    have hpairwise := pairwise_map_key harranged
    rw [hseen, List.pairwise_map] at hpairwise
    exact hpairwise.imp fun hle => decide_eq_true hle
  have hle := (forall_perm_ordered_iff (isPreorder_byKey seen) rows).mp hordered
  have hsame : ∀ first ∈ rows, ∀ second ∈ rows, seen first = seen second :=
    fun first hfirst second hsecond => Nat.le_antisymm
      (of_decide_eq_true (hle first hfirst second hsecond))
      (of_decide_eq_true (hle second hsecond first hfirst))
  obtain ⟨arranged, harranged, hseen⟩ := hall rows (List.Perm.refl rows)
  have hown : ∀ row ∈ rows, seen row = key row := by
    intro row hrow
    have hmem : key row ∈ rows.map seen := by
      rw [← hseen]
      exact List.mem_map_of_mem (harranged.perm.mem_iff.mpr hrow)
    obtain ⟨other, hother, hkey⟩ := List.mem_map.mp hmem
    rw [← hkey]
    exact hsame row hrow other hother
  intro row hrow
  refine ⟨hown row hrow, fun other hother => ?_⟩
  rw [← hown row hrow, ← hown other hother]
  exact hsame row hrow other hother

end Keys

end Datafeed.Ranking
