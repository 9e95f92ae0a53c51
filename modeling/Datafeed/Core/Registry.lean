import Datafeed.Core.Machine
import Mathlib.Data.List.Nodup
import Mathlib.Logic.Function.Basic

/-!
# Registries

A registry gives each of its keys a value.  What a service answers about its
entries is seen as a history of events: entries that are made and removed, and
what was found under a key.  A history is legal where every answer is that of
the entries at its point, and then the entry of a key is what its own events
say.
-/

namespace Datafeed.Registry

variable {Key Value : Type*}

inductive Event (Key Value : Type*)
  | insert (key : Key) (value : Value)
  | remove (key : Key)
  | found (key : Key) (value : Value)
  | missing (key : Key)
  /-- A new entry was refused since its key has one. -/
  | taken (key : Key)
  | listed (entries : List (Key × Value))

/-- Every entry is listed once. -/
structure Lists (entries : Key → Option Value) (listed : List (Key × Value)) :
    Prop where
  mem_iff : ∀ key value, (key, value) ∈ listed ↔ entries key = some value
  nodup : (listed.map Prod.fst).Nodup

/-- Whether the event can happen with these entries. -/
def Admits (entries : Key → Option Value) : Event Key Value → Prop
  | .insert key _ | .missing key => entries key = none
  | .remove key | .taken key => (entries key).isSome = true
  | .found key value => entries key = some value
  | .listed listed => Lists entries listed

variable [DecidableEq Key]

def after (entries : Key → Option Value) :
    Event Key Value → Key → Option Value
  | .insert key value => Function.update entries key (some value)
  | .remove key => Function.update entries key none
  | _ => entries

open Classical in
noncomputable def step (entries : Key → Option Value)
    (event : Event Key Value) : Option (Key → Option Value) :=
  if Admits entries event then some (after entries event) else none

noncomputable def machine :
    Machine (Key → Option Value) (Event Key Value) where
  initial _ := none
  step := step

theorem step_eq_some_iff {entries next : Key → Option Value}
    {event : Event Key Value} :
    step entries event = some next ↔
      Admits entries event ∧ next = after entries event := by
  rw [step, Option.ite_none_right_eq_some, Option.some.injEq]
  exact and_congr_right fun _ => eq_comm

theorem run_event {entries : Key → Option Value} {event : Event Key Value}
    (hadmits : Admits entries event) :
    machine.run entries [event] = some (after entries event) :=
  Machine.run_singleton (step_eq_some_iff.mpr ⟨hadmits, rfl⟩)

/-- An entry that is made anew. -/
theorem run_renew {entries : Key → Option Value} {key : Key}
    (hpresent : (entries key).isSome = true) (value : Value) :
    machine.run entries [.remove key, .insert key value] =
      some (Function.update entries key (some value)) := by
  refine Machine.run_pair
    (step_eq_some_iff.mpr ⟨hpresent, rfl⟩)
    (step_eq_some_iff.mpr ⟨Function.update_self .., ?_⟩)
  simp only [after, Function.update_idem]

/-- What an event makes of the entry of a key. -/
def entryAfter (key : Key) (entry : Option Value) :
    Event Key Value → Option Value
  | .insert other value => if other = key then some value else entry
  | .remove other => if other = key then none else entry
  | _ => entry

/-- The entry of a key after a history that began without entries. -/
def current (key : Key) (events : List (Event Key Value)) : Option Value :=
  events.foldl (entryAfter key) none

theorem after_apply (entries : Key → Option Value) (event : Event Key Value)
    (key : Key) :
    after entries event key = entryAfter key (entries key) event := by
  cases event with
  | insert other value =>
      by_cases hsame : other = key
      · subst hsame
        simp [after, entryAfter]
      · simp [after, entryAfter, hsame, Function.update_of_ne (Ne.symm hsame)]
  | remove other =>
      by_cases hsame : other = key
      · subst hsame
        simp [after, entryAfter]
      · simp [after, entryAfter, hsame, Function.update_of_ne (Ne.symm hsame)]
  | _ => rfl

theorem entry_of_run {entries final : Key → Option Value}
    {events : List (Event Key Value)}
    (hrun : machine.run entries events = some final) (key : Key) :
    final key = events.foldl (entryAfter key) (entries key) := by
  induction events generalizing entries with
  | nil =>
      obtain rfl : entries = final := by simpa using hrun
      rfl
  | cons event events ih =>
      obtain ⟨next, hstep, hrest⟩ := Machine.exists_of_run_cons hrun
      obtain ⟨-, rfl⟩ := step_eq_some_iff.mp hstep
      rw [ih hrest, after_apply, List.foldl_cons]

/-- After a legal history the entries are those that its events say. -/
theorem current_of_run {final : Key → Option Value}
    {events : List (Event Key Value)}
    (hrun : machine.run machine.initial events = some final) (key : Key) :
    final key = current key events :=
  entry_of_run hrun key

/-! ## Rows with keys of their own -/

section Rows

variable {Row : Type*} {keyOf : Row → Key}
  {read : Row → Option Value}

/-- What is read of the row of a key. -/
def entries (keyOf : Row → Key) (read : Row → Option Value) (rows : List Row)
    (key : Key) : Option Value :=
  (rows.find? fun row => keyOf row = key).bind read

/-- Every row can be read, and has a key of its own. -/
structure Legible (keyOf : Row → Key) (read : Row → Option Value)
    (rows : List Row) : Prop where
  reads : ∀ row ∈ rows, (read row).isSome = true
  distinct : (rows.map keyOf).Nodup

theorem entries_eq_none {rows : List Row} {key : Key}
    (hfresh : ∀ row ∈ rows, keyOf row ≠ key) :
    entries keyOf read rows key = none := by
  rw [entries, List.find?_eq_none.mpr]
  · rfl
  · intro row hrow
    simpa using hfresh row hrow

theorem Legible.isSome_entries_iff {rows : List Row}
    (hlegible : Legible keyOf read rows) {key : Key} :
    (entries keyOf read rows key).isSome = true ↔
      ∃ row ∈ rows, keyOf row = key := by
  constructor
  · intro hsome
    by_contra hnone
    push Not at hnone
    rw [entries_eq_none hnone] at hsome
    cases hsome
  · rintro ⟨row, hrow, hkey⟩
    have hsome : (rows.find? fun row => keyOf row = key).isSome = true :=
      List.find?_isSome.mpr ⟨row, hrow, decide_eq_true hkey⟩
    obtain ⟨found, hfound⟩ := Option.isSome_iff_exists.mp hsome
    rw [entries, hfound, Option.bind_some]
    exact hlegible.reads found (List.mem_of_find?_eq_some hfound)

theorem Legible.keyOf_ne {rows : List Row}
    (hlegible : Legible keyOf read rows) {key : Key}
    (hnone : entries keyOf read rows key = none) :
    ∀ row ∈ rows, keyOf row ≠ key := by
  intro row hrow hkey
  have hsome := hlegible.isSome_entries_iff.mpr ⟨row, hrow, hkey⟩
  rw [hnone] at hsome
  cases hsome

omit [DecidableEq Key] in
theorem legible_append {rows : List Row} (hlegible : Legible keyOf read rows)
    {row : Row} (hread : (read row).isSome = true)
    (hfresh : ∀ other ∈ rows, keyOf other ≠ keyOf row) :
    Legible keyOf read (rows ++ [row]) where
  reads other hother := by
    rcases List.mem_append.mp hother with hmem | hnew
    · exact hlegible.reads other hmem
    · rw [List.mem_singleton.mp hnew]
      exact hread
  distinct := by
    rw [List.map_append, List.map_singleton, List.nodup_append]
    refine ⟨hlegible.distinct, List.nodup_singleton _, ?_⟩
    intro key hmem new hnew
    obtain ⟨other, hother, rfl⟩ := List.mem_map.mp hmem
    rw [List.mem_singleton.mp hnew]
    exact hfresh other hother

theorem entries_append {rows : List Row} {row : Row} {value : Value}
    (hread : read row = some value)
    (hfresh : ∀ other ∈ rows, keyOf other ≠ keyOf row) :
    entries keyOf read (rows ++ [row]) =
      Function.update (entries keyOf read rows) (keyOf row) (some value) := by
  funext key
  rw [entries, List.find?_append]
  by_cases hsame : key = keyOf row
  · subst hsame
    have hnone : rows.find? (fun other => keyOf other = keyOf row) = none :=
      List.find?_eq_none.mpr fun other hother => by
        simpa using hfresh other hother
    rw [Function.update_self, hnone]
    simp [hread]
  · rw [Function.update_of_ne hsame, entries]
    simp [Ne.symm hsame]

omit [DecidableEq Key] in
theorem legible_filter {rows : List Row} (hlegible : Legible keyOf read rows)
    (keep : Row → Bool) : Legible keyOf read (rows.filter keep) where
  reads row hrow := hlegible.reads row (List.mem_filter.mp hrow).1
  distinct := hlegible.distinct.sublist (List.filter_sublist.map keyOf)

theorem entries_filter_ne (rows : List Row) (key : Key) :
    entries keyOf read (rows.filter fun row => keyOf row ≠ key) =
      Function.update (entries keyOf read rows) key none := by
  funext other
  by_cases hsame : other = key
  · subst hsame
    rw [Function.update_self]
    apply entries_eq_none
    intro row hrow
    simpa using (List.mem_filter.mp hrow).2
  · rw [Function.update_of_ne hsame, entries, entries, List.find?_filter]
    congr 2
    funext row
    by_cases hkey : keyOf row = other
    · simp [hkey, hsame]
    · simp [hkey]

theorem Legible.entries_keyOf {rows : List Row}
    (hlegible : Legible keyOf read rows) {row : Row} (hrow : row ∈ rows) :
    entries keyOf read rows (keyOf row) = read row := by
  have hsome : (rows.find? fun other => keyOf other = keyOf row).isSome =
      true := List.find?_isSome.mpr ⟨row, hrow, decide_eq_true rfl⟩
  obtain ⟨found, hfound⟩ := Option.isSome_iff_exists.mp hsome
  have hkey : keyOf found = keyOf row := by
    simpa using List.find?_some hfound
  have hsame : found = row := List.inj_on_of_nodup_map hlegible.distinct
    (List.mem_of_find?_eq_some hfound) hrow hkey
  rw [entries, hfound, hsame, Option.bind_some]

omit [DecidableEq Key] in
/-- What is listed when every row can be read. -/
theorem map_fst_filterMap {rows : List Row}
    (hreads : ∀ row ∈ rows, (read row).isSome = true) :
    (rows.filterMap fun row => (read row).map fun value =>
      (keyOf row, value)).map Prod.fst = rows.map keyOf := by
  induction rows with
  | nil => rfl
  | cons row rows ih =>
      obtain ⟨value, hvalue⟩ := Option.isSome_iff_exists.mp
        (hreads row List.mem_cons_self)
      simp only [List.filterMap_cons, hvalue, Option.map_some, List.map_cons]
      rw [ih fun other hother => hreads other (List.mem_cons_of_mem _ hother)]

/-- Whatever the order in which the rows are read, every entry is listed. -/
theorem lists_of_perm {rows sent : List Row}
    (hlegible : Legible keyOf read rows) (hperm : sent.Perm rows) :
    Lists (entries keyOf read rows)
      (sent.filterMap fun row => (read row).map fun value =>
        (keyOf row, value)) where
  mem_iff key value := by
    simp only [List.mem_filterMap, Option.map_eq_some_iff, Prod.mk.injEq,
      hperm.mem_iff]
    constructor
    · rintro ⟨row, hrow, value, hread, rfl, rfl⟩
      rw [hlegible.entries_keyOf hrow, hread]
    · intro hentry
      obtain ⟨row, hrow, rfl⟩ := hlegible.isSome_entries_iff.mp
        (Option.isSome_of_eq_some hentry)
      rw [hlegible.entries_keyOf hrow] at hentry
      exact ⟨row, hrow, value, hentry, rfl, rfl⟩
  nodup := by
    rw [map_fst_filterMap fun row hrow =>
      hlegible.reads row (hperm.mem_iff.mp hrow)]
    exact (hperm.map keyOf).nodup_iff.mpr hlegible.distinct

/-! ## Replacing a row -/

/-- The rows with another one in the place of those of its key. -/
def replace (keyOf : Row → Key) (rows : List Row) (new : Row) : List Row :=
  rows.map fun row => if keyOf row = keyOf new then new else row

theorem mem_replace {rows : List Row} {new row : Row}
    (hrow : row ∈ replace keyOf rows new) : row ∈ rows ∨ row = new := by
  obtain ⟨other, hother, rfl⟩ := List.mem_map.mp hrow
  split
  · exact Or.inr rfl
  · exact Or.inl hother

theorem map_keyOf_replace (rows : List Row) (new : Row) :
    (replace keyOf rows new).map keyOf = rows.map keyOf := by
  rw [replace, List.map_map]
  apply List.map_congr_left
  intro row _
  rw [Function.comp]
  split
  · next hkey => exact hkey.symm
  · rfl

theorem entries_replace_of_mem {rows : List Row} {new : Row}
    (hpresent : ∃ row ∈ rows, keyOf row = keyOf new) :
    entries keyOf read (replace keyOf rows new) =
      Function.update (entries keyOf read rows) (keyOf new) (read new) := by
  have hkey : ((fun row => decide (keyOf row = keyOf new)) ∘ fun row =>
      if keyOf row = keyOf new then new else row) =
        fun row => decide (keyOf row = keyOf new) := by
    funext row
    rw [Function.comp]
    split
    · next hsame => rw [decide_eq_true rfl, decide_eq_true hsame]
    · rfl
  funext key
  rw [entries, replace, List.find?_map]
  by_cases hsame : key = keyOf new
  · subst hsame
    obtain ⟨row, hrow, hpresent⟩ := hpresent
    have hsome : (rows.find? fun row => keyOf row = keyOf new).isSome =
        true := List.find?_isSome.mpr ⟨row, hrow, decide_eq_true hpresent⟩
    obtain ⟨found, hfound⟩ := Option.isSome_iff_exists.mp hsome
    have hnew : keyOf found = keyOf new := by
      simpa using List.find?_some hfound
    rw [Function.update_self, hkey, hfound]
    simp [hnew]
  · have hother : ((fun row => decide (keyOf row = key)) ∘ fun row =>
        if keyOf row = keyOf new then new else row) =
          fun row => decide (keyOf row = key) := by
      funext row
      rw [Function.comp]
      split
      · next hold => rw [hold]
      · rfl
    rw [Function.update_of_ne hsame, hother, entries]
    cases hfind : rows.find? fun row => keyOf row = key with
    | none => rfl
    | some found =>
        have hfound : keyOf found = key := by
          simpa using List.find?_some hfind
        have hold : ¬ keyOf found = keyOf new := by
          rw [hfound]
          exact hsame
        simp [hold]

/-- Where the key has no row nothing is replaced. -/
theorem Legible.entries_replace {rows : List Row}
    (hlegible : Legible keyOf read rows) {new : Row} {value : Value}
    (hread : read new = some value) :
    entries keyOf read (replace keyOf rows new) =
      if (entries keyOf read rows (keyOf new)).isSome then
        Function.update (entries keyOf read rows) (keyOf new) (some value)
      else entries keyOf read rows := by
  rw [← hread]
  split
  · next hsome =>
      exact entries_replace_of_mem (hlegible.isSome_entries_iff.mp hsome)
  · next hnone =>
      have hsame : replace keyOf rows new = rows.map id := by
        apply List.map_congr_left
        intro row hrow
        exact if_neg fun hkey => hnone
          (hlegible.isSome_entries_iff.mpr ⟨row, hrow, hkey⟩)
      rw [hsame, List.map_id]

end Rows

/-! ## Rows in the order of a server -/

/-- The rows at the places of a list. -/
def inOrder {Row : Type*} (rows : List Row) (order : List ℕ) : List Row :=
  order.filterMap fun place => rows[place]?

theorem inOrder_range {Row : Type*} (rows : List Row) :
    inOrder rows (List.range rows.length) = rows := by
  induction rows with
  | nil => rfl
  | cons row rows ih =>
      rw [inOrder, List.length_cons, List.range_succ_eq_map,
        List.filterMap_cons, List.filterMap_map]
      exact congrArg (row :: ·) ih

theorem inOrder_perm {Row : Type*} {rows : List Row} {order : List ℕ}
    (hevery : order.Perm (List.range rows.length)) :
    (inOrder rows order).Perm rows :=
  (hevery.filterMap _).trans (List.Perm.of_eq (inOrder_range rows))

end Datafeed.Registry
