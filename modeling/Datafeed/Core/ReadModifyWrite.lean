import Datafeed.Core.Machine
import Mathlib.Data.Set.Defs
import Mathlib.Logic.Function.Basic

/-!
# Reading, changing and writing a whole row

Two requests each read a row as a record, change some of its fields and write
the record back, every column of it.  Read and write are each a step of their
own, so the calls of the requests interleave.  A patch is kept in the row if the
writer that comes last has read its values, which it has not where both read
the row first.
-/

namespace Datafeed.ReadModifyWrite

variable {Store Record Env Column Value : Type*}

/-- A row of a store with its two operations.  `Env` is what an update takes
besides the store and the record. -/
structure WholeRow (Store Record Env Column Value : Type*) where
  get : Store → Option Record
  update : Env → Store → Record → Bool × Store
  field : Record → Column → Value
  /-- The row has the value in the column. -/
  Holds : Store → Column → Value → Prop
  /-- The columns that an update writes. -/
  written : Set Column
  /-- What a value of the row is read as. -/
  back : Column → Value → Value
  /-- The record has the key of the row. -/
  Keyed : Record → Prop
  keyed_of_get : ∀ {store record}, get store = some record → Keyed record
  field_of_get : ∀ {store record column value}, get store = some record →
    column ∈ written → Holds store column value →
      field record column = back column value
  holds_of_update : ∀ {env store record next}, Keyed record →
    update env store record = (true, next) →
      ∀ column ∈ written, Holds next column (field record column)
  holds_unique : ∀ {store column value other}, Holds store column value →
    Holds store column other → value = other

/-- A change of some of the written columns of a record. -/
structure Patch (row : WholeRow Store Record Env Column Value) where
  apply : Record → Record
  /-- The value for a column that the patch mentions. -/
  value : Column → Option Value
  value_written : ∀ column new, value column = some new → column ∈ row.written
  keyed_apply : ∀ record, row.Keyed record → row.Keyed (apply record)
  field_apply : ∀ record column,
    row.field (apply record) column =
      (value column).getD (row.field record column)

inductive Side
  | left
  | right
  deriving DecidableEq

def Side.other : Side → Side
  | .left => .right
  | .right => .left

inductive Phase (Record : Type*)
  | reading
  | writing (record : Record)
  | finished (ok : Bool)

structure State (Store Record : Type*) where
  store : Store
  phase : Side → Phase Record

variable (row : WholeRow Store Record Env Column Value)
  (patch : Side → Patch row)

/-- The next call of a request. -/
def call (state : State Store Record) (action : Side × Env) :
    Option (State Store Record) :=
  match state.phase action.1 with
  | .reading =>
      match row.get state.store with
      | none =>
          some { state with
            phase := Function.update state.phase action.1 (.finished false) }
      | some record =>
          some { state with
            phase := Function.update state.phase action.1
              (.writing ((patch action.1).apply record)) }
  | .writing record =>
      some
        { store := (row.update action.2 state.store record).2
          phase := Function.update state.phase action.1
            (.finished (row.update action.2 state.store record).1) }
  | .finished _ => none

/-- Two requests on the row of a store. -/
def requests (store : Store) : Machine (State Store Record) (Side × Env) where
  initial := ⟨store, fun _ => .reading⟩
  step := call row patch

/-- Both requests have reported success. -/
def State.Succeeded (state : State Store Record) : Prop :=
  ∀ side, state.phase side = .finished true

/-- The test of it. -/
def State.succeeded (state : State Store Record) : Bool :=
  match state.phase .left, state.phase .right with
  | .finished left, .finished right => left && right
  | _, _ => false

/-! ## What a run has done -/

variable {row patch}

theorem eq_or_eq_other (side other : Side) :
    other = side ∨ other = side.other := by
  cases side <;> cases other <;> decide

theorem State.succeeded_iff {state : State Store Record} :
    state.succeeded = true ↔ state.Succeeded := by
  constructor
  · intro hsucceeded
    rw [State.succeeded] at hsucceeded
    split at hsucceeded
    · next left right hleft hright =>
        obtain ⟨rfl, rfl⟩ := Bool.and_eq_true_iff.mp hsucceeded
        intro side
        cases side with
        | left => exact hleft
        | right => exact hright
    · cases hsucceeded
  · intro hsucceeded
    rw [State.succeeded, hsucceeded .left, hsucceeded .right]
    rfl

theorem exists_succeeded {result : Option (State Store Record)}
    (hresult : result.any State.succeeded = true) :
    ∃ final, result = some final ∧ final.Succeeded := by
  obtain ⟨final, hfinal, hsucceeded⟩ := (Option.any_eq_true _ _).mp hresult
  exact ⟨final, hfinal, State.succeeded_iff.mp hsucceeded⟩

theorem other_ne (side : Side) : side.other ≠ side := by
  cases side <;> decide

theorem ne_other (side : Side) : side ≠ side.other := (other_ne side).symm

@[simp]
theorem other_other (side : Side) : side.other.other = side := by
  cases side <;> rfl

/-- The first call of a request reads the row, if it is there. -/
theorem call_reading {state next : State Store Record} {action : Side × Env}
    (hreading : state.phase action.1 = .reading)
    (hcall : call row patch state action = some next) :
    next.store = state.store ∧
      (∀ side, side ≠ action.1 → next.phase side = state.phase side) ∧
      (next.phase action.1 = .finished false ∨
        ∃ record, row.get state.store = some record ∧
          next.phase action.1 = .writing ((patch action.1).apply record)) := by
  cases hget : row.get state.store with
  | none =>
      simp only [call, hreading, hget, Option.some.injEq] at hcall
      subst hcall
      exact ⟨rfl, fun side hne => Function.update_of_ne hne _ _,
        Or.inl (Function.update_self _ _ _)⟩
  | some record =>
      simp only [call, hreading, hget, Option.some.injEq] at hcall
      subst hcall
      exact ⟨rfl, fun side hne => Function.update_of_ne hne _ _,
        Or.inr ⟨record, rfl, Function.update_self _ _ _⟩⟩

/-- Its second call writes the record and finishes the request. -/
theorem call_writing {state next : State Store Record} {action : Side × Env}
    {record : Record} (hwriting : state.phase action.1 = .writing record)
    (hcall : call row patch state action = some next) :
    (∀ side, side ≠ action.1 → next.phase side = state.phase side) ∧
      ∃ ok, row.update action.2 state.store record = (ok, next.store) ∧
        next.phase action.1 = .finished ok := by
  simp only [call, hwriting, Option.some.injEq] at hcall
  subst hcall
  exact ⟨fun side hne => Function.update_of_ne hne _ _, _, rfl,
    Function.update_self _ _ _⟩

theorem call_finished {state : State Store Record} {action : Side × Env}
    {ok : Bool} (hfinished : state.phase action.1 = .finished ok) :
    call row patch state action = none := by
  simp only [call, hfinished]

/-- A finished request is not among the callers of the next call. -/
theorem ne_of_call {state next : State Store Record} {action : Side × Env}
    {side : Side} {ok : Bool} (hfinished : state.phase side = .finished ok)
    (hcall : call row patch state action = some next) : action.1 ≠ side := by
  rintro rfl
  rw [call_finished hfinished] at hcall
  cases hcall

theorem phase_of_call {state next : State Store Record} {action : Side × Env}
    (hcall : call row patch state action = some next) {side : Side}
    (hne : side ≠ action.1) : next.phase side = state.phase side := by
  cases hphase : state.phase action.1 with
  | reading => exact (call_reading hphase hcall).2.1 side hne
  | writing record => exact (call_writing hphase hcall).1 side hne
  | finished ok =>
      rw [call_finished hphase] at hcall
      cases hcall

/-- A request that is finished stays so. -/
theorem finished_of_run {store : Store} {state final : State Store Record}
    {side : Side} {ok : Bool} {calls : List (Side × Env)}
    (hfinished : state.phase side = .finished ok)
    (hrun : (requests row patch store).run state calls = some final) :
    final.phase side = .finished ok := by
  induction calls generalizing state with
  | nil =>
      obtain rfl : state = final := by simpa using hrun
      exact hfinished
  | cons action calls ih =>
      obtain ⟨next, hcall, hrest⟩ := Machine.exists_of_run_cons hrun
      apply ih _ hrest
      rw [phase_of_call hcall (ne_of_call hfinished hcall).symm]
      exact hfinished

/-- After both requests there is nothing left to call. -/
theorem calls_of_finished {store : Store} {state final : State Store Record}
    {calls : List (Side × Env)}
    (hfinished : ∀ side, ∃ ok, state.phase side = .finished ok)
    (hrun : (requests row patch store).run state calls = some final) :
    calls = [] ∧ final = state := by
  cases calls with
  | nil =>
      obtain rfl : state = final := by simpa using hrun
      exact ⟨rfl, rfl⟩
  | cons action calls =>
      obtain ⟨next, hcall, -⟩ := Machine.exists_of_run_cons hrun
      obtain ⟨ok, hok⟩ := hfinished action.1
      exact absurd rfl (ne_of_call hok hcall)

/-- The last write of a run. -/
theorem last_write {store : Store} {state final : State Store Record}
    {side : Side} {record : Record} {calls : List (Side × Env)}
    (hwriting : state.phase side = .writing record)
    (hother : ∃ ok, state.phase side.other = .finished ok)
    (hrun : (requests row patch store).run state calls = some final)
    (hsucceeds : final.phase side = .finished true) :
    ∃ env, calls = [(side, env)] ∧
      row.update env state.store record = (true, final.store) := by
  cases calls with
  | nil =>
      obtain rfl : state = final := by simpa using hrun
      rw [hwriting] at hsucceeds
      cases hsucceeds
  | cons action calls =>
      obtain ⟨next, hcall, hrest⟩ := Machine.exists_of_run_cons hrun
      obtain ⟨ok, hok⟩ := hother
      obtain hself | hout := eq_or_eq_other side action.1
      · obtain ⟨caller, env⟩ := action
        obtain rfl : caller = side := hself
        obtain ⟨hkept, ok', hupdate, hdone⟩ := call_writing hwriting hcall
        have hall : ∀ side, ∃ ok, next.phase side = .finished ok := by
          intro side
          rcases eq_or_eq_other caller side with rfl | rfl
          · exact ⟨ok', hdone⟩
          · exact ⟨ok, (hkept _ (other_ne _)).trans hok⟩
        obtain ⟨rfl, rfl⟩ := calls_of_finished hall hrest
        rw [hsucceeds, Phase.finished.injEq] at hdone
        rw [← hdone] at hupdate
        exact ⟨env, rfl, hupdate⟩
      · exact absurd hout (ne_of_call hok hcall)

/-- A request that starts after the other one has finished. -/
theorem second_request {store : Store} {state final : State Store Record}
    {side : Side} {calls : List (Side × Env)}
    (hreading : state.phase side = .reading)
    (hother : ∃ ok, state.phase side.other = .finished ok)
    (hrun : (requests row patch store).run state calls = some final)
    (hsucceeds : final.phase side = .finished true) :
    ∃ env env' record, calls = [(side, env), (side, env')] ∧
      row.get state.store = some record ∧
      row.update env' state.store ((patch side).apply record) =
        (true, final.store) := by
  cases calls with
  | nil =>
      obtain rfl : state = final := by simpa using hrun
      rw [hreading] at hsucceeds
      cases hsucceeds
  | cons action calls =>
      obtain ⟨next, hcall, hrest⟩ := Machine.exists_of_run_cons hrun
      obtain ⟨ok, hok⟩ := hother
      obtain hself | hout := eq_or_eq_other side action.1
      · obtain ⟨caller, env⟩ := action
        obtain rfl : caller = side := hself
        obtain ⟨hstore, hkept, hfailed | ⟨record, hget, hwriting⟩⟩ :=
          call_reading hreading hcall
        · rw [finished_of_run hfailed hrest] at hsucceeds
          cases hsucceeds
        · have hdone : ∃ ok, next.phase caller.other = .finished ok :=
            ⟨ok, (hkept _ (other_ne _)).trans hok⟩
          obtain ⟨env', rfl, hupdate⟩ :=
            last_write hwriting hdone hrest hsucceeds
          rw [hstore] at hupdate
          exact ⟨env, env', record, rfl, hget, hupdate⟩
      · exact absurd hout (ne_of_call hok hcall)

/-- Two requests that have read write one after the other. -/
theorem both_write {store : Store} {state final : State Store Record}
    {record : Side → Record} {calls : List (Side × Env)}
    (hwriting : ∀ side, state.phase side = .writing (record side))
    (hrun : (requests row patch store).run state calls = some final)
    (hsucceed : final.Succeeded) :
    ∃ side env env' middle, calls = [(side, env), (side.other, env')] ∧
      row.update env state.store (record side) = (true, middle) ∧
      row.update env' middle (record side.other) = (true, final.store) := by
  cases calls with
  | nil =>
      obtain rfl : state = final := by simpa using hrun
      have hleft := hsucceed .left
      rw [hwriting] at hleft
      cases hleft
  | cons action calls =>
      obtain ⟨next, hcall, hrest⟩ := Machine.exists_of_run_cons hrun
      obtain ⟨side, env⟩ := action
      obtain ⟨hkept, ok, hupdate, hdone⟩ := call_writing (hwriting side) hcall
      have htrue := finished_of_run hdone hrest
      rw [hsucceed, Phase.finished.injEq] at htrue
      have hother : next.phase side.other = .writing (record side.other) :=
        (hkept _ (other_ne _)).trans (hwriting _)
      obtain ⟨env', rfl, hlast⟩ := last_write hother
        ⟨ok, by rw [other_other]; exact hdone⟩ hrest (hsucceed _)
      rw [← htrue] at hupdate
      exact ⟨side, env, env', next.store, rfl, hupdate, hlast⟩

/-- The request is through before the other one starts. -/
def GoesFirst (side : Side) (callers : List Side) : Prop :=
  callers = [side, side, side.other, side.other]

/-- Both requests read before either writes, and this one writes first. -/
def WritesFirst (side : Side) (callers : List Side) : Prop :=
  callers = [side, side.other, side, side.other] ∨
    callers = [side.other, side, side, side.other]

/-- How a run goes on after the first read. -/
theorem run_after_read {store : Store} {state final : State Store Record}
    {side : Side} {record : Record} {calls : List (Side × Env)}
    (hget : row.get state.store = some record)
    (hwriting : state.phase side = .writing ((patch side).apply record))
    (hother : state.phase side.other = .reading)
    (hrun : (requests row patch store).run state calls = some final)
    (hsucceed : final.Succeeded) :
    ∃ first env env' middle,
      row.update env state.store ((patch first).apply record) =
        (true, middle) ∧
      ((GoesFirst first (side :: calls.map Prod.fst) ∧
          ∃ second, row.get middle = some second ∧
            row.update env' middle ((patch first.other).apply second) =
              (true, final.store)) ∨
        (WritesFirst first (side :: calls.map Prod.fst) ∧
          row.update env' middle ((patch first.other).apply record) =
            (true, final.store))) := by
  cases calls with
  | nil =>
      obtain rfl : state = final := by simpa using hrun
      rw [hsucceed] at hwriting
      cases hwriting
  | cons action calls =>
      obtain ⟨next, hcall, hrest⟩ := Machine.exists_of_run_cons hrun
      obtain ⟨caller, env⟩ := action
      rcases eq_or_eq_other side caller with rfl | rfl
      · obtain ⟨hkept, ok, hupdate, hdone⟩ := call_writing hwriting hcall
        have htrue := finished_of_run hdone hrest
        rw [hsucceed, Phase.finished.injEq] at htrue
        have hreading : next.phase caller.other = .reading :=
          (hkept _ (other_ne _)).trans hother
        obtain ⟨env₁, env₂, second, rfl, hsecond, hlast⟩ := second_request
          hreading ⟨ok, by rw [other_other]; exact hdone⟩ hrest (hsucceed _)
        rw [← htrue] at hupdate
        exact ⟨caller, env, env₂, next.store, hupdate,
          Or.inl ⟨rfl, second, hsecond, hlast⟩⟩
      · obtain ⟨hstore, hkept, hfailed | ⟨second, hsecond, hholding⟩⟩ :=
          call_reading hother hcall
        · have htrue := finished_of_run hfailed hrest
          rw [hsucceed] at htrue
          cases htrue
        · rw [hget, Option.some.injEq] at hsecond
          have hboth : ∀ other,
              next.phase other = .writing ((patch other).apply record) := by
            intro other
            rcases eq_or_eq_other side other with rfl | rfl
            · exact (hkept _ (ne_other _)).trans hwriting
            · rw [hsecond]
              exact hholding
          obtain ⟨first, env₁, env₂, middle, rfl, hupdate, hlast⟩ :=
            both_write hboth hrest hsucceed
          rw [hstore] at hupdate
          refine ⟨first, env₁, env₂, middle, hupdate, Or.inr ⟨?_, hlast⟩⟩
          rcases eq_or_eq_other side first with rfl | rfl
          · exact Or.inl rfl
          · rw [other_other]
            exact Or.inr (by rw [other_other]; rfl)

/-- Of two requests that succeed one writes the record it read from the first
row, and the other one the record it read before or after that. -/
theorem run_cases {store : Store} {final : State Store Record}
    {calls : List (Side × Env)}
    (hrun : (requests row patch store).run (requests row patch store).initial
      calls = some final)
    (hsucceed : final.Succeeded) :
    ∃ first record env env' middle, row.get store = some record ∧
      row.update env store ((patch first).apply record) = (true, middle) ∧
      ((GoesFirst first (calls.map Prod.fst) ∧
          ∃ second, row.get middle = some second ∧
            row.update env' middle ((patch first.other).apply second) =
              (true, final.store)) ∨
        (WritesFirst first (calls.map Prod.fst) ∧
          row.update env' middle ((patch first.other).apply record) =
            (true, final.store))) := by
  cases calls with
  | nil =>
      obtain rfl : (requests row patch store).initial = final := by
        simpa using hrun
      have hleft := hsucceed .left
      cases hleft
  | cons action calls =>
      obtain ⟨state, hcall, hrest⟩ := Machine.exists_of_run_cons hrun
      have hinitial : (requests row patch store).initial.phase action.1 =
          .reading := rfl
      obtain ⟨hstore, hkept, hfailed | ⟨record, hget, hwriting⟩⟩ :=
        call_reading hinitial hcall
      · have htrue := finished_of_run hfailed hrest
        rw [hsucceed] at htrue
        cases htrue
      · have hread : row.get state.store = some record := by
          rw [hstore]
          exact hget
        obtain ⟨first, env, env', middle, hupdate, hcases⟩ := run_after_read
          hread hwriting (hkept _ (other_ne _)) hrest hsucceed
        rw [hstore] at hupdate
        exact ⟨first, record, env, env', middle, hget, hupdate, hcases⟩

/-! ## What is kept -/

/-- The row has the values of the patch. -/
def Patch.Kept (patch : Patch row) (store : Store) : Prop :=
  ∀ column value, patch.value column = some value →
    row.Holds store column value

/-- The values of the patch are read as they are. -/
def Patch.ReadBack (patch : Patch row) : Prop :=
  ∀ column value, patch.value column = some value →
    row.back column value = value

/-- The record has the values of the patch. -/
def Patch.In (patch : Patch row) (record : Record) : Prop :=
  ∀ column value, patch.value column = some value →
    row.field record column = value

/-- No column is mentioned by both patches. -/
def Disjoint (patch : Side → Patch row) : Prop :=
  ∀ column, (patch .left).value column = none ∨
    (patch .right).value column = none

theorem Disjoint.other_eq_none (hdisjoint : Disjoint patch) {side : Side}
    {column : Column} {value : Value}
    (hvalue : (patch side).value column = some value) :
    (patch side.other).value column = none := by
  rcases hdisjoint column with hleft | hright
  · cases side with
    | left =>
        rw [hvalue] at hleft
        cases hleft
    | right => exact hleft
  · cases side with
    | left => exact hright
    | right =>
        rw [hvalue] at hright
        cases hright

/-- The last writer's patch is in the row, and of the other one what the last
writer had read. -/
theorem kept_iff_of_update (hdisjoint : Disjoint patch) {env : Env}
    {middle final : Store} {first : Side} {record : Record}
    (hkeyed : row.Keyed record)
    (hupdate : row.update env middle ((patch first.other).apply record) =
      (true, final)) :
    (∀ side, (patch side).Kept final) ↔ (patch first).In record := by
  have hholds := row.holds_of_update
    ((patch first.other).keyed_apply record hkeyed) hupdate
  have hlast : (patch first.other).Kept final := by
    intro column value hvalue
    have hwritten := hholds column
      ((patch first.other).value_written column value hvalue)
    rwa [(patch first.other).field_apply, hvalue, Option.getD_some]
      at hwritten
  have hunmentioned : ∀ column value,
      (patch first).value column = some value →
        row.Holds final column (row.field record column) := by
    intro column value hvalue
    have hwritten := hholds column
      ((patch first).value_written column value hvalue)
    rwa [(patch first.other).field_apply, hdisjoint.other_eq_none hvalue,
      Option.getD_none] at hwritten
  constructor
  · intro hkept column value hvalue
    exact row.holds_unique (hunmentioned column value hvalue)
      (hkept first column value hvalue)
  · intro hin side
    rcases eq_or_eq_other first side with rfl | rfl
    · intro column value hvalue
      have hheld := hunmentioned column value hvalue
      rwa [hin column value hvalue] at hheld
    · exact hlast

/-- After the first request alone the second one reads its values back. -/
theorem in_iff_readBack {env : Env} {store middle : Store} {side : Side}
    {record second : Record} (hget : row.get store = some record)
    (hupdate : row.update env store ((patch side).apply record) =
      (true, middle)) (hsecond : row.get middle = some second) :
    (patch side).In second ↔ (patch side).ReadBack := by
  have hholds := row.holds_of_update
    ((patch side).keyed_apply record (row.keyed_of_get hget)) hupdate
  have hfield : ∀ column value, (patch side).value column = some value →
      row.field second column = row.back column value := by
    intro column value hvalue
    have hmem := (patch side).value_written column value hvalue
    have hheld := hholds column hmem
    rw [(patch side).field_apply, hvalue, Option.getD_some] at hheld
    exact row.field_of_get hsecond hmem hheld
  constructor
  · intro hin column value hvalue
    rw [← hfield column value hvalue]
    exact hin column value hvalue
  · intro hback column value hvalue
    rw [hfield column value hvalue]
    exact hback column value hvalue

theorem not_goesFirst_of_writesFirst {side other : Side} {callers : List Side}
    (hwrites : WritesFirst side callers) : ¬ GoesFirst other callers := by
  intro hgoes
  rw [GoesFirst] at hgoes
  rcases hwrites with hwrites | hwrites
  · rw [hwrites] at hgoes
    cases side <;> cases other <;> simp [Side.other] at hgoes
  · rw [hwrites] at hgoes
    cases side <;> cases other <;> simp [Side.other] at hgoes

theorem goesFirst_unique {side other : Side} {callers : List Side}
    (hgoes : GoesFirst side callers) (hother : GoesFirst other callers) :
    side = other := by
  rw [GoesFirst] at hgoes hother
  rw [hgoes] at hother
  exact (List.cons.inj hother).1

theorem writesFirst_unique {side other : Side} {callers : List Side}
    (hwrites : WritesFirst side callers) (hother : WritesFirst other callers) :
    side = other := by
  have hthird : callers[2]? = some side := by
    rcases hwrites with hcallers | hcallers <;> rw [hcallers] <;> rfl
  have hthird' : callers[2]? = some other := by
    rcases hother with hcallers | hcallers <;> rw [hcallers] <;> rfl
  rw [hthird, Option.some.injEq] at hthird'
  exact hthird'

/-- Two disjoint patches are both kept exactly where the first request is
through before the other one starts and its values are read back as they are,
or where both read the row first and it has the values of the first writer. -/
theorem kept_iff (hdisjoint : Disjoint patch) {store : Store}
    {final : State Store Record} {calls : List (Side × Env)}
    (hrun : (requests row patch store).run (requests row patch store).initial
      calls = some final)
    (hsucceed : final.Succeeded) :
    (∀ side, (patch side).Kept final.store) ↔
      ∀ side,
        (GoesFirst side (calls.map Prod.fst) → (patch side).ReadBack) ∧
        (WritesFirst side (calls.map Prod.fst) →
          ∀ record, row.get store = some record → (patch side).In record) := by
  obtain ⟨first, record, env, env', middle, hget, hupdate,
    ⟨hgoes, second, hsecond, hlast⟩ | ⟨hwrites, hlast⟩⟩ :=
      run_cases hrun hsucceed
  · rw [kept_iff_of_update hdisjoint (row.keyed_of_get hsecond) hlast,
      in_iff_readBack hget hupdate hsecond]
    constructor
    · intro hback side
      refine ⟨fun hside => ?_, fun hside => ?_⟩
      · rw [goesFirst_unique hside hgoes]
        exact hback
      · exact absurd hgoes (not_goesFirst_of_writesFirst hside)
    · exact fun hall => (hall first).1 hgoes
  · rw [kept_iff_of_update hdisjoint (row.keyed_of_get hget) hlast]
    constructor
    · intro hin side
      refine ⟨fun hside => ?_, fun hside other hother => ?_⟩
      · exact absurd hside (not_goesFirst_of_writesFirst hwrites)
      · rw [hget, Option.some.injEq] at hother
        rw [writesFirst_unique hside hwrites, ← hother]
        exact hin
    · exact fun hall => (hall first).2 hwrites record hget

end Datafeed.ReadModifyWrite
