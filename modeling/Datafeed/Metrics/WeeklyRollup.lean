import Datafeed.Core.Machine
import Datafeed.Metrics.WeeklySummary
import Mathlib.Logic.Function.Basic

/-!
# Weekly rollup and retention

The loops of `WeeklyRollup::run` of any number of servers, one for each
instance, next to the writers of 15-minute snapshots, over one database.  Each
check reads the clock twice, once for the week and once for the retention
period; whether the database answers the query, whether the summary is
persisted and whether the deletion is committed are inputs of the check.  A
restart of a server constructs a new `WeeklyRollup`.
-/

namespace Datafeed.WeeklyRollup

open Storage Sql Calendar

/-- `last_week_start_` and `has_last_week_`; a default time point is the
epoch. -/
structure Rollup where
  lastWeekStart : ℤ := 0
  hasLastWeek : Bool := false
  deriving DecidableEq

/-- What `isNewWeek` returns and leaves behind, given the start of the current
week. -/
def Rollup.advance (rollup : Rollup) (weekStart : ℤ) : Bool × Rollup :=
  if rollup.hasLastWeek = false then
    (false, { lastWeekStart := weekStart, hasLastWeek := true })
  else if rollup.lastWeekStart < weekStart then
    (true, { rollup with lastWeekStart := weekStart })
  else (false, rollup)

def isNewWeek (rollup : Rollup) (now : ClockTime) : Bool × Rollup :=
  rollup.advance (weekStartOf now)

/-- A server's rollup.  The other fields only record its history: the week of
the first check since the rollup was constructed, and the week of the last
check of any of its rollups. -/
structure Server where
  rollup : Rollup := {}
  firstBoundary : Option ℤ := none
  lastBoundary : Option ℤ := none

/-- The server after `isNewWeek`. -/
def Server.check (server : Server) (now : ClockTime) : Server where
  rollup := (isNewWeek server.rollup now).2
  firstBoundary := some (server.firstBoundary.getD (weekStartOf now))
  lastBoundary := some (weekStartOf now)

def Server.restart (server : Server) : Server :=
  { server with rollup := {}, firstBoundary := none }

/-- One turn of the loop of `run`; a query that fails finds no snapshots, like
one over a closed connection. -/
structure Check where
  now : ClockTime
  retentionNow : ClockTime
  isConnected : Bool
  persists : Bool
  deletes : Bool

/-- The cut-off of the retention period of 90 days. -/
def Check.beforeMs (check : Check) : ℕ :=
  toUint64 (check.retentionNow.ms - 7776000000)

/-- A persisted summary, and the snapshots it was built from. -/
structure Persisted where
  summary : WeeklyMetricsSummary
  rows : List FeedMetricsSnapshot

variable {Json : Type} (codec : Codec Json)
  (referenced : SnapshotColumn → Datum Json → Bool)

/-- The servers by the name of their instance, the clock and the two tables;
`removed` records the snapshots deleted so far. -/
structure State where
  servers : String → Server
  clock : ClockTime
  table : SnapshotTable codec referenced
  persisted : List Persisted
  removed : List FeedMetricsSnapshot

/-- A snapshot that is persisted, measured when it is written. -/
structure Written where
  storable : StorableSnapshot codec referenced
  now : ClockTime
  measured : storable.snapshot.measuredAt = now.ms

inductive Action
  | write (written : Written codec referenced)
  | check (instanceId : InstanceId) (check : Check)
  | restart (instanceId : InstanceId)

variable {codec referenced}

namespace State

def server (state : State codec referenced) (instanceId : InstanceId) :
    Server :=
  state.servers instanceId.text

def setServer (state : State codec referenced) (instanceId : InstanceId)
    (server : Server) : State codec referenced :=
  { state with
    servers := Function.update state.servers instanceId.text server }

end State

/-- The call of `delete_old_snapshots`. -/
def retain (check : Check) (state : State codec referenced) :
    State codec referenced :=
  if check.deletes = false then state
  else
    { state with
      table := state.table.deleteOldSnapshots check.beforeMs
      removed := state.removed ++
        state.table.snapshots.filter fun s => s.measuredAt < check.beforeMs }

/-- The summary is in the table. -/
def persist (entry : Persisted) (state : State codec referenced) :
    State codec referenced :=
  { state with persisted := state.persisted ++ [entry] }

/-- `processWeek`, for the week that ends at `last_week_start_`. -/
def processWeek [DecidableEq Json] (instanceId : InstanceId) (check : Check)
    (state : State codec referenced) : State codec referenced :=
  let weekEnd := (state.server instanceId).rollup.lastWeekStart
  if check.isConnected = false then state
  else
    match weekSummary instanceId state.table weekEnd with
    | none => state
    | some summary =>
        if check.persists = false then state
        else
          retain check
            (persist ⟨summary, weekRows instanceId state.table weekEnd⟩ state)

/-- The state after `isNewWeek`. -/
def checked (instanceId : InstanceId) (check : Check)
    (state : State codec referenced) : State codec referenced :=
  { state.setServer instanceId
      ((state.server instanceId).check check.now) with
    clock := check.retentionNow }

def runCheck [DecidableEq Json] (instanceId : InstanceId) (check : Check)
    (state : State codec referenced) : State codec referenced :=
  if (isNewWeek (state.server instanceId).rollup check.now).1 then
    processWeek instanceId check (checked instanceId check state)
  else checked instanceId check state

def write (written : Written codec referenced)
    (state : State codec referenced) : State codec referenced :=
  { state with
    clock := written.now
    table := state.table.add written.storable }

def restart (instanceId : InstanceId) (state : State codec referenced) :
    State codec referenced :=
  state.setServer instanceId (state.server instanceId).restart

/-- The clock does not go back, and keys are not used twice. -/
def step [DecidableEq Json] (state : State codec referenced) :
    Action codec referenced → Option (State codec referenced)
  | .write written =>
      if state.clock.ms ≤ written.now.ms ∧
          ∀ other ∈ state.table.snapshots,
            other.id ≠ written.storable.snapshot.id then
        some (write written state)
      else none
  | .check instanceId check =>
      if state.clock.ms ≤ check.now.ms ∧
          check.now.ms ≤ check.retentionNow.ms then
        some (runCheck instanceId check state)
      else none
  | .restart instanceId => some (restart instanceId state)

/-- Servers that start over the snapshots of a table. -/
def start (clock : ClockTime) (table : SnapshotTable codec referenced) :
    State codec referenced where
  servers := fun _ => {}
  clock := clock
  table := table
  persisted := []
  removed := []

def machine [DecidableEq Json] (clock : ClockTime)
    (table : SnapshotTable codec referenced) :
    Machine (State codec referenced) (Action codec referenced) where
  initial := start clock table
  step := step

/-! ## What `isNewWeek` does -/

namespace Rollup

theorem advance_hasLastWeek (rollup : Rollup) (weekStart : ℤ) :
    (rollup.advance weekStart).2.hasLastWeek = true := by
  rw [advance]
  split
  · rfl
  · split <;> simp_all

theorem advance_iff (rollup : Rollup) (weekStart : ℤ) :
    (rollup.advance weekStart).1 = true ↔
      rollup.hasLastWeek = true ∧ rollup.lastWeekStart < weekStart := by
  rw [advance]
  split
  · simp_all
  · split <;> simp_all

/-- While the clock does not go back, `last_week_start_` becomes the start of
the current week. -/
theorem advance_lastWeekStart {rollup : Rollup} {weekStart : ℤ}
    (hle : rollup.hasLastWeek = true → rollup.lastWeekStart ≤ weekStart) :
    (rollup.advance weekStart).2.lastWeekStart = weekStart := by
  rw [advance]
  split
  · rfl
  · next hlast =>
      rw [Bool.not_eq_false] at hlast
      split
      · rfl
      · next hnew => exact le_antisymm (hle hlast) (not_lt.mp hnew)

end Rollup

theorem weekStartOf_mono {earlier later : ClockTime}
    (hle : earlier.ms ≤ later.ms) :
    weekStartOf earlier ≤ weekStartOf later := by
  rw [weekStartOf_eq, weekStartOf_eq]
  apply mondayOf_mono
  omega

/-- No check of the server has seen a later week than the clock shows. -/
structure Server.Current (server : Server) (clock : ClockTime) : Prop where
  lastBoundary : ∀ boundary, server.lastBoundary = some boundary →
    boundary ≤ weekStartOf clock
  rollup : server.rollup.hasLastWeek = true →
    server.lastBoundary = some server.rollup.lastWeekStart

namespace Server

theorem current_start (clock : ClockTime) : Current {} clock := by
  constructor <;> simp

variable {server : Server} {clock now : ClockTime}

theorem Current.later (hcurrent : server.Current clock)
    (hlater : clock.ms ≤ now.ms) : server.Current now where
  lastBoundary boundary hboundary := calc
    boundary ≤ weekStartOf clock := hcurrent.lastBoundary boundary hboundary
    _ ≤ weekStartOf now := weekStartOf_mono hlater
  rollup := hcurrent.rollup

theorem Current.lastWeekStart_le (hcurrent : server.Current clock)
    (hlast : server.rollup.hasLastWeek = true) :
    server.rollup.lastWeekStart ≤ weekStartOf clock :=
  hcurrent.lastBoundary _ (hcurrent.rollup hlast)

theorem Current.restart (hcurrent : server.Current clock) :
    server.restart.Current clock where
  lastBoundary := hcurrent.lastBoundary
  rollup hlast := by cases hlast

theorem check_hasLastWeek (server : Server) (now : ClockTime) :
    (server.check now).rollup.hasLastWeek = true :=
  server.rollup.advance_hasLastWeek (weekStartOf now)

theorem check_lastBoundary (server : Server) (now : ClockTime) :
    (server.check now).lastBoundary = some (weekStartOf now) := rfl

theorem check_firstBoundary (server : Server) (now : ClockTime) :
    (server.check now).firstBoundary =
      some (server.firstBoundary.getD (weekStartOf now)) := rfl

theorem Current.check_lastWeekStart (hcurrent : server.Current now) :
    (server.check now).rollup.lastWeekStart = weekStartOf now :=
  Rollup.advance_lastWeekStart hcurrent.lastWeekStart_le

theorem Current.check (hcurrent : server.Current now) :
    (server.check now).Current now where
  lastBoundary boundary hboundary := by
    rw [check_lastBoundary, Option.some.injEq] at hboundary
    exact hboundary.ge
  rollup _ := by rw [check_lastBoundary, hcurrent.check_lastWeekStart]

end Server

/-! ## What a check does -/

/-- The check processes a week: it is not the first one, and a boundary has
passed. -/
def NewWeek (check : Check) (rollup : Rollup) : Prop :=
  rollup.hasLastWeek = true ∧ rollup.lastWeekStart < weekStartOf check.now

/-- The week that a check processes is summarized and persisted. -/
def Persists (instanceId : InstanceId) (check : Check)
    (table : SnapshotTable codec referenced) : Prop :=
  check.isConnected = true ∧
    weekRows instanceId table (weekStartOf check.now) ≠ [] ∧
    check.persists = true

section Fields

variable (instanceId : InstanceId) (server : Server) (check : Check)
  (entry : Persisted) (state : State codec referenced)

@[simp]
theorem server_setServer :
    (state.setServer instanceId server).server instanceId = server := by
  simp [State.server, State.setServer]

theorem servers_setServer_of_ne {name : String}
    (hother : name ≠ instanceId.text) :
    (state.setServer instanceId server).servers name = state.servers name := by
  simp [State.setServer, hother]

@[simp]
theorem checked_server : (checked instanceId check state).server instanceId =
    (state.server instanceId).check check.now :=
  server_setServer instanceId _ state

theorem checked_servers_of_ne {name : String}
    (hother : name ≠ instanceId.text) :
    (checked instanceId check state).servers name = state.servers name :=
  servers_setServer_of_ne instanceId _ state hother

@[simp]
theorem checked_clock :
    (checked instanceId check state).clock = check.retentionNow := rfl

@[simp]
theorem checked_table :
    (checked instanceId check state).table = state.table := rfl

@[simp]
theorem checked_persisted :
    (checked instanceId check state).persisted = state.persisted := rfl

@[simp]
theorem checked_removed :
    (checked instanceId check state).removed = state.removed := rfl

@[simp]
theorem persist_servers : (persist entry state).servers = state.servers := rfl

@[simp]
theorem persist_clock : (persist entry state).clock = state.clock := rfl

@[simp]
theorem persist_table : (persist entry state).table = state.table := rfl

@[simp]
theorem persist_persisted :
    (persist entry state).persisted = state.persisted ++ [entry] := rfl

@[simp]
theorem persist_removed : (persist entry state).removed = state.removed := rfl

@[simp]
theorem retain_servers : (retain check state).servers = state.servers := by
  rw [retain]
  split <;> rfl

@[simp]
theorem retain_clock : (retain check state).clock = state.clock := by
  rw [retain]
  split <;> rfl

@[simp]
theorem retain_persisted :
    (retain check state).persisted = state.persisted := by
  rw [retain]
  split <;> rfl

variable {check state} {s : FeedMetricsSnapshot}

theorem mem_of_mem_retain
    (hmem : s ∈ (retain check state).table.snapshots) :
    s ∈ state.table.snapshots := by
  rw [retain] at hmem
  split at hmem
  · exact hmem
  · exact (List.mem_filter.mp hmem).1

theorem mem_removed_of_retain (hmem : s ∈ (retain check state).removed) :
    s ∈ state.removed ∨
      (check.deletes = true ∧ s ∈ state.table.snapshots ∧
        s.measuredAt < check.beforeMs) := by
  rw [retain] at hmem
  split at hmem
  · exact Or.inl hmem
  · next hdeletes =>
      rcases List.mem_append.mp hmem with hold | hnew
      · exact Or.inl hold
      · apply Or.inr
        simpa [hdeletes] using List.mem_filter.mp hnew

end Fields

section Checks

variable [DecidableEq Json] {instanceId : InstanceId} {check : Check}
  {state : State codec referenced}

theorem weekSummary_isSome_iff (instanceId : InstanceId)
    (table : SnapshotTable codec referenced) (now : ClockTime) :
    (weekSummary instanceId table (weekStartOf now)).isSome ↔
      weekRows instanceId table (weekStartOf now) ≠ [] := by
  rw [weekSummary_eq, summarize_isSome_iff, Ne, List.map_eq_nil_iff]

/-- A new week is either persisted, after which old snapshots may be deleted,
or skipped without a trace. -/
theorem processWeek_cases
    (hcurrent : (state.server instanceId).rollup.lastWeekStart =
      weekStartOf check.now) :
    (¬ Persists instanceId check state.table ∧
      processWeek instanceId check state = state) ∨
    (Persists instanceId check state.table ∧ ∃ summary,
      weekSummary instanceId state.table (weekStartOf check.now) =
        some summary ∧
      processWeek instanceId check state =
        retain check
          (persist ⟨summary, weekRows instanceId state.table
            (weekStartOf check.now)⟩ state)) := by
  have hsome := weekSummary_isSome_iff instanceId state.table check.now
  rw [processWeek, hcurrent]
  by_cases hconnected : check.isConnected = true
  · cases hsummary :
        weekSummary instanceId state.table (weekStartOf check.now) with
    | none =>
        rw [hsummary] at hsome
        apply Or.inl
        refine ⟨fun hpersists => ?_, by simp [hconnected]⟩
        exact absurd (hsome.mpr hpersists.2.1) (by simp)
    | some summary =>
        rw [hsummary] at hsome
        have hrows := hsome.mp rfl
        by_cases hpersists : check.persists = true
        · apply Or.inr
          exact ⟨⟨hconnected, hrows, hpersists⟩, summary, rfl,
            by simp [hconnected, hpersists]⟩
        · apply Or.inl
          exact ⟨fun h => hpersists h.2.2, by simp [hconnected, hpersists]⟩
  · apply Or.inl
    exact ⟨fun h => hconnected h.1, by simp [hconnected]⟩

theorem runCheck_cases
    (hcurrent : (state.server instanceId).Current check.now) :
    (¬ (NewWeek check (state.server instanceId).rollup ∧
        Persists instanceId check state.table) ∧
      runCheck instanceId check state = checked instanceId check state) ∨
    ((NewWeek check (state.server instanceId).rollup ∧
        Persists instanceId check state.table) ∧
      ∃ summary,
        weekSummary instanceId state.table (weekStartOf check.now) =
          some summary ∧
        runCheck instanceId check state =
          retain check
            (persist ⟨summary, weekRows instanceId state.table
              (weekStartOf check.now)⟩ (checked instanceId check state))) := by
  have hnew := (state.server instanceId).rollup.advance_iff
    (weekStartOf check.now)
  have hprocessed : ((checked instanceId check state).server
      instanceId).rollup.lastWeekStart = weekStartOf check.now := by
    rw [checked_server]
    exact hcurrent.check_lastWeekStart
  rw [runCheck, isNewWeek]
  split
  · next hadvance =>
      have hweek : NewWeek check (state.server instanceId).rollup :=
        hnew.mp hadvance
      rcases processWeek_cases hprocessed with ⟨hnone, hsame⟩ | ⟨hsome, hdone⟩
      · exact Or.inl ⟨fun h => hnone h.2, hsame⟩
      · exact Or.inr ⟨⟨hweek, hsome⟩, hdone⟩
  · next hadvance =>
      exact Or.inl ⟨fun h => hadvance (hnew.mpr h.1), rfl⟩

theorem runCheck_server
    (hcurrent : (state.server instanceId).Current check.now) :
    (runCheck instanceId check state).server instanceId =
      (state.server instanceId).check check.now := by
  have hchecked := checked_server instanceId check state
  rcases runCheck_cases hcurrent with ⟨_, hsame⟩ | ⟨_, summary, _, hdone⟩
  · rw [hsame]
    exact hchecked
  · rw [hdone, State.server, retain_servers, persist_servers]
    exact hchecked

theorem weekSummary_spec {table : SnapshotTable codec referenced}
    {now : ClockTime} {summary : WeeklyMetricsSummary}
    (hsummary : weekSummary instanceId table (weekStartOf now) =
      some summary) :
    summary.instanceId = instanceId.text ∧
      (summary.weekStart : ℤ) =
        (weekStartOf now - secondsPerWeek) * 1000 := by
  rw [weekSummary, summarize] at hsummary
  split at hsummary
  · cases hsummary
  · rw [Option.some.injEq] at hsummary
    rw [← hsummary]
    exact ⟨rfl, (weekBounds now).1⟩

end Checks

/-! ## The clock of a run -/

/-- No server is ahead of the clock. -/
def State.Current (state : State codec referenced) : Prop :=
  ∀ name, (state.servers name).Current state.clock

theorem State.Current.now {state : State codec referenced} {now : ClockTime}
    (hcurrent : state.Current) (hlater : state.clock.ms ≤ now.ms)
    (instanceId : InstanceId) : (state.server instanceId).Current now :=
  (hcurrent instanceId.text).later hlater

theorem current_start (clock : ClockTime)
    (table : SnapshotTable codec referenced) : (start clock table).Current :=
  fun _ => Server.current_start clock

theorem current_setServer {instanceId : InstanceId} {server : Server}
    {state : State codec referenced} (hcurrent : state.Current)
    (hserver : server.Current state.clock) :
    (state.setServer instanceId server).Current := by
  intro name
  by_cases hname : name = instanceId.text
  · subst hname
    have hself := server_setServer instanceId server state
    rw [State.server] at hself
    rw [hself]
    exact hserver
  · rw [servers_setServer_of_ne instanceId server state hname]
    exact hcurrent name

theorem current_checked {instanceId : InstanceId} {check : Check}
    {state : State codec referenced} (hcurrent : state.Current)
    (hlater : state.clock.ms ≤ check.now.ms)
    (hretention : check.now.ms ≤ check.retentionNow.ms) :
    (checked instanceId check state).Current := by
  have hserver := (hcurrent.now hlater instanceId).check.later hretention
  have hothers : { state with clock := check.retentionNow }.Current :=
    fun name => (hcurrent name).later (hlater.trans hretention)
  exact current_setServer hothers hserver

theorem current_retain {check : Check} {state : State codec referenced}
    (hcurrent : state.Current) : (retain check state).Current := by
  intro name
  rw [retain_servers, retain_clock]
  exact hcurrent name

theorem current_write {written : Written codec referenced}
    {state : State codec referenced} (hcurrent : state.Current)
    (hlater : state.clock.ms ≤ written.now.ms) :
    (write written state).Current :=
  fun name => (hcurrent name).later hlater

theorem current_restart {instanceId : InstanceId}
    {state : State codec referenced} (hcurrent : state.Current) :
    (restart instanceId state).Current :=
  current_setServer hcurrent (hcurrent instanceId.text).restart

section Steps

variable [DecidableEq Json] {state next : State codec referenced}

theorem write_of_step {written : Written codec referenced}
    (hstep : step state (.write written) = some next) :
    state.clock.ms ≤ written.now.ms ∧ write written state = next := by
  rw [step] at hstep
  split at hstep
  · next henabled => exact ⟨henabled.1, Option.some.inj hstep⟩
  · cases hstep

theorem check_of_step {instanceId : InstanceId} {check : Check}
    (hstep : step state (.check instanceId check) = some next) :
    (state.clock.ms ≤ check.now.ms ∧
        check.now.ms ≤ check.retentionNow.ms) ∧
      runCheck instanceId check state = next := by
  rw [step] at hstep
  split at hstep
  · next henabled => exact ⟨henabled, Option.some.inj hstep⟩
  · cases hstep

theorem restart_of_step {instanceId : InstanceId}
    (hstep : step state (.restart instanceId) = some next) :
    restart instanceId state = next :=
  Option.some.inj hstep

end Steps

/-! ## The rows of a week -/

theorem weekRows_ne_nil_iff {instanceId : InstanceId}
    {table : SnapshotTable codec referenced} {weekEnd : ℤ} :
    weekRows instanceId table weekEnd ≠ [] ↔
      ∃ s ∈ table.snapshots, inWeek instanceId weekEnd s = true := by
  rw [weekRows, Ne, List.filter_eq_nil_iff]
  simp

/-- A snapshot written now is in none of the weeks that have ended. -/
theorem weekRows_add_ne_nil {instanceId : InstanceId} {clock : ClockTime}
    {table : SnapshotTable codec referenced}
    {written : Written codec referenced}
    (hlater : clock.ms ≤ written.now.ms) {weekEnd : ℤ}
    (hended : weekEnd ≤ weekStartOf clock)
    (hrows : weekRows instanceId (table.add written.storable) weekEnd ≠ []) :
    weekRows instanceId table weekEnd ≠ [] := by
  rw [weekRows_ne_nil_iff] at *
  obtain ⟨s, hs, hweek⟩ := hrows
  rw [SnapshotTable.snapshots_add, List.mem_append, List.mem_singleton] at hs
  rcases hs with hold | hnew
  · exact ⟨s, hold, hweek⟩
  · have hbounds := weekStartOf_bounds clock
    have hmeasured := written.measured
    rw [inWeek_iff, hnew] at hweek
    omega

theorem weekRows_retain_ne_nil {instanceId : InstanceId} {check : Check}
    {state : State codec referenced} {weekEnd : ℤ}
    (hrows : weekRows instanceId (retain check state).table weekEnd ≠ []) :
    weekRows instanceId state.table weekEnd ≠ [] := by
  rw [weekRows_ne_nil_iff] at *
  obtain ⟨s, hs, hweek⟩ := hrows
  exact ⟨s, mem_of_mem_retain hs, hweek⟩

/-! A server of `live-1` that writes a snapshot on the first day of 2026. -/

/-- 2026-01-01, midnight. -/
def newYear : ClockTime where
  ms := 1767225600000
  lower := by decide
  upper := by decide

/-- 2026-01-06, midnight. -/
def newYearTuesday : ClockTime where
  ms := 1767657600000
  lower := by decide
  upper := by decide

def emptyTable : SnapshotTable plainCodec fun _ _ => true :=
  SnapshotTable.empty _ _

theorem newYear_admissible :
    Admissible plainCodec feedMetricsSnapshots (fun _ _ => true)
      feedMetricsSnapshots.columns quietSnapshot.field :=
  quietSnapshot_admissible _

def newYearWritten : Written plainCodec fun _ _ => true where
  storable := ⟨quietSnapshot, newYear_admissible⟩
  now := newYear
  measured := rfl

/-- A check in no time of which nothing else fails. -/
def checkAt (now : ClockTime) (isConnected : Bool) : Check where
  now := now
  retentionNow := now
  isConnected := isConnected
  persists := true
  deletes := true

/-- The first check, and the first snapshot. -/
def newYearRun : List (Action plainCodec fun _ _ => true) :=
  [.check liveInstance (checkAt newYear true), .write newYearWritten]

/-- One week ends between the first check and 2026-01-05. -/
theorem newYearMonday_of_newWeek {weekEnd : ℤ} (hmonday : IsMonday weekEnd)
    (hafter : 1766966400 < weekEnd)
    (hended : weekEnd ≤ weekStartOf newYearMonday) :
    weekEnd = weekStartOf newYearMonday := by
  have hnow : weekStartOf newYearMonday = 1767571200 := by decide
  simp only [IsMonday, firstMonday, secondsPerWeek] at hmonday
  omega

end Datafeed.WeeklyRollup
