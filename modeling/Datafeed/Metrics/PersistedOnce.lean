import Datafeed.Metrics.WeeklyRollup

/-!
# Every week once

When the weeks of an instance are persisted.  A check processes the week before
the current one and moves `last_week_start_` on whether or not that succeeds, so
a week is persisted exactly when the first check after it finds the database
connected and its summary is persisted.
-/

namespace Datafeed.WeeklyRollup

open Storage Sql Calendar

variable {Json : Type} {codec : Codec Json}
  {referenced : SnapshotColumn → Datum Json → Bool}

/-- How often the summary of the week that ends at a time was persisted. -/
def timesPersisted (instanceId : InstanceId) (weekEnd : ℤ)
    (persisted : List Persisted) : ℕ :=
  persisted.countP fun entry =>
    entry.summary.instanceId = instanceId.text &&
      (entry.summary.weekStart : ℤ) = (weekEnd - secondsPerWeek) * 1000

/-- Every week of the instance that ended between the first check of its rollup
and a time, and has snapshots, has been persisted exactly once. -/
def PersistedOnce (instanceId : InstanceId) (now : ClockTime)
    (state : State codec referenced) : Prop :=
  ∀ first, (state.server instanceId).firstBoundary = some first →
    ∀ weekEnd, IsMonday weekEnd → first < weekEnd → weekEnd * 1000 ≤ now.ms →
      weekRows instanceId state.table weekEnd ≠ [] →
        timesPersisted instanceId weekEnd state.persisted = 1

/-- A check of an instance meets this when the only week with snapshots that
ended since the last check is the one before the current week, and that one is
persisted. -/
def Prompt (instanceId : InstanceId) (state : State codec referenced) :
    Action codec referenced → Prop
  | .check checkedId check =>
      checkedId = instanceId →
        (state.server instanceId).rollup.hasLastWeek = true →
          ∀ weekEnd, IsMonday weekEnd →
            (state.server instanceId).rollup.lastWeekStart < weekEnd →
            weekEnd ≤ weekStartOf check.now →
            weekRows instanceId state.table weekEnd ≠ [] →
              weekEnd = weekStartOf check.now ∧ check.isConnected = true ∧
                check.persists = true
  | _ => True

/-! ## Counting summaries -/

/-- A summary counts for the week it is of. -/
theorem timesPersisted_append {instanceId : InstanceId}
    {persisted : List Persisted} {entry : Persisted} {weekEnd ended : ℤ}
    (hinstance : entry.summary.instanceId = instanceId.text)
    (hweekStart : (entry.summary.weekStart : ℤ) =
      (ended - secondsPerWeek) * 1000) :
    timesPersisted instanceId weekEnd (persisted ++ [entry]) =
      timesPersisted instanceId weekEnd persisted +
        if weekEnd = ended then 1 else 0 := by
  have hweek : (ended - secondsPerWeek) * 1000 =
      (weekEnd - secondsPerWeek) * 1000 ↔ weekEnd = ended := by omega
  simp [timesPersisted, List.countP_append, hinstance, hweekStart, hweek]

theorem timesPersisted_append_other {instanceId : InstanceId}
    {persisted : List Persisted} {entry : Persisted} {weekEnd : ℤ}
    (hother : entry.summary.instanceId ≠ instanceId.text) :
    timesPersisted instanceId weekEnd (persisted ++ [entry]) =
      timesPersisted instanceId weekEnd persisted := by
  simp [timesPersisted, List.countP_append, hother]

/-! ## The invariant -/

/-- What holds after every action of a run of prompt checks. -/
structure OnceInvariant (instanceId : InstanceId)
    (state : State codec referenced) : Prop where
  current : state.Current
  started : ∀ first, (state.server instanceId).firstBoundary = some first →
    (state.server instanceId).rollup.hasLastWeek = true
  notAhead : ∀ weekEnd, weekStartOf state.clock < weekEnd →
    timesPersisted instanceId weekEnd state.persisted = 0
  notAfterLast : (state.server instanceId).rollup.hasLastWeek = true →
    ∀ weekEnd, (state.server instanceId).rollup.lastWeekStart < weekEnd →
      timesPersisted instanceId weekEnd state.persisted = 0
  once : ∀ first, (state.server instanceId).firstBoundary = some first →
    ∀ weekEnd, IsMonday weekEnd → first < weekEnd →
      weekEnd ≤ (state.server instanceId).rollup.lastWeekStart →
      weekRows instanceId state.table weekEnd ≠ [] →
        timesPersisted instanceId weekEnd state.persisted = 1

theorem onceInvariant_start (instanceId : InstanceId) (clock : ClockTime)
    (table : SnapshotTable codec referenced) :
    OnceInvariant instanceId (start clock table) where
  current := current_start clock table
  started first hfirst := by cases hfirst
  notAhead _ _ := rfl
  notAfterLast hlast := by cases hlast
  once first hfirst := by cases hfirst

/-- Whatever leaves the server alone, persists no summary of its instance and
adds no snapshot to a week that has ended keeps the invariant. -/
theorem OnceInvariant.frame {instanceId : InstanceId}
    {state next : State codec referenced}
    (hinvariant : OnceInvariant instanceId state) (hcurrent : next.Current)
    (hserver : next.server instanceId = state.server instanceId)
    (hlater : state.clock.ms ≤ next.clock.ms)
    (htimes : ∀ weekEnd, timesPersisted instanceId weekEnd next.persisted =
      timesPersisted instanceId weekEnd state.persisted)
    (hrows : ∀ weekEnd, weekEnd ≤ weekStartOf state.clock →
      weekRows instanceId next.table weekEnd ≠ [] →
        weekRows instanceId state.table weekEnd ≠ []) :
    OnceInvariant instanceId next where
  current := hcurrent
  started := by
    rw [hserver]
    exact hinvariant.started
  notAhead weekEnd hahead := by
    rw [htimes]
    apply hinvariant.notAhead weekEnd
    calc
      weekStartOf state.clock ≤ weekStartOf next.clock :=
        weekStartOf_mono hlater
      _ < weekEnd := hahead
  notAfterLast := by
    simp only [hserver, htimes]
    exact hinvariant.notAfterLast
  once := by
    simp only [hserver, htimes]
    intro first hfirst weekEnd hmonday hafter hended hpresent
    have hstarted := hinvariant.started first hfirst
    have hpast : weekEnd ≤ weekStartOf state.clock := calc
      weekEnd ≤ (state.server instanceId).rollup.lastWeekStart := hended
      _ ≤ weekStartOf state.clock :=
        (hinvariant.current instanceId.text).lastWeekStart_le hstarted
    exact hinvariant.once first hfirst weekEnd hmonday hafter hended
      (hrows weekEnd hpast hpresent)

theorem onceInvariant_write {instanceId : InstanceId}
    {state : State codec referenced} {written : Written codec referenced}
    (hlater : state.clock.ms ≤ written.now.ms)
    (hinvariant : OnceInvariant instanceId state) :
    OnceInvariant instanceId (write written state) :=
  hinvariant.frame (current_write hinvariant.current hlater) rfl hlater
    (fun _ => rfl) fun _ hended => weekRows_add_ne_nil hlater hended

theorem onceInvariant_retain {instanceId : InstanceId} {check : Check}
    {state : State codec referenced}
    (hinvariant : OnceInvariant instanceId state) :
    OnceInvariant instanceId (retain check state) := by
  apply hinvariant.frame (current_retain hinvariant.current)
  · rw [State.server, retain_servers, State.server]
  · rw [retain_clock]
  · intro weekEnd
    rw [retain_persisted]
  · intro weekEnd _ hrows
    exact weekRows_retain_ne_nil hrows

theorem onceInvariant_restart {instanceId restarted : InstanceId}
    {state : State codec referenced}
    (hinvariant : OnceInvariant instanceId state) :
    OnceInvariant instanceId (restart restarted state) := by
  have hcurrent : (restart restarted state).Current :=
    current_restart hinvariant.current
  by_cases hsame : instanceId.text = restarted.text
  · have hserver : (restart restarted state).server instanceId =
        (state.server instanceId).restart := by
      simp [restart, State.server, State.setServer, hsame]
    constructor
    · exact hcurrent
    · rw [hserver]
      intro first hfirst
      cases hfirst
    · exact hinvariant.notAhead
    · rw [hserver]
      intro hlast
      cases hlast
    · rw [hserver]
      intro first hfirst
      cases hfirst
  · exact hinvariant.frame hcurrent
      (servers_setServer_of_ne restarted _ state hsame) le_rfl (fun _ => rfl)
      fun _ _ hrows => hrows

/-! ## A check -/

section Checks

variable {instanceId : InstanceId} {check : Check}
  {state : State codec referenced}

/-- Under a prompt check, a week with snapshots that ended since the last check
is the one that is persisted now. -/
theorem Prompt.persists
    (hprompt : Prompt instanceId state (.check instanceId check))
    (hlast : (state.server instanceId).rollup.hasLastWeek = true) {weekEnd : ℤ}
    (hmonday : IsMonday weekEnd)
    (hafter : (state.server instanceId).rollup.lastWeekStart < weekEnd)
    (hended : weekEnd ≤ weekStartOf check.now)
    (hrows : weekRows instanceId state.table weekEnd ≠ []) :
    weekEnd = weekStartOf check.now ∧
      NewWeek check (state.server instanceId).rollup ∧
      Persists instanceId check state.table := by
  rcases hprompt rfl hlast weekEnd hmonday hafter hended hrows with
    ⟨hcurrent, hconnected, hpersists⟩
  rw [hcurrent] at hafter hrows
  exact ⟨hcurrent, ⟨hlast, hafter⟩, hconnected, hrows, hpersists⟩

/-- A later check does not move the boundary of the first one; the first check
itself leaves no week behind. -/
theorem firstBoundary_of_check {server : Server} {now : ClockTime}
    {first weekEnd : ℤ}
    (hfirst : (server.check now).firstBoundary = some first)
    (hafter : first < weekEnd) (hended : weekEnd ≤ weekStartOf now) :
    server.firstBoundary = some first := by
  rw [Server.check_firstBoundary, Option.some.injEq] at hfirst
  cases hknown : server.firstBoundary with
  | none =>
      rw [hknown, Option.getD_none] at hfirst
      omega
  | some known => rw [← hfirst, hknown, Option.getD_some]

theorem OnceInvariant.notAhead_now {now : ClockTime}
    (hinvariant : OnceInvariant instanceId state)
    (hlater : state.clock.ms ≤ now.ms) {weekEnd : ℤ}
    (hahead : weekStartOf now < weekEnd) :
    timesPersisted instanceId weekEnd state.persisted = 0 := by
  apply hinvariant.notAhead weekEnd
  calc
    weekStartOf state.clock ≤ weekStartOf now := weekStartOf_mono hlater
    _ < weekEnd := hahead

/-- A check of the instance that persists nothing. -/
theorem onceInvariant_checked
    (hinvariant : OnceInvariant instanceId state)
    (hlater : state.clock.ms ≤ check.now.ms)
    (hretention : check.now.ms ≤ check.retentionNow.ms)
    (hprompt : Prompt instanceId state (.check instanceId check))
    (hnot : ¬ (NewWeek check (state.server instanceId).rollup ∧
      Persists instanceId check state.table)) :
    OnceInvariant instanceId (checked instanceId check state) := by
  have hserver := hinvariant.current.now hlater instanceId
  constructor
  · exact current_checked hinvariant.current hlater hretention
  · intro _ _
    rw [checked_server]
    exact Server.check_hasLastWeek _ check.now
  · intro weekEnd hahead
    exact hinvariant.notAhead_now (hlater.trans hretention) hahead
  · rw [checked_server, hserver.check_lastWeekStart]
    intro _ weekEnd hahead
    exact hinvariant.notAhead_now hlater hahead
  · rw [checked_server, hserver.check_lastWeekStart]
    intro first hfirst weekEnd hmonday hafter hended hrows
    have hknown := firstBoundary_of_check hfirst hafter hended
    by_cases hold : weekEnd ≤ (state.server instanceId).rollup.lastWeekStart
    · exact hinvariant.once first hknown weekEnd hmonday hafter hold hrows
    · have hprocessed := hprompt.persists (hinvariant.started first hknown)
        hmonday (not_le.mp hold) hended hrows
      exact absurd hprocessed.2 hnot

/-- A check of the instance that persists the week before the current one. -/
theorem onceInvariant_persist {entry : Persisted}
    (hinvariant : OnceInvariant instanceId state)
    (hlater : state.clock.ms ≤ check.now.ms)
    (hretention : check.now.ms ≤ check.retentionNow.ms)
    (hprompt : Prompt instanceId state (.check instanceId check))
    (hnew : NewWeek check (state.server instanceId).rollup)
    (hinstance : entry.summary.instanceId = instanceId.text)
    (hweekStart : (entry.summary.weekStart : ℤ) =
      (weekStartOf check.now - secondsPerWeek) * 1000) :
    OnceInvariant instanceId
      (persist entry (checked instanceId check state)) := by
  have hserver := hinvariant.current.now hlater instanceId
  have hpersisted : (persist entry (checked instanceId check state)).server
      instanceId = (state.server instanceId).check check.now :=
    checked_server instanceId check state
  constructor
  · exact current_checked hinvariant.current hlater hretention
  · intro _ _
    rw [hpersisted]
    exact Server.check_hasLastWeek _ check.now
  · intro weekEnd hahead
    have hend := weekStartOf_mono hretention
    rw [persist_clock, checked_clock] at hahead
    rw [persist_persisted, checked_persisted,
      timesPersisted_append hinstance hweekStart,
      hinvariant.notAhead_now (hlater.trans hretention) hahead,
      if_neg (hend.trans_lt hahead).ne']
  · rw [hpersisted, hserver.check_lastWeekStart]
    intro _ weekEnd hahead
    rw [persist_persisted, checked_persisted,
      timesPersisted_append hinstance hweekStart,
      hinvariant.notAhead_now hlater hahead, if_neg hahead.ne']
  · rw [hpersisted, hserver.check_lastWeekStart]
    intro first hfirst weekEnd hmonday hafter hended hrows
    have hknown := firstBoundary_of_check hfirst hafter hended
    have hstarted := hinvariant.started first hknown
    rw [persist_persisted, checked_persisted,
      timesPersisted_append hinstance hweekStart]
    by_cases hold : weekEnd ≤ (state.server instanceId).rollup.lastWeekStart
    · rw [if_neg (hold.trans_lt hnew.2).ne]
      exact hinvariant.once first hknown weekEnd hmonday hafter hold hrows
    · have hprocessed := hprompt.persists hstarted hmonday (not_le.mp hold)
        hended hrows
      rw [if_pos hprocessed.1,
        hinvariant.notAfterLast hstarted weekEnd (not_le.mp hold)]

variable [DecidableEq Json]

theorem onceInvariant_check
    (hinvariant : OnceInvariant instanceId state)
    (hlater : state.clock.ms ≤ check.now.ms)
    (hretention : check.now.ms ≤ check.retentionNow.ms)
    (hprompt : Prompt instanceId state (.check instanceId check)) :
    OnceInvariant instanceId (runCheck instanceId check state) := by
  rcases runCheck_cases (hinvariant.current.now hlater instanceId) with
    ⟨hnot, hsame⟩ | ⟨⟨hnew, _⟩, summary, hsummary, hdone⟩
  · rw [hsame]
    exact onceInvariant_checked hinvariant hlater hretention hprompt hnot
  · rcases weekSummary_spec hsummary with ⟨hinstance, hweekStart⟩
    rw [hdone]
    apply onceInvariant_retain
    exact onceInvariant_persist hinvariant hlater hretention hprompt hnew
      hinstance hweekStart

/-- A check of another instance may delete snapshots, but persists no summary of
this one. -/
theorem onceInvariant_otherCheck {other : InstanceId}
    (hinvariant : OnceInvariant instanceId state)
    (hother : instanceId.text ≠ other.text)
    (hlater : state.clock.ms ≤ check.now.ms)
    (hretention : check.now.ms ≤ check.retentionNow.ms) :
    OnceInvariant instanceId (runCheck other check state) := by
  have hcurrent : (checked other check state).Current :=
    current_checked hinvariant.current hlater hretention
  have hchecked : (checked other check state).server instanceId =
      state.server instanceId :=
    checked_servers_of_ne other check state hother
  rcases runCheck_cases (hinvariant.current.now hlater other) with
    ⟨_, hsame⟩ | ⟨_, summary, hsummary, hdone⟩
  · rw [hsame]
    exact hinvariant.frame hcurrent hchecked (hlater.trans hretention)
      (fun _ => rfl) fun _ _ hrows => hrows
  · rcases weekSummary_spec hsummary with ⟨hinstance, _⟩
    rw [hdone]
    apply onceInvariant_retain
    refine hinvariant.frame hcurrent hchecked (hlater.trans hretention) ?_
      fun _ _ hrows => hrows
    intro weekEnd
    apply timesPersisted_append_other
    rw [hinstance]
    exact hother.symm

end Checks

/-! ## Runs -/

section Runs

variable [DecidableEq Json] {instanceId : InstanceId}

theorem onceInvariant_step {state next : State codec referenced}
    {action : Action codec referenced}
    (hinvariant : OnceInvariant instanceId state)
    (hprompt : Prompt instanceId state action)
    (hstep : step state action = some next) :
    OnceInvariant instanceId next := by
  cases action with
  | write written =>
      obtain ⟨hlater, hnext⟩ := write_of_step hstep
      rw [← hnext]
      exact onceInvariant_write hlater hinvariant
  | check checkedId check =>
      obtain ⟨⟨hlater, hretention⟩, hnext⟩ := check_of_step hstep
      rw [← hnext]
      by_cases hsame : instanceId.text = checkedId.text
      · have hid : instanceId = checkedId := InstanceId.ext hsame
        subst hid
        exact onceInvariant_check hinvariant hlater hretention hprompt
      · exact onceInvariant_otherCheck hinvariant hsame hlater hretention
  | restart restarted =>
      rw [← restart_of_step hstep]
      exact onceInvariant_restart hinvariant

theorem onceInvariant_run {clock : ClockTime}
    {table : SnapshotTable codec referenced}
    {actions : List (Action codec referenced)}
    {final : State codec referenced}
    (halong : (machine clock table).Along (Prompt instanceId)
      (start clock table) actions)
    (hrun : (machine clock table).run (start clock table) actions =
      some final) : OnceInvariant instanceId final := by
  have hpreserve : ∀ state action next, OnceInvariant instanceId state →
      Prompt instanceId state action →
      (machine clock table).step state action = some next →
        OnceInvariant instanceId next :=
    fun _ _ _ hinvariant hprompt hstep =>
      onceInvariant_step hinvariant hprompt hstep
  exact Machine.invariant_along hpreserve
    (onceInvariant_start instanceId clock table) halong hrun

/-- In a run of prompt checks, after every check each week that ended since the
first check and has snapshots has been persisted exactly once. -/
theorem prompt_run_persistedOnce {clock : ClockTime}
    {table : SnapshotTable codec referenced}
    {actions : List (Action codec referenced)} {check : Check}
    {final : State codec referenced}
    (halong : (machine clock table).Along (Prompt instanceId)
      (start clock table) (actions ++ [.check instanceId check]))
    (hrun : (machine clock table).run (start clock table)
      (actions ++ [.check instanceId check]) = some final) :
    PersistedOnce instanceId check.now final := by
  have hfinal := onceInvariant_run halong hrun
  rw [Machine.run_append] at hrun
  obtain ⟨before, hbefore, hlast⟩ := Option.bind_eq_some_iff.mp hrun
  have hbeforeAlong := ((Machine.along_append hbefore).mp halong).1
  have hcurrent := (onceInvariant_run hbeforeAlong hbefore).current
  obtain ⟨checkedState, hstep, hdone⟩ := Machine.exists_of_run_cons hlast
  rw [Machine.run_nil, Option.some.injEq] at hdone
  subst hdone
  obtain ⟨⟨hlater, _⟩, hnext⟩ := check_of_step hstep
  have hserver := hcurrent.now hlater instanceId
  have hweek : (checkedState.server instanceId).rollup.lastWeekStart =
      weekStartOf check.now := by
    rw [← hnext, runCheck_server hserver]
    exact hserver.check_lastWeekStart
  intro first hfirst weekEnd hmonday hafter hended hrows
  have hended' : weekEnd ≤ weekStartOf check.now := by
    rw [weekStartOf_eq]
    apply hmonday.le_mondayOf
    omega
  exact hfinal.once first hfirst weekEnd hmonday hafter (hweek ▸ hended') hrows

end Runs

theorem newYearRun_prompt :
    (machine newYear emptyTable).Along (Prompt liveInstance)
      (start newYear emptyTable)
      (newYearRun ++ [.check liveInstance (checkAt newYearMonday true)]) := by
  refine ⟨fun _ hlast => (by cases hlast), fun first hfirst => ?_⟩
  refine ⟨trivial, fun second hsecond => ⟨?_, fun _ _ => trivial⟩⟩
  cases hfirst
  cases hsecond
  intro _ _ weekEnd hmonday hafter hended _
  exact ⟨newYearMonday_of_newWeek hmonday hafter hended, rfl, rfl⟩

theorem prompt_run_persistedOnce_newYear :
    ∃ final, (machine newYear emptyTable).run (start newYear emptyTable)
        (newYearRun ++ [.check liveInstance (checkAt newYearMonday true)]) =
          some final ∧
      PersistedOnce liveInstance (checkAt newYearMonday true).now final :=
  ⟨_, rfl, prompt_run_persistedOnce newYearRun_prompt rfl⟩

/-- On Monday the database is not connected; the week is not made up for on
Tuesday. -/
theorem missedWeek_notPersisted :
    ∃ final, (machine newYear emptyTable).run (start newYear emptyTable)
        (newYearRun ++ [.check liveInstance (checkAt newYearMonday false)] ++
          [.check liveInstance (checkAt newYearTuesday true)]) =
          some final ∧
      ¬ PersistedOnce liveInstance (checkAt newYearTuesday true).now
        final := by
  refine ⟨_, rfl, ?_⟩
  intro honce
  have hweek := honce (weekStartOf newYear) rfl (weekStartOf newYearMonday)
    (by decide) (by decide) (by decide) (by decide)
  exact absurd hweek (by decide)

end Datafeed.WeeklyRollup
