import Datafeed.Metrics.WeeklyRollup

/-!
# Retention

When the snapshots that `delete_old_snapshots` removes are part of a persisted
summary.  The deletion follows the summary of one week of one instance and
removes the old snapshots of every instance, so it is safe only where no check
of any instance has left a week with snapshots behind.
-/

namespace Datafeed.WeeklyRollup

open Storage Sql Calendar

variable {Json : Type} {codec : Codec Json}
  {referenced : SnapshotColumn → Datum Json → Bool}

/-- A snapshot is one of those a persisted summary of its instance was built
from, and was measured in the week of that summary. -/
def Included (persisted : List Persisted) (s : FeedMetricsSnapshot) : Prop :=
  ∃ entry ∈ persisted, entry.summary.instanceId = s.instanceId ∧
    s ∈ entry.rows ∧ entry.summary.weekStart ≤ s.measuredAt ∧
    (s.measuredAt : ℤ) < entry.summary.weekStart + secondsPerWeek * 1000

/-- The check of an instance leaves no week behind: the only week with
snapshots that ended since the last check of the instance, or ever, is the one
before the current week, and that one is processed and persisted. -/
def LeavesNoWeek (instanceId : InstanceId) (check : Check)
    (state : State codec referenced) : Prop :=
  ∀ weekEnd, IsMonday weekEnd →
    (∀ boundary, (state.server instanceId).lastBoundary = some boundary →
      boundary < weekEnd) →
    weekEnd ≤ weekStartOf check.now →
    weekRows instanceId state.table weekEnd ≠ [] →
      weekEnd = weekStartOf check.now ∧
        (state.server instanceId).rollup.hasLastWeek = true ∧
        check.isConnected = true ∧ check.persists = true

/-- Every snapshot older than the cut-off was measured in a week that had ended
at the last check of its instance, this one included. -/
def DeletesEnded (instanceId : InstanceId) (check : Check)
    (state : State codec referenced) : Prop :=
  ∀ s ∈ state.table.snapshots, s.measuredAt < check.beforeMs →
    ∃ boundary,
      ((checked instanceId check state).servers
        s.instanceId).lastBoundary = some boundary ∧
      (s.measuredAt : ℤ) < boundary * 1000

/-- No check leaves a week behind, and a check that deletes snapshots deletes
none of a week that has not ended for its instance. -/
def Careful (state : State codec referenced) :
    Action codec referenced → Prop
  | .check instanceId check =>
      LeavesNoWeek instanceId check state ∧
        (NewWeek check (state.server instanceId).rollup →
          Persists instanceId check state.table → check.deletes = true →
            DeletesEnded instanceId check state)
  | _ => True

/-! ## The invariant -/

theorem Included.append {persisted : List Persisted} {s : FeedMetricsSnapshot}
    (hincluded : Included persisted s) (entry : Persisted) :
    Included (persisted ++ [entry]) s := by
  obtain ⟨found, hfound, hrest⟩ := hincluded
  exact ⟨found, List.mem_append_left _ hfound, hrest⟩

/-- Every snapshot of a week that had ended at the last check of its instance is
included in a summary. -/
def EndedIncluded (state : State codec referenced) : Prop :=
  ∀ s ∈ state.table.snapshots, ∀ boundary,
    (state.servers s.instanceId).lastBoundary = some boundary →
      (s.measuredAt : ℤ) < boundary * 1000 → Included state.persisted s

/-- What holds after every action of a run of careful checks. -/
structure RetentionInvariant (state : State codec referenced) : Prop where
  current : state.Current
  ended : EndedIncluded state
  removed : ∀ s ∈ state.removed, Included state.persisted s

theorem retentionInvariant_start (clock : ClockTime)
    (table : SnapshotTable codec referenced) :
    RetentionInvariant (start clock table) where
  current := current_start clock table
  ended _ _ boundary hboundary := by cases hboundary
  removed s hs := by cases hs

theorem retentionInvariant_write {written : Written codec referenced}
    {state : State codec referenced}
    (hinvariant : RetentionInvariant state)
    (hlater : state.clock.ms ≤ written.now.ms) :
    RetentionInvariant (write written state) where
  current := current_write hinvariant.current hlater
  ended s hs boundary hboundary hbefore := by
    rcases List.mem_append.mp hs with hold | hnew
    · exact hinvariant.ended s hold boundary hboundary hbefore
    · have hmeasured := written.measured
      rw [List.mem_singleton.mp hnew, hmeasured] at hbefore
      have hpast := (hinvariant.current _).lastBoundary boundary hboundary
      have hbounds := weekStartOf_bounds state.clock
      omega
  removed := hinvariant.removed

theorem restart_lastBoundary (instanceId : InstanceId)
    (state : State codec referenced) (name : String) :
    ((restart instanceId state).servers name).lastBoundary =
      (state.servers name).lastBoundary := by
  by_cases hname : name = instanceId.text
  · simp [restart, State.setServer, State.server, Server.restart, hname]
  · rw [restart, servers_setServer_of_ne _ _ _ hname]

theorem retentionInvariant_restart {instanceId : InstanceId}
    {state : State codec referenced}
    (hinvariant : RetentionInvariant state) :
    RetentionInvariant (restart instanceId state) where
  current := current_restart hinvariant.current
  ended s hs boundary hboundary hbefore := by
    rw [restart_lastBoundary] at hboundary
    exact hinvariant.ended s hs boundary hboundary hbefore
  removed := hinvariant.removed

/-! ## The weeks of snapshots -/

/-- The end of the week that a snapshot is measured in. -/
def weekEndOf (s : FeedMetricsSnapshot) : ℤ :=
  mondayOf (s.measuredAt / 1000) + secondsPerWeek

theorem isMonday_weekEndOf (s : FeedMetricsSnapshot) :
    IsMonday (weekEndOf s) := by
  have hmonday := isMonday_mondayOf (s.measuredAt / 1000)
  simp only [weekEndOf, IsMonday, firstMonday, secondsPerWeek] at *
  omega

theorem weekEndOf_bounds (s : FeedMetricsSnapshot) :
    (weekEndOf s - secondsPerWeek) * 1000 ≤ s.measuredAt ∧
      (s.measuredAt : ℤ) < weekEndOf s * 1000 := by
  have hlower := mondayOf_le (s.measuredAt / 1000)
  have hupper := lt_mondayOf_add (s.measuredAt / 1000)
  rw [weekEndOf]
  omega

theorem inWeek_weekEndOf {instanceId : InstanceId} {s : FeedMetricsSnapshot}
    (hinstance : s.instanceId = instanceId.text) :
    inWeek instanceId (weekEndOf s) s = true :=
  inWeek_iff.mpr ⟨hinstance, weekEndOf_bounds s⟩

/-- The week of a snapshot measured before a Monday has ended by then. -/
theorem weekEndOf_le {s : FeedMetricsSnapshot} {now : ClockTime}
    (hbefore : (s.measuredAt : ℤ) < weekStartOf now * 1000) :
    weekEndOf s ≤ weekStartOf now := by
  have hmonday := isMonday_mondayOf (now.ms / 1000)
  have hlower := mondayOf_le (s.measuredAt / 1000)
  rw [weekStartOf_eq] at *
  rw [weekEndOf]
  simp only [IsMonday, mondayOf, firstMonday, secondsPerWeek] at *
  omega

/-! ## A check -/

section Checks

variable {instanceId : InstanceId} {check : Check}
  {state : State codec referenced}

/-- A snapshot of a week that has ended is included already, or its week is the
one that the check persists. -/
theorem LeavesNoWeek.included_or_processed {s : FeedMetricsSnapshot}
    (hleaves : LeavesNoWeek instanceId check state)
    (hinvariant : RetentionInvariant state) (hs : s ∈ state.table.snapshots)
    (hinstance : s.instanceId = instanceId.text)
    (hbefore : (s.measuredAt : ℤ) < weekStartOf check.now * 1000) :
    Included state.persisted s ∨
      (weekEndOf s = weekStartOf check.now ∧
        NewWeek check (state.server instanceId).rollup ∧
        Persists instanceId check state.table) := by
  have hbounds := weekEndOf_bounds s
  by_cases hseen : ∃ boundary,
      (state.server instanceId).lastBoundary = some boundary ∧
        weekEndOf s ≤ boundary
  · rcases hseen with ⟨boundary, hboundary, hended⟩
    apply Or.inl
    apply hinvariant.ended s hs boundary
    · rw [hinstance]
      exact hboundary
    · omega
  · apply Or.inr
    have hafter : ∀ boundary,
        (state.server instanceId).lastBoundary = some boundary →
          boundary < weekEndOf s := by
      intro boundary hboundary
      by_contra hnot
      exact hseen ⟨boundary, hboundary, not_lt.mp hnot⟩
    have hrows : weekRows instanceId state.table (weekEndOf s) ≠ [] :=
      weekRows_ne_nil_iff.mpr ⟨s, hs, inWeek_weekEndOf hinstance⟩
    rcases hleaves (weekEndOf s) (isMonday_weekEndOf s) hafter
      (weekEndOf_le hbefore) hrows with
      ⟨hweek, hlast, hconnected, hpersists⟩
    have hserver := (hinvariant.current instanceId.text).rollup hlast
    have hpassed := hafter _ hserver
    rw [hweek] at hpassed hrows
    exact ⟨hweek, ⟨hlast, hpassed⟩, hconnected, hrows, hpersists⟩

theorem checked_lastBoundary (instanceId : InstanceId) (check : Check)
    (state : State codec referenced) :
    ((checked instanceId check state).servers instanceId.text).lastBoundary =
      some (weekStartOf check.now) := by
  have hchecked := checked_server instanceId check state
  rw [State.server] at hchecked
  rw [hchecked]
  rfl

/-- A check that takes at most 83 days deletes no snapshots of its own instance
from a week that has not ended. -/
theorem deletesEnded_of_ownSnapshots
    (hown : ∀ s ∈ state.table.snapshots, s.instanceId = instanceId.text)
    (hretention : check.now.ms ≤ check.retentionNow.ms)
    (hshort : check.retentionNow.ms ≤ check.now.ms + 7171200000) :
    DeletesEnded instanceId check state := by
  intro s hs hold
  have hlower := check.retentionNow.lower
  have hupper := check.retentionNow.upper
  have hbefore : (check.beforeMs : ℤ) = check.retentionNow.ms - 7776000000 := by
    apply toUint64_of_bounds
    · omega
    · omega
  have hweek := lt_mondayOf_add (check.now.ms / 1000)
  refine ⟨weekStartOf check.now, ?_, ?_⟩
  · rw [hown s hs]
    exact checked_lastBoundary instanceId check state
  · rw [weekStartOf_eq]
    rw [secondsPerWeek] at hweek
    omega

/-- After `isNewWeek`, whether or not a summary is persisted. -/
theorem endedIncluded_checked {persisted : List Persisted}
    (hleaves : LeavesNoWeek instanceId check state)
    (hinvariant : RetentionInvariant state)
    (hkept : ∀ s, Included state.persisted s → Included persisted s)
    (hprocessed : NewWeek check (state.server instanceId).rollup →
      Persists instanceId check state.table →
        ∀ s ∈ state.table.snapshots, s.instanceId = instanceId.text →
          weekEndOf s = weekStartOf check.now → Included persisted s) :
    EndedIncluded
      { checked instanceId check state with persisted := persisted } := by
  intro s hs boundary hboundary hbefore
  by_cases hinstance : s.instanceId = instanceId.text
  · rw [hinstance, checked_lastBoundary, Option.some.injEq] at hboundary
    rw [← hboundary] at hbefore
    rcases hleaves.included_or_processed hinvariant hs hinstance hbefore with
      hincluded | ⟨hweek, hnew, hpersists⟩
    · exact hkept s hincluded
    · exact hprocessed hnew hpersists s hs hinstance hweek
  · rw [checked_servers_of_ne instanceId check state hinstance] at hboundary
    exact hkept s (hinvariant.ended s hs boundary hboundary hbefore)

/-- A snapshot of the week that a check processes is included in the summary it
persists. -/
theorem included_of_processed {entry : Persisted} {persisted : List Persisted}
    {s : FeedMetricsSnapshot} (hs : s ∈ state.table.snapshots)
    (hrows : entry.rows =
      weekRows instanceId state.table (weekStartOf check.now))
    (hname : entry.summary.instanceId = instanceId.text)
    (hweekStart : (entry.summary.weekStart : ℤ) =
      (weekStartOf check.now - secondsPerWeek) * 1000)
    (hinstance : s.instanceId = instanceId.text)
    (hweek : weekEndOf s = weekStartOf check.now) :
    Included (persisted ++ [entry]) s := by
  have hbounds := weekEndOf_bounds s
  have hin := inWeek_weekEndOf hinstance
  rw [hweek] at hbounds hin
  refine ⟨entry, List.mem_append_right _ (List.mem_singleton_self entry),
    hname.trans hinstance.symm, ?_, ?_, ?_⟩
  · rw [hrows]
    exact List.mem_filter.mpr ⟨hs, hin⟩
  · omega
  · omega

/-- A deletion removes only snapshots that are included. -/
theorem retentionInvariant_retain
    (hinvariant : RetentionInvariant state)
    (hdeletes : check.deletes = true → ∀ s ∈ state.table.snapshots,
      s.measuredAt < check.beforeMs → Included state.persisted s) :
    RetentionInvariant (retain check state) where
  current := current_retain hinvariant.current
  ended s hs boundary hboundary hbefore := by
    rw [retain_servers] at hboundary
    rw [retain_persisted]
    exact hinvariant.ended s (mem_of_mem_retain hs) boundary hboundary hbefore
  removed s hs := by
    rw [retain_persisted]
    rcases mem_removed_of_retain hs with hold | ⟨hdone, hmem, hold⟩
    · exact hinvariant.removed s hold
    · exact hdeletes hdone s hmem hold

theorem retentionInvariant_check [DecidableEq Json]
    (hinvariant : RetentionInvariant state)
    (hlater : state.clock.ms ≤ check.now.ms)
    (hretention : check.now.ms ≤ check.retentionNow.ms)
    (hcareful : Careful state (.check instanceId check)) :
    RetentionInvariant (runCheck instanceId check state) := by
  obtain ⟨hleaves, hdeletes⟩ := hcareful
  have hcurrent : (checked instanceId check state).Current :=
    current_checked hinvariant.current hlater hretention
  rcases runCheck_cases (hinvariant.current.now hlater instanceId) with
    ⟨hnot, hsame⟩ | ⟨⟨hnew, hpersists⟩, summary, hsummary, hdone⟩
  · rw [hsame]
    refine ⟨hcurrent, ?_, hinvariant.removed⟩
    exact endedIncluded_checked hleaves hinvariant (fun _ h => h)
      fun hnew hpersists => absurd ⟨hnew, hpersists⟩ hnot
  · rcases weekSummary_spec hsummary with ⟨hname, hweekStart⟩
    have hended : EndedIncluded (persist ⟨summary, weekRows instanceId
        state.table (weekStartOf check.now)⟩
          (checked instanceId check state)) :=
      endedIncluded_checked hleaves hinvariant (fun _ h => h.append _)
        fun _ _ s hs hinstance hweek =>
          included_of_processed hs rfl hname hweekStart hinstance hweek
    rw [hdone]
    apply retentionInvariant_retain
    · exact ⟨hcurrent, hended, fun s hs => (hinvariant.removed s hs).append _⟩
    · intro hdeleted s hs hold
      rcases hdeletes hnew hpersists hdeleted s hs hold with
        ⟨boundary, hboundary, hbefore⟩
      exact hended s hs boundary hboundary hbefore

end Checks

/-! ## Runs -/

section Runs

variable [DecidableEq Json]

theorem retentionInvariant_step {state next : State codec referenced}
    {action : Action codec referenced}
    (hinvariant : RetentionInvariant state)
    (hcareful : Careful state action)
    (hstep : step state action = some next) : RetentionInvariant next := by
  cases action with
  | write written =>
      obtain ⟨hlater, hnext⟩ := write_of_step hstep
      rw [← hnext]
      exact retentionInvariant_write hinvariant hlater
  | check instanceId check =>
      obtain ⟨⟨hlater, hretention⟩, hnext⟩ := check_of_step hstep
      rw [← hnext]
      exact retentionInvariant_check hinvariant hlater hretention hcareful
  | restart instanceId =>
      rw [← restart_of_step hstep]
      exact retentionInvariant_restart hinvariant

/-- In a run of careful checks, every snapshot that retention has removed was
included in a persisted summary of its own instance. -/
theorem careful_run_removesIncluded {clock : ClockTime}
    {table : SnapshotTable codec referenced}
    {actions : List (Action codec referenced)}
    {final : State codec referenced}
    (halong : (machine clock table).Along Careful (start clock table) actions)
    (hrun : (machine clock table).run (start clock table) actions =
      some final) :
    ∀ s ∈ final.removed, Included final.persisted s := by
  have hpreserve : ∀ state action next, RetentionInvariant state →
      Careful state action →
      (machine clock table).step state action = some next →
        RetentionInvariant next :=
    fun _ _ _ hinvariant hcareful hstep =>
      retentionInvariant_step hinvariant hcareful hstep
  exact (Machine.invariant_along hpreserve
    (retentionInvariant_start clock table) halong hrun).removed

end Runs

/-- 2026-04-15, midnight. -/
def spring : ClockTime where
  ms := 1776211200000
  lower := by decide
  upper := by decide

/-- Monday 2026-04-20, midnight. -/
def springMonday : ClockTime where
  ms := 1776643200000
  lower := by decide
  upper := by decide

def springSnapshot : FeedMetricsSnapshot where
  id := 1
  instanceId := "live-1"
  measuredAt := 1776211200000
  metrics := medianOnly

def springWritten : Written plainCodec fun _ _ => true where
  storable := ⟨springSnapshot,
    admissible_of_medianOnly rfl (by decide) (by decide) _⟩
  now := spring
  measured := rfl

/-- The next snapshot is written in April, and checked on the Monday after. -/
def springRun (isConnected : Bool) :
    List (Action plainCodec fun _ _ => true) :=
  newYearRun ++
    [.check liveInstance (checkAt newYearMonday isConnected),
      .write springWritten, .check liveInstance (checkAt springMonday true)]

def springTable : SnapshotTable plainCodec fun _ _ => true :=
  (emptyTable.add newYearWritten.storable).add springWritten.storable

theorem mem_springTable {s : FeedMetricsSnapshot}
    (hs : s ∈ springTable.snapshots) :
    s = quietSnapshot ∨ s = springSnapshot := by
  simpa [springTable, emptyTable, newYearWritten, springWritten] using hs

theorem own_springTable (s : FeedMetricsSnapshot)
    (hs : s ∈ springTable.snapshots) : s.instanceId = liveInstance.text := by
  rcases mem_springTable hs with hold | hnew
  · rw [hold]
    rfl
  · rw [hnew]
    rfl

theorem springMonday_of_newWeek {weekEnd : ℤ} (hmonday : IsMonday weekEnd)
    (hafter : 1767571200 < weekEnd)
    (hrows : weekRows liveInstance springTable weekEnd ≠ []) :
    weekEnd = weekStartOf springMonday := by
  have hnow : weekStartOf springMonday = 1776643200 := by decide
  obtain ⟨s, hs, hweek⟩ := weekRows_ne_nil_iff.mp hrows
  rw [inWeek_iff, secondsPerWeek] at hweek
  simp only [IsMonday, firstMonday, secondsPerWeek] at hmonday
  rcases mem_springTable hs with hold | hnew
  · have hmeasured : s.measuredAt = 1767225600000 := by rw [hold]; rfl
    omega
  · have hmeasured : s.measuredAt = 1776211200000 := by rw [hnew]; rfl
    omega

theorem deletesEnded_checkAt {now : ClockTime} {isConnected : Bool}
    {state : State plainCodec fun _ _ => true}
    (hown : ∀ s ∈ state.table.snapshots,
      s.instanceId = liveInstance.text) :
    DeletesEnded liveInstance (checkAt now isConnected) state :=
  deletesEnded_of_ownSnapshots hown le_rfl (Nat.le_add_right _ _)

theorem springRun_careful :
    (machine newYear emptyTable).Along Careful (start newYear emptyTable)
      (springRun true) := by
  refine ⟨⟨?_, fun hnew => (by cases hnew.1)⟩, fun first hfirst => ?_⟩
  · intro weekEnd _ _ _ hrows
    exact absurd rfl hrows
  refine ⟨trivial, fun second hsecond => ⟨⟨?_, ?_⟩, fun third hthird => ?_⟩⟩
  · cases hfirst
    cases hsecond
    intro weekEnd hmonday hafter hended _
    exact ⟨newYearMonday_of_newWeek hmonday (hafter _ rfl) hended, rfl, rfl,
      rfl⟩
  · cases hfirst
    cases hsecond
    intro _ _ _
    apply deletesEnded_checkAt
    intro s hs
    rw [List.mem_singleton.mp hs]
    rfl
  refine ⟨trivial, fun fourth hfourth => ⟨⟨?_, ?_⟩, fun _ _ => trivial⟩⟩
  · cases hfirst
    cases hsecond
    cases hthird
    cases hfourth
    intro weekEnd hmonday hafter _ hrows
    refine ⟨?_, rfl, rfl, rfl⟩
    exact springMonday_of_newWeek hmonday (hafter _ rfl) hrows
  · cases hfirst
    cases hsecond
    cases hthird
    cases hfourth
    intro _ _ _
    exact deletesEnded_checkAt own_springTable

theorem careful_run_removesIncluded_spring :
    ∃ final, (machine newYear emptyTable).run (start newYear emptyTable)
        (springRun true) = some final ∧
      ∀ s ∈ final.removed, Included final.persisted s :=
  ⟨_, rfl, careful_run_removesIncluded springRun_careful rfl⟩

/-- On the first Monday the database is not connected; the snapshot of that week
is in no summary when it is removed. -/
theorem springRun_losesSnapshot :
    ∃ final, (machine newYear emptyTable).run (start newYear emptyTable)
        (springRun false) = some final ∧
      ∃ s ∈ final.removed, ¬ Included final.persisted s := by
  refine ⟨_, rfl, quietSnapshot, List.mem_cons_self, ?_⟩
  rintro ⟨entry, hentry, _, _, hmeasured, _⟩
  rw [List.mem_singleton.mp hentry] at hmeasured
  exact absurd hmeasured (by decide)

end Datafeed.WeeklyRollup
