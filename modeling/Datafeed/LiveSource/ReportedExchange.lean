import Datafeed.LiveSource.SwitchExchange
import Datafeed.Metrics.ExchangeMonitor
import Mathlib.Data.List.Induction

/-!
# The exchange that is reported as connected

`switch_exchange` tells the collector that the current exchange has disconnected
and the new one connected, next to its assignment of `current_exchange_`.
`start` assigns `current_exchange_` and tells the collector nothing.  The model
puts the monitor of an attached collector beside the state of `live_source`, of
which every step may come in between.
-/

namespace Datafeed.LiveSource

open ExchangeMonitor (ExchangeData Exchanges TimePoint getStats)

/-- The clock readings of the two calls of a switch request. -/
structure SwitchReading where
  disconnected : TimePoint
  connectedSince : TimePoint
  lastHeartbeat : TimePoint
  lastMessage : TimePoint

structure Reporting where
  source : State
  /-- The monitor of `collector_`. -/
  collector : Option Exchanges

/-- `onExchangeDisconnected` and `onExchangeConnected` of the collector. -/
def reportSwitch (current new : String) (reading : SwitchReading)
    (monitor : Exchanges) : Option Exchanges :=
  ExchangeMonitor.machine.run monitor
    [.onDisconnected current reading.disconnected,
      .onConnected new reading.connectedSince reading.lastHeartbeat
        reading.lastMessage]

/-- What a step of `live_source` reports to the collector. -/
def report (source : State) (action : Action) (reading : SwitchReading) :
    Option Exchanges → Option (Option Exchanges)
  | none => some none
  | some monitor =>
      match action with
      | .switchExchange exchangeType _ =>
          (reportSwitch source.currentExchange exchangeType.name reading
            monitor).map some
      | _ => some (some monitor)

/-- `live_source` with a collector attached, before `start`. -/
def reporting : Machine Reporting (Action × SwitchReading) where
  initial := ⟨machine.initial, some ∅⟩
  step state action :=
    (machine.step state.source action.1).bind fun source =>
      (report state.source action.1 action.2 state.collector).map
        fun collector => ⟨source, collector⟩

/-! ## What the monitor reports -/

/-- `getStats` says that the exchange is connected. -/
def ReportsConnected (monitor : Exchanges) (name : String) : Prop :=
  ∃ now stats after,
    getStats name now ⟨monitor, false⟩ = .returned stats after ∧
      stats.connected = true

theorem reportsConnected_iff {monitor : Exchanges} {name : String} :
    ReportsConnected monitor name ↔
      ∃ data, monitor.lookup name = some data ∧ data.connected = true := by
  constructor
  · rintro ⟨now, stats, after, hstats, hconnected⟩
    rw [ExchangeMonitor.getStats_apply] at hstats
    obtain ⟨rfl, -⟩ := CallOutcome.returned.inj hstats
    cases hlookup : monitor.lookup name with
    | none => simp [hlookup] at hconnected
    | some data =>
        refine ⟨data, rfl, ?_⟩
        simpa [hlookup, ExchangeMonitor.entryStats] using hconnected
  · rintro ⟨data, hlookup, hconnected⟩
    refine ⟨0, _, _, ExchangeMonitor.getStats_apply name 0 monitor, ?_⟩
    rw [hlookup]
    exact hconnected

/-- An inserted entry decides for its own exchange only. -/
theorem reportsConnected_insert {monitor : Exchanges} {name other : String}
    {data : ExchangeData} :
    ReportsConnected (monitor.insert name data) other ↔
      if other = name then data.connected = true
      else ReportsConnected monitor other := by
  rw [reportsConnected_iff]
  split
  · next hsame =>
      subst hsame
      simp [AList.lookup_insert]
  · next hother => rw [AList.lookup_insert_ne hother, reportsConnected_iff]

/-- An exchange that was not known is not connected either. -/
theorem reportsConnected_onDisconnected {current : String} {now : TimePoint}
    {monitor next : Exchanges}
    (hstep : ExchangeMonitor.machine.step monitor
      (.onDisconnected current now) = some next) (name : String) :
    ReportsConnected next name ↔
      name ≠ current ∧ ReportsConnected monitor name := by
  simp only [ExchangeMonitor.machine, ExchangeMonitor.Operation.call,
    ExchangeMonitor.onDisconnected, ExchangeMonitor.modifyKnown_apply,
    Option.some.injEq] at hstep
  cases hlookup : monitor.lookup current with
  | none =>
      rw [hlookup] at hstep
      subst hstep
      refine (and_iff_right_of_imp ?_).symm
      rintro hconnected rfl
      obtain ⟨data, hdata, -⟩ := reportsConnected_iff.mp hconnected
      rw [hlookup] at hdata
      cases hdata
  | some data =>
      rw [hlookup] at hstep
      subst hstep
      rw [reportsConnected_insert]
      split
      · next hsame => exact iff_of_false Bool.false_ne_true fun h => h.1 hsame
      · next hother => exact (and_iff_right hother).symm

/-- After the two calls the new exchange is connected, the old one is not, and
the others are as before. -/
theorem exists_reportSwitch (current new : String) (reading : SwitchReading)
    (monitor : Exchanges) :
    ∃ next, reportSwitch current new reading monitor = some next ∧
      ∀ name, ReportsConnected next name ↔
        name = new ∨ name ≠ current ∧ ReportsConnected monitor name := by
  obtain ⟨between, hbetween⟩ := (ExchangeMonitor.exists_step_iff monitor
    (.onDisconnected current reading.disconnected)).mpr (by rintro _ ⟨⟩)
  refine ⟨_, Machine.run_pair hbetween rfl, fun name => ?_⟩
  rw [reportsConnected_insert, reportsConnected_onDisconnected hbetween]
  by_cases hnew : name = new
  · rw [if_pos hnew]
    exact iff_of_true rfl (Or.inl hnew)
  · rw [if_neg hnew]
    exact (or_iff_right hnew).symm

/-! ## The exchange in use -/

def Action.IsSwitch : Action → Prop
  | .switchExchange _ _ => True
  | _ => False

/-- Connected, by the collector's monitor, is the exchange that
`current_exchange_` names, and no other. -/
def Reporting.ReportsCurrent (state : Reporting) : Prop :=
  ∃ monitor, state.collector = some monitor ∧
    ∀ name, ReportsConnected monitor name ↔ name = state.source.currentExchange

/-- No exchange is reported as connected, as before the first request. -/
def Reporting.ReportsNone (state : Reporting) : Prop :=
  ∃ monitor, state.collector = some monitor ∧
    ∀ name, ¬ ReportsConnected monitor name

/-- Once started, the exchange in use is changed by requests only. -/
theorem step_frame {state next : State} {action : Action}
    (hstep : machine.step state action = some next)
    (hstarted : state.launch ≠ .unstarted) :
    next.launch ≠ .unstarted ∧
      (¬ action.IsSwitch → next.currentExchange = state.currentExchange) := by
  cases action with
  | start exchange =>
      simp [machine, hstarted] at hstep
  | launchRead =>
      simp only [machine] at hstep
      split at hstep
      · split at hstep <;> cases hstep <;> exact ⟨by simp, fun _ => rfl⟩
      · cases hstep
  | launchRun | launchStoreRunning =>
      simp only [machine] at hstep
      split at hstep
      · cases hstep
        exact ⟨by simp, fun _ => rfl⟩
      · cases hstep
  | switchExchange exchangeType symbols =>
      simp only [machine, if_neg hstarted, Option.some.injEq] at hstep
      subst hstep
      exact ⟨hstarted, fun hnot => absurd trivial hnot⟩
  | stop =>
      cases hstep
      exact ⟨hstarted, fun _ => rfl⟩
  | _ =>
      simp only [machine] at hstep
      split at hstep
      · cases hstep
        exact ⟨hstarted, fun _ => rfl⟩
      · cases hstep

theorem Reporting.ReportsNone.not_reportsCurrent {state : Reporting}
    (hnone : state.ReportsNone) : ¬ state.ReportsCurrent := by
  obtain ⟨monitor, hmonitor, hnames⟩ := hnone
  rintro ⟨other, hother, hcurrent⟩
  obtain rfl := Option.some.inj (hmonitor.symm.trans hother)
  exact hnames _ ((hcurrent _).mpr rfl)

/-- A request disconnects the exchange in use, the only one that can be
connected. -/
theorem reportsCurrent_of_switch {state next : Reporting}
    {exchangeType : ExchangeType} {symbols : List String}
    {reading : SwitchReading}
    (hstep : reporting.step state
      (.switchExchange exchangeType symbols, reading) = some next)
    (hbefore : state.ReportsNone ∨ state.ReportsCurrent) :
    next.source.launch ≠ .unstarted ∧ next.ReportsCurrent := by
  have honly : ∃ monitor, state.collector = some monitor ∧ ∀ name,
      ReportsConnected monitor name → name = state.source.currentExchange := by
    rcases hbefore with ⟨monitor, hmonitor, hnames⟩ | ⟨monitor, hmonitor, hnames⟩
    · exact ⟨monitor, hmonitor, fun name hname => absurd hname (hnames name)⟩
    · exact ⟨monitor, hmonitor, fun name => (hnames name).mp⟩
  obtain ⟨monitor, hmonitor, hnames⟩ := honly
  obtain ⟨after, hafter, hreports⟩ := exists_reportSwitch
    state.source.currentExchange exchangeType.name reading monitor
  simp only [reporting, machine, report, hmonitor, hafter, Option.map_some]
    at hstep
  split at hstep
  · cases hstep
  · next hstarted =>
      cases hstep
      refine ⟨hstarted, after, rfl, fun name => (hreports name).trans ?_⟩
      refine or_iff_left ?_
      rintro ⟨hother, hname⟩
      exact hother (hnames name hname)

theorem collector_eq_of_not_switch {state next : Reporting} {action : Action}
    {reading : SwitchReading}
    (hstep : reporting.step state (action, reading) = some next)
    (hother : ¬ action.IsSwitch) :
    machine.step state.source action = some next.source ∧
      next.collector = state.collector := by
  obtain ⟨source, hsource, hnext⟩ := Option.bind_eq_some_iff.mp hstep
  obtain ⟨collector, hcollector, rfl⟩ := Option.map_eq_some_iff.mp hnext
  refine ⟨hsource, ?_⟩
  cases hmonitor : state.collector with
  | none =>
      rw [hmonitor] at hcollector
      exact (Option.some.inj hcollector).symm
  | some monitor =>
      rw [hmonitor] at hcollector
      cases action with
      | switchExchange exchangeType symbols => exact absurd trivial hother
      | _ => exact (Option.some.inj hcollector).symm

/-- The first request makes the report right, and what follows keeps it so. -/
theorem reporting_run {actions : List (Action × SwitchReading)}
    {state : Reporting}
    (hrun : reporting.run reporting.initial actions = some state) :
    ((∃ action ∈ actions, action.1.IsSwitch) ∧
        state.source.launch ≠ .unstarted ∧ state.ReportsCurrent) ∨
      ((¬ ∃ action ∈ actions, action.1.IsSwitch) ∧ state.ReportsNone) := by
  induction actions using List.reverseRecOn generalizing state with
  | nil =>
      cases hrun
      refine Or.inr ⟨by simp, ∅, rfl, fun name hname => ?_⟩
      obtain ⟨data, hdata, -⟩ := reportsConnected_iff.mp hname
      rw [AList.lookup_empty] at hdata
      cases hdata
  | append_singleton actions last ih =>
      rw [Machine.run_append] at hrun
      obtain ⟨before, hbefore, hlast⟩ := Option.bind_eq_some_iff.mp hrun
      rw [Machine.run_cons] at hlast
      obtain ⟨next, hstep, hnext⟩ := Option.bind_eq_some_iff.mp hlast
      cases hnext
      obtain ⟨action, reading⟩ := last
      by_cases hswitch : action.IsSwitch
      · cases action with
        | switchExchange exchangeType symbols =>
            refine Or.inl ⟨⟨_, List.mem_append_right _ List.mem_cons_self,
              trivial⟩, reportsCurrent_of_switch hstep ?_⟩
            exact (ih hbefore).elim (fun h => Or.inr h.2.2) fun h => Or.inl h.2
        | _ => exact absurd hswitch id
      · obtain ⟨hsource, hcollector⟩ := collector_eq_of_not_switch hstep hswitch
        have hmem : (∃ other ∈ actions ++ [(action, reading)],
            other.1.IsSwitch) ↔ ∃ other ∈ actions, other.1.IsSwitch := by
          simp [hswitch, or_and_right, exists_or]
        rw [hmem]
        rcases ih hbefore with ⟨hearlier, hstarted, hreports⟩ | ⟨hnone, hreports⟩
        · obtain ⟨hkept, hcurrent⟩ := step_frame hsource hstarted
          refine Or.inl ⟨hearlier, hkept, ?_⟩
          rw [Reporting.ReportsCurrent, hcollector, hcurrent hswitch]
          exact hreports
        · refine Or.inr ⟨hnone, ?_⟩
          rw [Reporting.ReportsNone, hcollector]
          exact hreports

/-- The exchange in use is the one that is reported as connected exactly from the
first request on, whatever `EXCHANGE` is, whichever requests follow and wherever
their threads stand. -/
theorem reportsCurrent_iff {actions : List (Action × SwitchReading)}
    {state : Reporting}
    (hrun : reporting.run reporting.initial actions = some state) :
    state.ReportsCurrent ↔ ∃ action ∈ actions, action.1.IsSwitch := by
  rcases reporting_run hrun with ⟨hswitch, -, hcurrent⟩ | ⟨hnone, hreports⟩
  · exact iff_of_true hcurrent hswitch
  · exact iff_of_false hreports.not_reportsCurrent hnone

/-- A request with its clock readings. -/
structure Request where
  exchangeType : ExchangeType
  symbols : List String
  reading : SwitchReading

def Request.action (request : Request) : Action × SwitchReading :=
  (.switchExchange request.exchangeType request.symbols, request.reading)

theorem exists_run_requests {state : Reporting} {monitor : Exchanges}
    (hmonitor : state.collector = some monitor)
    (hstarted : state.source.launch ≠ .unstarted) (requests : List Request) :
    ∃ final,
      reporting.run state (requests.map Request.action) = some final := by
  induction requests generalizing state monitor with
  | nil => exact ⟨state, rfl⟩
  | cons request requests ih =>
      obtain ⟨after, hafter, -⟩ := exists_reportSwitch
        state.source.currentExchange request.exchangeType.name request.reading
        monitor
      obtain ⟨source, collector⟩ := state
      obtain rfl : collector = some monitor := hmonitor
      have hstep : reporting.step ⟨source, some monitor⟩ request.action = some
          ⟨source.switchExchange request.exchangeType request.symbols,
            some after⟩ := by
        simp [reporting, machine, report, Request.action, hstarted, hafter]
      rw [List.map_cons, Machine.run_cons, hstep, Option.bind_some]
      exact ih rfl hstarted

/-- `start` and any requests after it run to the end. -/
theorem exists_run_start (exchange : Option String) (reading : SwitchReading)
    (requests : List Request) :
    ∃ final, reporting.run reporting.initial
      ((.start exchange, reading) :: requests.map Request.action) =
        some final :=
  exists_run_requests rfl Launch.noConfusion requests

def noReading : SwitchReading := ⟨0, 0, 0, 0⟩

/-- Two requests for the same exchange. -/
theorem reportsCurrent_iff_repeated :
    ∃ state, reporting.run reporting.initial
        [(.start (some "binance"), noReading),
          (.switchExchange .jupiter ["SOL"], noReading),
          (.switchExchange .jupiter ["SOL"], noReading)] = some state ∧
      state.ReportsCurrent := by
  obtain ⟨state, hrun⟩ := exists_run_start (some "binance") noReading
    [⟨.jupiter, ["SOL"], noReading⟩, ⟨.jupiter, ["SOL"], noReading⟩]
  refine ⟨state, hrun, (reportsCurrent_iff hrun).mpr
    ⟨Request.action ⟨.jupiter, ["SOL"], noReading⟩, ?_, trivial⟩⟩
  exact List.mem_cons_of_mem _ List.mem_cons_self

/-- After `start` alone no exchange is reported, though one is in use. -/
theorem start_reports_none :
    ∃ state, reporting.run reporting.initial [(.start none, noReading)] =
        some state ∧
      state.source.currentExchange = "BINANCE" ∧ state.ReportsNone ∧
      ¬ state.ReportsCurrent := by
  obtain ⟨state, hrun⟩ := exists_run_start none noReading []
  have hexchange : state.source.currentExchange = "BINANCE" := by
    cases hrun
    rfl
  rcases reporting_run hrun with ⟨⟨action, hmem, hswitch⟩, -⟩ | ⟨-, hreports⟩
  · rw [List.mem_singleton.mp hmem] at hswitch
    exact absurd hswitch id
  · exact ⟨state, hrun, hexchange, hreports, hreports.not_reportsCurrent⟩

end Datafeed.LiveSource
