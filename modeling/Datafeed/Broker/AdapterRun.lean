import Datafeed.LiveSource.SwitchExchange

/-!
# Running and stopping an adapter

`EAdapter::run` sets the exchange's callback, connects, subscribes, stores
`true` to `running_` and sleeps while the flag is set.  `EAdapter::stop`, called
from another thread, stores `false` to the flag and stops the exchange client.
The two threads share no lock, so a call of `stop` can fall before, between and
after the steps of `run`.  `worker_thread_` is never started, so `stop` has
nothing to join.
-/

namespace Datafeed.AdapterRun

open LiveSource (ExchangeType)

/-! ## The exchange client -/

/-- What the adapter reads and writes of its exchange client; `streaming`
records that the thread that delivers prices was started. -/
structure Exchange where
  callback : Bool
  connected : Bool
  running : Bool
  symbols : List String
  streaming : Bool
  deriving DecidableEq

namespace Exchange

def new : Exchange where
  callback := false
  connected := false
  running := false
  symbols := []
  streaming := false

def setCallback (exchange : Exchange) : Exchange :=
  { exchange with callback := true }

/-- `Exchange1` reaches its server or swallows the failure; the two REST
clients are connected by the assignment alone. -/
def connect (exchangeType : ExchangeType) (reached : Bool)
    (exchange : Exchange) : Exchange :=
  match exchangeType with
  | .binance => { exchange with running := true, connected := reached }
  | .jupiter | .birdeye => { exchange with running := true, connected := true }

def subscribe (exchangeType : ExchangeType) (symbols : List String)
    (exchange : Exchange) : Exchange :=
  match exchangeType with
  | .binance =>
      { exchange with
        symbols := symbols
        streaming := exchange.connected || exchange.streaming }
  | .jupiter | .birdeye =>
      if exchange.connected then
        { exchange with symbols := symbols, streaming := true }
      else exchange

/-- `Exchange1` has no `stop`; its destructor does the cleanup. -/
def stop (exchangeType : ExchangeType) (exchange : Exchange) : Exchange :=
  match exchangeType with
  | .binance => exchange
  | .jupiter | .birdeye =>
      { exchange with running := false, connected := false }

end Exchange

/-! ## The two threads -/

/-- The step of `run` that comes next. -/
inductive RunPoint
  | unstarted
  | onUpdate
  | connectToExchange
  | subscribeSymbols
  | storeRunning
  | testRunning
  | sleep
  | returned
  deriving DecidableEq

/-- A call of `stop` has stored the flag and is about to stop the exchange. -/
inductive StopPoint
  | idle
  | storedRunning
  deriving DecidableEq

/-- `running` is the flag `running_`. -/
structure EAdapter where
  exchangeType : ExchangeType
  exchange : Exchange
  symbols : List String
  running : Bool
  run : RunPoint
  stop : StopPoint
  deriving DecidableEq

inductive Action
  | run
  | onUpdate
  | connectToExchange (reached : Bool)
  | subscribeSymbols
  | storeRunning
  | testRunning
  | sleep
  /-- The store of `stop`. -/
  | stopRunning
  | stopExchange
  deriving DecidableEq

/-- The steps of the thread that runs the adapter. -/
def Action.ofRun : Action → Bool
  | .stopRunning | .stopExchange => false
  | _ => true

/-- An adapter as the constructor and `set_symbols` leave it. -/
def EAdapter.new (exchangeType : ExchangeType) (symbols : List String) :
    EAdapter where
  exchangeType := exchangeType
  exchange := Exchange.new
  symbols := symbols
  running := false
  run := .unstarted
  stop := .idle

def step (state : EAdapter) : Action → Option EAdapter
  | .run =>
      if state.run = .unstarted then some { state with run := .onUpdate }
      else none
  | .onUpdate =>
      if state.run = .onUpdate then
        some { state with
          exchange := state.exchange.setCallback
          run := .connectToExchange }
      else none
  | .connectToExchange reached =>
      if state.run = .connectToExchange then
        some { state with
          exchange := state.exchange.connect state.exchangeType reached
          run := .subscribeSymbols }
      else none
  | .subscribeSymbols =>
      if state.run = .subscribeSymbols then
        some { state with
          exchange := state.exchange.subscribe state.exchangeType state.symbols
          run := .storeRunning }
      else none
  | .storeRunning =>
      if state.run = .storeRunning then
        some { state with running := true, run := .testRunning }
      else none
  | .testRunning =>
      if state.run = .testRunning then
        some { state with run := if state.running then .sleep else .returned }
      else none
  | .sleep =>
      if state.run = .sleep then some { state with run := .testRunning }
      else none
  | .stopRunning =>
      if state.stop = .idle then
        some { state with running := false, stop := .storedRunning }
      else none
  | .stopExchange =>
      if state.stop = .storedRunning then
        some { state with
          exchange := state.exchange.stop state.exchangeType
          stop := .idle }
      else none

def machine (exchangeType : ExchangeType) (symbols : List String) :
    Machine EAdapter Action where
  initial := EAdapter.new exchangeType symbols
  step := step

/-! ## A stop after the store -/

variable {exchangeType : ExchangeType} {symbols : List String}

/-- `run` has executed its store to `running_`. -/
def RunPoint.PastStore : RunPoint → Prop
  | .testRunning | .sleep | .returned => True
  | _ => False

instance : DecidablePred RunPoint.PastStore := fun point => by
  cases point <;> unfold RunPoint.PastStore <;> infer_instance

/-- The steps left to `run` once the flag is clear. -/
def RunPoint.remaining : RunPoint → ℕ
  | .sleep => 2
  | .testRunning => 1
  | _ => 0

theorem RunPoint.remaining_le (point : RunPoint) : point.remaining ≤ 2 := by
  cases point <;> decide

/-- The flag is clear and nothing will set it. -/
structure Stopped (state : EAdapter) : Prop where
  clear : state.running = false
  past : state.run.PastStore

/-- Past the store, `run` only tests the flag and sleeps. -/
theorem RunPoint.PastStore.action {state next : EAdapter} {action : Action}
    (hpast : state.run.PastStore) (hstep : step state action = some next)
    (hrun : action.ofRun = true) : action = .testRunning ∨ action = .sleep := by
  cases action with
  | testRunning => exact Or.inl rfl
  | sleep => exact Or.inr rfl
  | stopRunning => cases hrun
  | stopExchange => cases hrun
  | _ =>
      simp only [step, Option.ite_none_right_eq_some] at hstep
      rw [hstep.1] at hpast
      exact absurd hpast id

theorem Stopped.step {state next : EAdapter} {action : Action}
    (hstopped : Stopped state) (hstep : step state action = some next) :
    Stopped next ∧ next.run.remaining + (if action.ofRun then 1 else 0) =
      state.run.remaining := by
  by_cases hrun : action.ofRun = true
  · rw [if_pos hrun]
    rcases hstopped.past.action hstep hrun with rfl | rfl
    · simp only [AdapterRun.step, Option.ite_none_right_eq_some,
        Option.some.injEq] at hstep
      obtain ⟨hpoint, rfl⟩ := hstep
      refine ⟨⟨hstopped.clear, ?_⟩, ?_⟩
      · simp [hstopped.clear, RunPoint.PastStore]
      · simp [hstopped.clear, hpoint, RunPoint.remaining]
    · simp only [AdapterRun.step, Option.ite_none_right_eq_some,
        Option.some.injEq] at hstep
      obtain ⟨hpoint, rfl⟩ := hstep
      refine ⟨⟨hstopped.clear, trivial⟩, ?_⟩
      simp [hpoint, RunPoint.remaining]
  · rw [if_neg hrun, Nat.add_zero]
    cases action with
    | stopRunning =>
        simp only [AdapterRun.step, Option.ite_none_right_eq_some,
          Option.some.injEq] at hstep
        obtain ⟨-, rfl⟩ := hstep
        exact ⟨⟨rfl, hstopped.past⟩, rfl⟩
    | stopExchange =>
        simp only [AdapterRun.step, Option.ite_none_right_eq_some,
          Option.some.injEq] at hstep
        obtain ⟨-, rfl⟩ := hstep
        exact ⟨⟨hstopped.clear, hstopped.past⟩, rfl⟩
    | _ => exact absurd rfl hrun

/-- A stopped adapter stays stopped, and each step of `run` brings its return
one step nearer. -/
theorem Stopped.run {actions : List Action} {state final : EAdapter}
    (hstopped : Stopped state)
    (hrun : (machine exchangeType symbols).run state actions = some final) :
    Stopped final ∧ final.run.remaining + actions.countP Action.ofRun =
      state.run.remaining := by
  induction actions generalizing state with
  | nil =>
      obtain rfl : state = final := by simpa using hrun
      exact ⟨hstopped, rfl⟩
  | cons action actions ih =>
      obtain ⟨next, hstep, hrest⟩ := Machine.exists_of_run_cons hrun
      obtain ⟨hnext, hstepped⟩ := hstopped.step hstep
      obtain ⟨hfinal, hremaining⟩ := ih hnext hrest
      refine ⟨hfinal, ?_⟩
      rw [List.countP_cons, ← Nat.add_assoc, hremaining, hstepped]

/-- Nothing is left for `run` to wait for: unless it has returned, its next
step is enabled. -/
theorem Stopped.enabled {state : EAdapter} (hstopped : Stopped state)
    (hpending : state.run ≠ .returned) :
    ∃ action next, action.ofRun = true ∧
      AdapterRun.step state action = some next := by
  have hpast := hstopped.past
  cases hpoint : state.run with
  | testRunning => exact ⟨.testRunning, _, rfl, if_pos hpoint⟩
  | sleep => exact ⟨.sleep, _, rfl, if_pos hpoint⟩
  | returned => exact absurd hpoint hpending
  | _ =>
      rw [hpoint] at hpast
      exact absurd hpast id

/-! ## A stop before the store -/

/-- Some continuation sets the flag. -/
def CanRun (exchangeType : ExchangeType) (symbols : List String)
    (state : EAdapter) : Prop :=
  (machine exchangeType symbols).CanReach (fun final => ¬ final.running = false)
    state

theorem canRun_of_storeRunning {state : EAdapter}
    (hpoint : state.run = .storeRunning) :
    CanRun exchangeType symbols state :=
  .of_step .storeRunning (if_pos hpoint)
    (Machine.canReach_of_property (by simp))

theorem canRun_of_subscribeSymbols {state : EAdapter}
    (hpoint : state.run = .subscribeSymbols) :
    CanRun exchangeType symbols state :=
  .of_step .subscribeSymbols (if_pos hpoint) (canRun_of_storeRunning rfl)

theorem canRun_of_connectToExchange {state : EAdapter}
    (hpoint : state.run = .connectToExchange) :
    CanRun exchangeType symbols state :=
  .of_step (.connectToExchange true) (if_pos hpoint)
    (canRun_of_subscribeSymbols rfl)

theorem canRun_of_onUpdate {state : EAdapter}
    (hpoint : state.run = .onUpdate) : CanRun exchangeType symbols state :=
  .of_step .onUpdate (if_pos hpoint) (canRun_of_connectToExchange rfl)

/-- Before its store, each step of `run` is enabled whatever `stop` has done,
and the last of them sets the flag. -/
theorem canRun_of_not_pastStore {state : EAdapter}
    (hbefore : ¬ state.run.PastStore) : CanRun exchangeType symbols state := by
  cases hpoint : state.run with
  | unstarted => exact .of_step .run (if_pos hpoint) (canRun_of_onUpdate rfl)
  | onUpdate => exact canRun_of_onUpdate hpoint
  | connectToExchange => exact canRun_of_connectToExchange hpoint
  | subscribeSymbols => exact canRun_of_subscribeSymbols hpoint
  | storeRunning => exact canRun_of_storeRunning hpoint
  | testRunning => exact absurd (by rw [hpoint]; trivial) hbefore
  | sleep => exact absurd (by rw [hpoint]; trivial) hbefore
  | returned => exact absurd (by rw [hpoint]; trivial) hbefore

/-! ## Exactly when a stop is final -/

/-- From the state on the flag stays clear, and `run` takes at most two more
steps, none of which waits for anything, and has then returned. -/
structure StaysStopped (exchangeType : ExchangeType) (symbols : List String)
    (state : EAdapter) : Prop where
  clear : (machine exchangeType symbols).Always (·.running = false) state
  bounded : ∀ actions final,
    (machine exchangeType symbols).run state actions = some final →
      actions.countP Action.ofRun ≤ 2
  enabled : (machine exchangeType symbols).Always
    (fun final => final.run ≠ .returned →
      ∃ action next, action.ofRun = true ∧ step final action = some next) state

theorem Stopped.staysStopped {state : EAdapter} (hstopped : Stopped state) :
    StaysStopped exchangeType symbols state where
  clear _ _ hrun := (hstopped.run hrun).1.clear
  bounded actions final hrun := by
    calc actions.countP Action.ofRun
        ≤ final.run.remaining + actions.countP Action.ofRun :=
          Nat.le_add_left _ _
      _ = state.run.remaining := (hstopped.run hrun).2
      _ ≤ 2 := state.run.remaining_le
  enabled _ _ hrun := (hstopped.run hrun).1.enabled

/-- Wherever in its run an adapter is told to stop, the call is final exactly
when `run` has already executed its own store to `running_`. -/
theorem staysStopped_iff {state next : EAdapter}
    (hstop : step state .stopRunning = some next) :
    StaysStopped exchangeType symbols next ↔ state.run.PastStore := by
  simp only [step, Option.ite_none_right_eq_some, Option.some.injEq] at hstop
  obtain ⟨-, rfl⟩ := hstop
  constructor
  · intro hstays
    by_contra hbefore
    have hreach : (machine exchangeType symbols).CanReach
        (fun final => ¬ final.running = false)
        { state with running := false, stop := .storedRunning } :=
      canRun_of_not_pastStore hbefore
    exact Machine.not_always_of_canReach hreach hstays.clear
  · intro hpast
    exact Stopped.staysStopped ⟨rfl, hpast⟩

/-- `run` up to its loop, by an adapter that reaches its server. -/
def startUp : List Action :=
  [.run, .onUpdate, .connectToExchange true, .subscribeSymbols, .storeRunning]

/-- The adapter in its loop. -/
def looping : EAdapter where
  exchangeType := .jupiter
  exchange := ⟨true, true, true, ["SOL"], true⟩
  symbols := ["SOL"]
  running := true
  run := .sleep
  stop := .idle

theorem staysStopped_iff_looping :
    (machine .jupiter ["SOL"]).run (EAdapter.new .jupiter ["SOL"])
        (startUp ++ [.testRunning]) = some looping ∧
      StaysStopped .jupiter ["SOL"]
        { looping with running := false, stop := .storedRunning } := by
  have hstop : step looping .stopRunning =
      some { looping with running := false, stop := .storedRunning } := rfl
  exact ⟨rfl, (staysStopped_iff hstop).mpr trivial⟩

/-- A whole call of `stop` falls between the connection and the subscription;
the run goes on, sets the flag and is in its loop. -/
theorem stop_while_connecting_is_lost :
    ∃ final, (machine .binance ["BTCUSDT"]).run
        (EAdapter.new .binance ["BTCUSDT"])
        [.run, .onUpdate, .connectToExchange true, .stopRunning, .stopExchange,
          .subscribeSymbols, .storeRunning, .testRunning] = some final ∧
      final.running = true ∧ final.run = .sleep ∧ final.stop = .idle :=
  ⟨_, rfl, rfl, rfl, rfl⟩

/-! ## The adapter as `live_source` sees it -/

/-- What a switch of the exchange reads of an adapter. -/
def EAdapter.seen (toldToStop : Bool) (adapter : EAdapter) :
    LiveSource.EAdapter where
  exchangeType := adapter.exchangeType
  symbols := adapter.symbols
  started := decide (adapter.run ≠ .unstarted)
  toldToStop := toldToStop
  running := adapter.running

/-- The steps that a switch of the exchange interleaves with. -/
def Action.effect : Action → LiveSource.EAdapter → LiveSource.EAdapter
  | .run => LiveSource.EAdapter.run
  | .storeRunning => LiveSource.EAdapter.storeRunning
  | .stopRunning => LiveSource.EAdapter.stop
  | _ => id

theorem seen_step {state next : EAdapter} {action : Action}
    (hstep : step state action = some next) (toldToStop : Bool) :
    next.seen (toldToStop || action == .stopRunning) =
      action.effect (state.seen toldToStop) := by
  cases action with
  | stopRunning =>
      simp only [step, Option.ite_none_right_eq_some, Option.some.injEq] at hstep
      obtain ⟨-, rfl⟩ := hstep
      simp [EAdapter.seen, Action.effect, LiveSource.EAdapter.stop]
  | run =>
      simp only [step, Option.ite_none_right_eq_some, Option.some.injEq] at hstep
      obtain ⟨-, rfl⟩ := hstep
      simp [EAdapter.seen, Action.effect, LiveSource.EAdapter.run]
  | storeRunning =>
      simp only [step, Option.ite_none_right_eq_some, Option.some.injEq] at hstep
      obtain ⟨hpoint, rfl⟩ := hstep
      simp [EAdapter.seen, Action.effect, LiveSource.EAdapter.storeRunning,
        hpoint]
  | testRunning =>
      simp only [step, Option.ite_none_right_eq_some, Option.some.injEq] at hstep
      obtain ⟨hpoint, rfl⟩ := hstep
      cases hrunning : state.running <;>
        simp [EAdapter.seen, Action.effect, hpoint, hrunning]
  | _ =>
      simp only [step, Option.ite_none_right_eq_some, Option.some.injEq] at hstep
      obtain ⟨hpoint, rfl⟩ := hstep
      simp [EAdapter.seen, Action.effect, hpoint]

/-- In every run an adapter is to `live_source` what the steps it knows of have
made of a new one: entering `run`, raising `running_`, and `stop`. -/
theorem seen_run {actions : List Action} {final : EAdapter}
    (hrun : (machine exchangeType symbols).run
      (machine exchangeType symbols).initial actions = some final) :
    final.seen (actions.any (· == .stopRunning)) =
      actions.foldl (fun adapter action => action.effect adapter)
        (LiveSource.EAdapter.create exchangeType symbols) := by
  have hsteps : ∀ (state : EAdapter) (toldToStop : Bool),
      (machine exchangeType symbols).run state actions = some final →
        final.seen (toldToStop || actions.any (· == .stopRunning)) =
          actions.foldl (fun adapter action => action.effect adapter)
            (state.seen toldToStop) := by
    clear hrun
    induction actions with
    | nil =>
        intro state toldToStop hrun
        obtain rfl : state = final := by simpa using hrun
        rw [List.any_nil, Bool.or_false, List.foldl_nil]
    | cons action actions ih =>
        intro state toldToStop hrun
        obtain ⟨next, hstep, hrest⟩ := Machine.exists_of_run_cons hrun
        rw [List.any_cons, ← Bool.or_assoc, ih next _ hrest,
          seen_step hstep, List.foldl_cons]
  exact hsteps _ false hrun

end Datafeed.AdapterRun
