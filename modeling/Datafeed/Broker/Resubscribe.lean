import Datafeed.Broker.ReadLoop

/-!
# Subscribing once more on a connected feed

`EAdapter::set_symbols` on a running adapter calls `Exchange1::subscribe`, which
holds `ws_mutex_` from its test of `connected_` to its return and ends with
`start_reader`: a join of the reader and the launch of a new one.  The steps of
one such call are taken apart here, between those of the reader, and so are the
acquisition of the mutex and the read that follows it.
-/

namespace Datafeed.Resubscribe

open ReadLoop (State ReaderAction IoAction ReaderPoint)

/-- The step of `EAdapter::run` that comes next. -/
inductive RunPoint
  | connectToExchange
  | subscribeSymbols
  | storeRunning
  | loop
  deriving DecidableEq

/-- The step of the call of `Exchange1::subscribe` that comes next. -/
inductive CallPoint
  /-- No call is under way. -/
  | idle
  | testConnected
  | lock
  | sendSubscribe
  | readAck
  /-- `reader_thread_.join()` -/
  | join
  | launch
  deriving DecidableEq

/-- A thread that holds `ws_mutex_`. -/
inductive Holder
  | caller
  | reader
  deriving DecidableEq

/-- An adapter for `BINANCE`: `symbols` and `running` are its own `symbols_` and
`running_`.  The reader is at the point `read` also while it waits for the
mutex. -/
structure Feed where
  exchange : State
  symbols : List String
  running : Bool
  run : RunPoint
  call : CallPoint
  mutex : Option Holder
  deriving DecidableEq

inductive Action
  | connect
  /-- How `perform_connect` ends on the adapter's thread. -/
  | connected (reached : Bool)
  /-- The call of `subscribe` in `EAdapter::run`. -/
  | subscribeSymbols
  | storeRunning
  | setSymbols (symbols : List String)
  | testConnected
  | lock
  | sendSubscribe
  | readAck
  | join
  | launch
  | io (action : IoAction)
  | reader (action : ReaderAction)
  /-- The reader acquires the mutex for a read. -/
  | lockRead
  deriving DecidableEq

/-- `exchange1_->subscribe(symbols_)` up to its test of `connected_`. -/
def Feed.subscribe (feed : Feed) : Feed :=
  { feed with
    exchange := { feed.exchange with symbols := feed.symbols }
    call := .testConnected }

/-- The guards of `ws_mutex_` around the steps of `read_loop`. -/
def Feed.readerStep (feed : Feed) : ReaderAction → Option Feed
  | .rebuild =>
      if feed.mutex = none then
        (feed.exchange.readerStep .rebuild).map fun exchange =>
          { feed with exchange := exchange }
      else none
  | .read received =>
      if feed.mutex = some .reader then
        (feed.exchange.readerStep (.read received)).map fun exchange =>
          { feed with exchange := exchange, mutex := none }
      else none
  | action =>
      (feed.exchange.readerStep action).map fun exchange =>
        { feed with exchange := exchange }

def step (feed : Feed) : Action → Option Feed
  | .connect =>
      if feed.run = .connectToExchange then
        (feed.exchange.ownerStep .connect).map fun exchange =>
          { feed with exchange := exchange }
      else none
  | .connected reached =>
      if feed.run = .connectToExchange then
        (feed.exchange.ownerStep (.connected reached)).map fun exchange =>
          { feed with exchange := exchange, run := .subscribeSymbols }
      else none
  | .subscribeSymbols =>
      if feed.run = .subscribeSymbols then
        some { feed with run := .storeRunning }.subscribe
      else none
  | .storeRunning =>
      if feed.run = .storeRunning ∧ feed.call = .idle then
        some { feed with running := true, run := .loop }
      else none
  | .setSymbols symbols =>
      if feed.running then
        if feed.call = .idle then
          some { feed with symbols := symbols }.subscribe
        else none
      else some { feed with symbols := symbols }
  | .testConnected =>
      if feed.call = .testConnected then
        some { feed with
          call := if feed.exchange.connected then .lock else .idle }
      else none
  | .lock =>
      if feed.call = .lock ∧ feed.mutex = none then
        some { feed with call := .sendSubscribe, mutex := some .caller }
      else none
  -- An exception of the write or of the read is caught.
  | .sendSubscribe =>
      if feed.call = .sendSubscribe then some { feed with call := .readAck }
      else none
  | .readAck =>
      if feed.call = .readAck then some { feed with call := .join }
      else none
  | .join =>
      if feed.call = .join ∧ feed.exchange.reader.Joinable then
        some { feed with call := .launch }
      else none
  | .launch =>
      if feed.call = .launch then
        some { feed with
          exchange := feed.exchange.startReader, call := .idle, mutex := none }
      else none
  | .io action =>
      (feed.exchange.ioStep action).map fun exchange =>
        { feed with exchange := exchange }
  | .reader action => feed.readerStep action
  | .lockRead =>
      if feed.exchange.reader = .read ∧ feed.mutex = none then
        some { feed with mutex := some .reader }
      else none

def machine : Machine Feed Action where
  initial :=
    { exchange := ReadLoop.machine.initial
      symbols := []
      running := false
      run := .connectToExchange
      call := .idle
      mutex := none }
  step := step

/-- The call waits for the reader to finish, with the mutex held or with
`running_` set. -/
def Waiting (feed : Feed) : Prop :=
  feed.call = .join ∧ ¬ feed.exchange.reader.Joinable ∧
    (feed.mutex = some .caller ∨ feed.exchange.running = true)

/-- Whatever the threads do next, a call that is past its test of `connected_`
does not wait for the reader. -/
def NeverWaits (feed : Feed) : Prop :=
  ∀ actions final, (∀ action ∈ actions, action ≠ .testConnected) →
    machine.run feed actions = some final → ¬ Waiting final

/-- A test of `connected_` finds the flag clear, or no reader is in its
loop. -/
def Harmless (feed : Feed) (action : Action) : Prop :=
  action = .testConnected → feed.call = .testConnected →
    feed.exchange.connected = false ∨ feed.exchange.reader.Joinable

/-! ## Who holds the mutex, and when the reader can run -/

/-- The call has acquired the mutex. -/
def CallPoint.Holds : CallPoint → Prop
  | .sendSubscribe | .readAck | .join | .launch => True
  | _ => False

/-- The flags and the mutex by the points of the threads. -/
structure Sound (feed : Feed) : Prop where
  connecting : feed.exchange.owner ≠ .constructed →
    feed.exchange.running = true
  connected : feed.run ≠ .connectToExchange → feed.exchange.running = true
  loop : feed.running = true → feed.run = .loop
  call : feed.call ≠ .idle → feed.run = .storeRunning ∨ feed.run = .loop
  live : ¬ feed.exchange.reader.Joinable → feed.exchange.running = true
  caller : feed.mutex = some .caller ↔ feed.call.Holds
  reader : feed.mutex = some .reader → feed.exchange.reader = .read

theorem sound_initial : Sound machine.initial where
  connecting := fun hpoint => absurd rfl hpoint
  connected := fun hpoint => absurd rfl hpoint
  loop := fun hrunning => by cases hrunning
  call := fun hpoint => absurd rfl hpoint
  live := fun hlive => absurd trivial hlive
  caller := iff_of_false (by simp [machine]) id
  reader := fun hmutex => by cases hmutex

namespace Sound

variable {feed next : Feed} {exchange : State}

theorem ioStep {action : IoAction} (hsound : Sound feed)
    (hstep : feed.exchange.ioStep action = some exchange) :
    Sound { feed with exchange := exchange } := by
  obtain ⟨hrunning, -, -, hreader, howner⟩ := ReadLoop.ioStep_frame hstep
  constructor <;> simp only [hrunning, hreader, howner]
  · exact hsound.connecting
  · exact hsound.connected
  · exact hsound.loop
  · exact hsound.call
  · exact hsound.live
  · exact hsound.caller
  · exact hsound.reader

/-- A reader that takes a step is in its loop, and stays there. -/
theorem readerLive {action : ReaderAction} (hsound : Sound feed)
    (hstep : feed.exchange.readerStep action = some exchange) :
    exchange.running = true ∧ ¬ exchange.reader.Joinable := by
  have hlive : ¬ feed.exchange.reader.Joinable := by
    intro hjoinable
    rw [ReadLoop.readerStep_of_joinable hjoinable] at hstep
    cases hstep
  obtain ⟨hrunning, hnext, -, -⟩ :=
    ReadLoop.readerStep_frame (hsound.live hlive) hstep
  exact ⟨hrunning, hnext⟩

/-- A step of the reader keeps the mutex or, at the end of a read, releases
it; only a read is a step of its holder. -/
theorem afterReader {action : ReaderAction} {mutex : Option Holder}
    (hsound : Sound feed)
    (hstep : feed.exchange.readerStep action = some exchange)
    (hcaller : mutex = some .caller ↔ feed.mutex = some .caller)
    (hreader : mutex ≠ some .reader) :
    Sound { feed with exchange := exchange, mutex := mutex } := by
  obtain ⟨hrunning, -⟩ := hsound.readerLive hstep
  exact
    { connecting := fun _ => hrunning
      connected := fun _ => hrunning
      loop := hsound.loop
      call := hsound.call
      live := fun _ => hrunning
      caller := hcaller.trans hsound.caller
      reader := fun hmutex => absurd hmutex hreader }

/-- A step of the reader is one of the exchange's, taken without the mutex or
giving it back. -/
theorem readerStep_cases {action : ReaderAction} (hsound : Sound feed)
    (hstep : feed.readerStep action = some next) :
    ∃ exchange mutex, feed.exchange.readerStep action = some exchange ∧
      next = { feed with exchange := exchange, mutex := mutex } ∧
      (mutex = some .caller ↔ feed.mutex = some .caller) ∧
      mutex ≠ some .reader := by
  have hkept : ∀ exchange,
      feed.exchange.readerStep action = some exchange →
        (∀ received, action ≠ .read received) → feed.mutex ≠ some .reader := by
    intro exchange hexchange haction hmutex
    have hpoint := hsound.reader hmutex
    cases action <;> simp [State.readerStep, hpoint] at hexchange
    exact haction _ rfl
  cases action with
  | rebuild =>
      simp only [Feed.readerStep, Option.ite_none_right_eq_some] at hstep
      obtain ⟨hfree, hstep⟩ := hstep
      obtain ⟨exchange, hexchange, rfl⟩ := Option.map_eq_some_iff.mp hstep
      exact ⟨exchange, feed.mutex, hexchange, rfl, Iff.rfl, by simp [hfree]⟩
  | read received =>
      simp only [Feed.readerStep, Option.ite_none_right_eq_some] at hstep
      obtain ⟨hheld, hstep⟩ := hstep
      obtain ⟨exchange, hexchange, rfl⟩ := Option.map_eq_some_iff.mp hstep
      exact ⟨exchange, none, hexchange, rfl, by simp [hheld], by simp⟩
  | _ =>
      obtain ⟨exchange, hexchange, rfl⟩ := Option.map_eq_some_iff.mp hstep
      exact ⟨exchange, feed.mutex, hexchange, rfl, Iff.rfl,
        hkept exchange hexchange (by simp)⟩

/-- The call that `run` or `set_symbols` begins. -/
theorem subscribe (hsound : Sound feed) (hidle : feed.call = .idle)
    (hrun : feed.run = .storeRunning ∨ feed.run = .loop) :
    Sound feed.subscribe where
  connecting := hsound.connecting
  connected := hsound.connected
  loop := hsound.loop
  call := fun _ => hrun
  live := hsound.live
  caller := by
    have hcaller := hsound.caller
    rw [hidle] at hcaller
    exact hcaller
  reader := hsound.reader

/-- A step of the call that leaves the mutex alone. -/
theorem advance {point : CallPoint} (hsound : Sound feed)
    (hcall : feed.call ≠ .idle) (hholds : feed.call.Holds ↔ point.Holds) :
    Sound { feed with call := point } where
  connecting := hsound.connecting
  connected := hsound.connected
  loop := hsound.loop
  call := fun _ => hsound.call hcall
  live := hsound.live
  caller := hsound.caller.trans hholds
  reader := hsound.reader

theorem lock (hsound : Sound feed) (hcall : feed.call ≠ .idle) :
    Sound { feed with call := .sendSubscribe, mutex := some .caller } where
  connecting := hsound.connecting
  connected := hsound.connected
  loop := hsound.loop
  call := fun _ => hsound.call hcall
  live := hsound.live
  caller := iff_of_true rfl trivial
  reader := fun hmutex => by cases hmutex

theorem running (hsound : Sound feed) (hcall : feed.call ≠ .idle) :
    feed.exchange.running = true := by
  apply hsound.connected
  rcases hsound.call hcall with hrun | hrun <;> simp [hrun]

theorem launch (hsound : Sound feed) (hcall : feed.call ≠ .idle) :
    Sound { feed with
      exchange := feed.exchange.startReader, call := .idle, mutex := none } where
  connecting := hsound.connecting
  connected := hsound.connected
  loop := hsound.loop
  call := fun hidle => absurd rfl hidle
  live := fun _ => hsound.running hcall
  caller := iff_of_false (by simp) id
  reader := fun hmutex => by cases hmutex

theorem connect (hsound : Sound feed)
    (hstep : feed.exchange.ownerStep .connect = some exchange) :
    Sound { feed with exchange := exchange } := by
  simp only [State.ownerStep, Option.ite_none_right_eq_some,
    Option.some.injEq] at hstep
  obtain ⟨-, rfl⟩ := hstep
  exact
    { connecting := fun _ => rfl
      connected := fun _ => rfl
      loop := hsound.loop
      call := hsound.call
      live := fun _ => rfl
      caller := hsound.caller
      reader := hsound.reader }

theorem idle_of_run (hsound : Sound feed) (hstore : feed.run ≠ .storeRunning)
    (hloop : feed.run ≠ .loop) : feed.call = .idle := by
  by_contra hcall
  rcases hsound.call hcall with hrun | hrun
  · exact hstore hrun
  · exact hloop hrun

theorem connectEnds {reached : Bool} (hsound : Sound feed)
    (hrun : feed.run = .connectToExchange)
    (hstep : feed.exchange.ownerStep (.connected reached) = some exchange) :
    Sound { feed with exchange := exchange, run := .subscribeSymbols } := by
  simp only [State.ownerStep, Option.ite_none_right_eq_some,
    Option.some.injEq] at hstep
  obtain ⟨hpoint, rfl⟩ := hstep
  have hrunning : feed.exchange.running = true :=
    hsound.connecting (by simp [hpoint])
  have hidle : feed.call = .idle :=
    hsound.idle_of_run (by simp [hrun]) (by simp [hrun])
  exact
    { connecting := fun _ => hrunning
      connected := fun _ => hrunning
      loop := fun hloop => absurd (hsound.loop hloop) (by simp [hrun])
      call := fun hcall => absurd hidle hcall
      live := hsound.live
      caller := hsound.caller
      reader := hsound.reader }

/-- `run` and `set_symbols` write nothing that the threads of the exchange
read. -/
theorem ofRun {symbols : List String} {running : Bool} {run : RunPoint}
    (hsound : Sound feed) (hbefore : feed.run ≠ .connectToExchange)
    (hloop : running = true → run = .loop)
    (hcall : feed.call ≠ .idle → run = .storeRunning ∨ run = .loop) :
    Sound { feed with symbols := symbols, running := running, run := run } where
  connecting := hsound.connecting
  connected := fun _ => hsound.connected hbefore
  loop := hloop
  call := hcall
  live := hsound.live
  caller := hsound.caller
  reader := hsound.reader

theorem setSymbols {symbols : List String} (hsound : Sound feed) :
    Sound { feed with symbols := symbols } :=
  ⟨hsound.connecting, hsound.connected, hsound.loop, hsound.call, hsound.live,
    hsound.caller, hsound.reader⟩

theorem keep (feed : Feed) (action : Action) (next : Feed)
    (hsound : Sound feed) (hstep : machine.step feed action = some next) :
    Sound next := by
  cases action with
  | io action =>
      obtain ⟨exchange, hexchange, rfl⟩ := Option.map_eq_some_iff.mp hstep
      exact hsound.ioStep hexchange
  | reader action =>
      obtain ⟨exchange, mutex, hexchange, rfl, hsame, hfree⟩ :=
        hsound.readerStep_cases hstep
      exact hsound.afterReader hexchange hsame hfree
  | connect =>
      simp only [machine, step, Option.ite_none_right_eq_some] at hstep
      obtain ⟨exchange, hexchange, rfl⟩ := Option.map_eq_some_iff.mp hstep.2
      exact hsound.connect hexchange
  | connected reached =>
      simp only [machine, step, Option.ite_none_right_eq_some] at hstep
      obtain ⟨exchange, hexchange, rfl⟩ := Option.map_eq_some_iff.mp hstep.2
      exact hsound.connectEnds hstep.1 hexchange
  | subscribeSymbols =>
      simp only [machine, step, Option.ite_none_right_eq_some,
        Option.some.injEq] at hstep
      obtain ⟨hrun, rfl⟩ := hstep
      have hidle : feed.call = .idle :=
        hsound.idle_of_run (by simp [hrun]) (by simp [hrun])
      have hnext : Sound { feed with run := .storeRunning } :=
        hsound.ofRun (by simp [hrun])
          (fun hloop => absurd (hsound.loop hloop) (by simp [hrun]))
          (fun _ => .inl rfl)
      exact hnext.subscribe hidle (.inl rfl)
  | storeRunning =>
      simp only [machine, step, Option.ite_none_right_eq_some,
        Option.some.injEq] at hstep
      obtain ⟨⟨hrun, -⟩, rfl⟩ := hstep
      exact hsound.ofRun (by simp [hrun]) (fun _ => rfl) (fun _ => .inr rfl)
  | setSymbols symbols =>
      simp only [machine, step] at hstep
      have hnext : Sound { feed with symbols := symbols } := hsound.setSymbols
      split at hstep
      · next hrunning =>
          simp only [Option.ite_none_right_eq_some, Option.some.injEq] at hstep
          obtain ⟨hidle, rfl⟩ := hstep
          exact hnext.subscribe hidle (.inr (hsound.loop hrunning))
      · cases hstep
        exact hnext
  | testConnected =>
      simp only [machine, step, Option.ite_none_right_eq_some,
        Option.some.injEq] at hstep
      obtain ⟨hpoint, rfl⟩ := hstep
      have hcall : feed.call ≠ .idle := by simp [hpoint]
      cases feed.exchange.connected <;>
        exact hsound.advance hcall (by rw [hpoint]; exact Iff.rfl)
  | lock =>
      simp only [machine, step, Option.ite_none_right_eq_some,
        Option.some.injEq] at hstep
      obtain ⟨⟨hpoint, -⟩, rfl⟩ := hstep
      exact hsound.lock (by simp [hpoint])
  | sendSubscribe | readAck =>
      simp only [machine, step, Option.ite_none_right_eq_some,
        Option.some.injEq] at hstep
      obtain ⟨hpoint, rfl⟩ := hstep
      exact hsound.advance (by simp [hpoint]) (by rw [hpoint]; exact Iff.rfl)
  | join =>
      simp only [machine, step, Option.ite_none_right_eq_some,
        Option.some.injEq] at hstep
      obtain ⟨⟨hpoint, -⟩, rfl⟩ := hstep
      exact hsound.advance (by simp [hpoint]) (by rw [hpoint]; exact Iff.rfl)
  | launch =>
      simp only [machine, step, Option.ite_none_right_eq_some,
        Option.some.injEq] at hstep
      obtain ⟨hpoint, rfl⟩ := hstep
      exact hsound.launch (by simp [hpoint])
  | lockRead =>
      simp only [machine, step, Option.ite_none_right_eq_some,
        Option.some.injEq] at hstep
      obtain ⟨⟨hpoint, hfree⟩, rfl⟩ := hstep
      have hcall : ¬ feed.call.Holds := by
        rw [← hsound.caller, hfree]
        simp
      exact ⟨hsound.connecting, hsound.connected, hsound.loop, hsound.call,
        hsound.live, iff_of_false (by simp) hcall, fun _ => hpoint⟩

end Sound

/-! ## A call with a live reader -/

/-- The call is past its test of `connected_`, and will join the reader. -/
def CallPoint.Joins : CallPoint → Prop
  | .lock | .sendSubscribe | .readAck | .join => True
  | _ => False

/-- The call will join a reader that is in its loop. -/
def Doomed (feed : Feed) : Prop :=
  feed.call.Joins ∧ ¬ feed.exchange.reader.Joinable

theorem Waiting.doomed {feed : Feed} (hwaiting : Waiting feed) :
    Doomed feed := by
  obtain ⟨hpoint, hlive, -⟩ := hwaiting
  rw [Doomed, hpoint]
  exact ⟨trivial, hlive⟩

/-- A step of the reader begins and ends in its loop. -/
theorem Sound.reader_live_iff {feed next : Feed} {action : ReaderAction}
    (hsound : Sound feed) (hstep : feed.readerStep action = some next) :
    next.call = feed.call ∧ ¬ feed.exchange.reader.Joinable ∧
      ¬ next.exchange.reader.Joinable := by
  obtain ⟨exchange, mutex, hexchange, rfl, -, -⟩ :=
    hsound.readerStep_cases hstep
  refine ⟨rfl, fun hjoinable => ?_, (hsound.readerLive hexchange).2⟩
  rw [ReadLoop.readerStep_of_joinable hjoinable] at hexchange
  cases hexchange

/-- Only a test of `connected_` brings a call before the join of a live
reader. -/
theorem Sound.doomed_before {feed next : Feed} {action : Action}
    (hsound : Sound feed) (haction : action ≠ .testConnected)
    (hstep : machine.step feed action = some next) (hdoomed : Doomed next) :
    Doomed feed := by
  obtain ⟨hjoins, hlive⟩ := hdoomed
  cases action with
  | testConnected => exact absurd rfl haction
  | io action =>
      obtain ⟨exchange, hexchange, rfl⟩ := Option.map_eq_some_iff.mp hstep
      obtain ⟨-, -, -, hreader, -⟩ := ReadLoop.ioStep_frame hexchange
      rw [hreader] at hlive
      exact ⟨hjoins, hlive⟩
  | reader action =>
      obtain ⟨hcall, hbefore, -⟩ := hsound.reader_live_iff hstep
      rw [hcall] at hjoins
      exact ⟨hjoins, hbefore⟩
  | connect =>
      simp only [machine, step, Option.ite_none_right_eq_some] at hstep
      obtain ⟨exchange, hexchange, rfl⟩ := Option.map_eq_some_iff.mp hstep.2
      simp only [State.ownerStep, Option.ite_none_right_eq_some,
        Option.some.injEq] at hexchange
      obtain ⟨-, rfl⟩ := hexchange
      exact ⟨hjoins, hlive⟩
  | connected reached =>
      simp only [machine, step, Option.ite_none_right_eq_some] at hstep
      obtain ⟨exchange, hexchange, rfl⟩ := Option.map_eq_some_iff.mp hstep.2
      simp only [State.ownerStep, Option.ite_none_right_eq_some,
        Option.some.injEq] at hexchange
      obtain ⟨-, rfl⟩ := hexchange
      exact ⟨hjoins, hlive⟩
  | setSymbols symbols =>
      simp only [machine, step] at hstep
      split at hstep
      · simp only [Option.ite_none_right_eq_some, Option.some.injEq] at hstep
        obtain ⟨-, rfl⟩ := hstep
        exact absurd hjoins id
      · cases hstep
        exact ⟨hjoins, hlive⟩
  | subscribeSymbols | join | launch =>
      simp only [machine, step, Option.ite_none_right_eq_some,
        Option.some.injEq] at hstep
      obtain ⟨-, rfl⟩ := hstep
      exact absurd hjoins id
  | storeRunning | lockRead =>
      simp only [machine, step, Option.ite_none_right_eq_some,
        Option.some.injEq] at hstep
      obtain ⟨-, rfl⟩ := hstep
      exact ⟨hjoins, hlive⟩
  | lock =>
      simp only [machine, step, Option.ite_none_right_eq_some,
        Option.some.injEq] at hstep
      obtain ⟨⟨hpoint, -⟩, rfl⟩ := hstep
      rw [Doomed, hpoint]
      exact ⟨trivial, hlive⟩
  | sendSubscribe | readAck =>
      simp only [machine, step, Option.ite_none_right_eq_some,
        Option.some.injEq] at hstep
      obtain ⟨hpoint, rfl⟩ := hstep
      rw [Doomed, hpoint]
      exact ⟨trivial, hlive⟩

/-- The test of `connected_` decides. -/
theorem Sound.harmless_iff {feed : Feed} {action : Action}
    (hsound : Sound feed) (hfree : ¬ Doomed feed) :
    Harmless feed action ↔
      ∀ next, machine.step feed action = some next → ¬ Doomed next := by
  by_cases haction : action = .testConnected
  · subst haction
    by_cases hpoint : feed.call = .testConnected
    · have hstep : machine.step feed .testConnected = some { feed with
          call := if feed.exchange.connected then .lock else .idle } :=
        if_pos hpoint
      simp only [hstep, Option.some.injEq, forall_eq', Harmless, hpoint,
        forall_const, Doomed]
      cases feed.exchange.connected <;> simp [CallPoint.Joins]
    · have hstep : machine.step feed .testConnected = none := if_neg hpoint
      simp [Harmless, hpoint, hstep]
  · refine iff_of_true (fun htest => absurd htest haction) ?_
    intro next hstep hdoomed
    exact hfree (hsound.doomed_before haction hstep hdoomed)

/-! ## The wait is reached, and never left -/

theorem NeverWaits.step {feed next : Feed} {action : Action}
    (hnever : NeverWaits feed) (haction : action ≠ .testConnected)
    (hstep : machine.step feed action = some next) : NeverWaits next := by
  intro actions final hactions hrun
  refine hnever (action :: actions) final ?_ ?_
  · exact List.forall_mem_cons.mpr ⟨haction, hactions⟩
  · rw [Machine.run_cons, hstep, Option.bind_some, hrun]

namespace Sound

variable {feed : Feed}

theorem waiting (hsound : Sound feed) (hpoint : feed.call = .join)
    (hlive : ¬ feed.exchange.reader.Joinable) : Waiting feed := by
  refine ⟨hpoint, hlive, .inl (hsound.caller.mpr ?_)⟩
  rw [hpoint]
  trivial

theorem waits_of_join (hsound : Sound feed) (hpoint : feed.call = .join)
    (hlive : ¬ feed.exchange.reader.Joinable) : ¬ NeverWaits feed := by
  intro hnever
  exact hnever [] feed (by simp) rfl (hsound.waiting hpoint hlive)

theorem waits_of_readAck (hsound : Sound feed) (hpoint : feed.call = .readAck)
    (hlive : ¬ feed.exchange.reader.Joinable) : ¬ NeverWaits feed := by
  intro hnever
  have hstep : machine.step feed .readAck = some { feed with call := .join } :=
    if_pos hpoint
  exact (hsound.keep _ _ _ hstep).waits_of_join rfl hlive
    (hnever.step (by simp) hstep)

theorem waits_of_sendSubscribe (hsound : Sound feed)
    (hpoint : feed.call = .sendSubscribe)
    (hlive : ¬ feed.exchange.reader.Joinable) : ¬ NeverWaits feed := by
  intro hnever
  have hstep : machine.step feed .sendSubscribe =
      some { feed with call := .readAck } := if_pos hpoint
  exact (hsound.keep _ _ _ hstep).waits_of_readAck rfl hlive
    (hnever.step (by simp) hstep)

theorem waits_of_free (hsound : Sound feed) (hpoint : feed.call = .lock)
    (hfree : feed.mutex = none)
    (hlive : ¬ feed.exchange.reader.Joinable) : ¬ NeverWaits feed := by
  intro hnever
  have hstep : machine.step feed .lock =
      some { feed with call := .sendSubscribe, mutex := some .caller } :=
    if_pos ⟨hpoint, hfree⟩
  exact (hsound.keep _ _ _ hstep).waits_of_sendSubscribe rfl hlive
    (hnever.step (by simp) hstep)

/-- The reader's read ends, with an exception say, and the call is next at the
mutex. -/
theorem waits_of_lock (hsound : Sound feed) (hpoint : feed.call = .lock)
    (hlive : ¬ feed.exchange.reader.Joinable) : ¬ NeverWaits feed := by
  cases hmutex : feed.mutex with
  | none => exact hsound.waits_of_free hpoint hmutex hlive
  | some holder =>
      cases holder with
      | caller =>
          have hholds := hsound.caller.mp hmutex
          rw [hpoint] at hholds
          exact absurd hholds id
      | reader =>
          intro hnever
          have hread := hsound.reader hmutex
          have hstep : machine.step feed (.reader (.read false)) =
              some { feed with
                exchange := { feed.exchange with
                  connected := false, reader := .testRunning }
                mutex := none } := by
            simp [machine, Resubscribe.step, Feed.readerStep,
              State.readerStep, hmutex, hread]
          exact (hsound.keep _ _ _ hstep).waits_of_free hpoint rfl id
            (hnever.step (by simp) hstep)

theorem neverWaits_iff (hsound : Sound feed) :
    NeverWaits feed ↔ ¬ Doomed feed := by
  constructor
  · rintro hnever ⟨hjoins, hlive⟩
    cases hpoint : feed.call with
    | lock => exact hsound.waits_of_lock hpoint hlive hnever
    | sendSubscribe => exact hsound.waits_of_sendSubscribe hpoint hlive hnever
    | readAck => exact hsound.waits_of_readAck hpoint hlive hnever
    | join => exact hsound.waits_of_join hpoint hlive hnever
    | _ =>
        rw [hpoint] at hjoins
        exact hjoins
  · intro hfree actions final hactions hrun hwaiting
    induction actions generalizing feed with
    | nil =>
        obtain rfl : feed = final := by simpa using hrun
        exact hfree hwaiting.doomed
    | cons action actions ih =>
        obtain ⟨haction, hrest⟩ := List.forall_mem_cons.mp hactions
        obtain ⟨next, hstep, hrun⟩ := Machine.exists_of_run_cons hrun
        exact ih (hsound.keep _ _ _ hstep)
          (fun hdoomed =>
            hfree (hsound.doomed_before haction hstep hdoomed)) hrest hrun

end Sound

theorem Waiting.keep {feed next : Feed} {action : Action}
    (hwaiting : Waiting feed) (hsound : Sound feed)
    (hstep : machine.step feed action = some next) : Waiting next := by
  obtain ⟨hpoint, hlive, -⟩ := hwaiting
  have hnext : Sound next := hsound.keep _ _ _ hstep
  cases action with
  | io action =>
      obtain ⟨exchange, hexchange, rfl⟩ := Option.map_eq_some_iff.mp hstep
      obtain ⟨-, -, -, hreader, -⟩ := ReadLoop.ioStep_frame hexchange
      exact hnext.waiting hpoint (hreader ▸ hlive)
  | reader action =>
      obtain ⟨hcall, -, hafter⟩ := hsound.reader_live_iff hstep
      exact hnext.waiting (hcall.trans hpoint) hafter
  | connect =>
      simp only [machine, step, Option.ite_none_right_eq_some] at hstep
      obtain ⟨exchange, hexchange, rfl⟩ := Option.map_eq_some_iff.mp hstep.2
      simp only [State.ownerStep, Option.ite_none_right_eq_some,
        Option.some.injEq] at hexchange
      obtain ⟨-, rfl⟩ := hexchange
      exact hnext.waiting hpoint hlive
  | connected reached =>
      simp only [machine, step, Option.ite_none_right_eq_some] at hstep
      obtain ⟨exchange, hexchange, rfl⟩ := Option.map_eq_some_iff.mp hstep.2
      simp only [State.ownerStep, Option.ite_none_right_eq_some,
        Option.some.injEq] at hexchange
      obtain ⟨-, rfl⟩ := hexchange
      exact hnext.waiting hpoint hlive
  | lockRead =>
      simp only [machine, step, Option.ite_none_right_eq_some,
        Option.some.injEq] at hstep
      obtain ⟨-, rfl⟩ := hstep
      exact hnext.waiting hpoint hlive
  | join =>
      simp only [machine, step, Option.ite_none_right_eq_some] at hstep
      exact absurd hstep.1.2 hlive
  | setSymbols symbols =>
      simp only [machine, step, hpoint] at hstep
      split at hstep
      · simp at hstep
      · cases hstep
        exact hnext.waiting rfl hlive
  | subscribeSymbols =>
      simp only [machine, step, Option.ite_none_right_eq_some] at hstep
      have hidle := hsound.idle_of_run (by simp [hstep.1]) (by simp [hstep.1])
      rw [hpoint] at hidle
      cases hidle
  | _ => simp [machine, step, hpoint] at hstep

/-- A wait for the reader never ends. -/
theorem Waiting.always {feed : Feed} (hwaiting : Waiting feed)
    (hsound : Sound feed) : machine.Always Waiting feed := by
  have hkeep : ∀ state action next, Sound state ∧ Waiting state →
      machine.step state action = some next → Sound next ∧ Waiting next := by
    intro state action next hstate hstep
    exact ⟨hstate.1.keep _ _ _ hstep, hstate.2.keep hstate.1 hstep⟩
  exact Machine.always_of_invariant hkeep (fun _ hstate => hstate.2)
    ⟨hsound, hwaiting⟩

/-! ## Exactly when no call waits -/

/-- No call of a run waits for the reader, in the run or after it, exactly when
every test of `connected_` finds the flag clear or no reader in its loop. -/
theorem never_waits_iff (actions : List Action) :
    machine.Throughout NeverWaits machine.initial actions ↔
      machine.Along Harmless machine.initial actions := by
  refine Machine.throughout_iff_along Sound.keep ?_ sound_initial ?_
  · intro feed action hsound hnever
    rw [hsound.harmless_iff (hsound.neverWaits_iff.mp hnever)]
    refine forall_congr' fun next => forall_congr' fun hstep => ?_
    exact (hsound.keep _ _ _ hstep).neverWaits_iff.symm
  · exact sound_initial.neverWaits_iff.mpr fun hdoomed => hdoomed.1

/-- The first subscription finds no reader. -/
def firstCall : List Action :=
  [.setSymbols ["BTCUSDT"], .connect, .io .testRunning, .connected true,
    .subscribeSymbols, .testConnected, .lock, .sendSubscribe, .readAck, .join,
    .launch, .storeRunning]

/-- The reader is in a read when the second call comes, and waits for the mutex
of that call after it. -/
def secondCall : List Action :=
  [.reader .testRunning, .reader .testConnected, .lockRead,
    .setSymbols ["ETHUSDT"], .testConnected, .reader (.read true), .lock,
    .sendSubscribe, .readAck, .reader .testRunning, .reader .testConnected]

/-- The caller is at the join with the mutex held, and the reader at the
mutex. -/
def waiting : Feed where
  exchange := { ReadLoop.reading with symbols := ["ETHUSDT"] }
  symbols := ["ETHUSDT"]
  running := true
  run := .loop
  call := .join
  mutex := some .caller

theorem second_subscribe_waits :
    ¬ ∀ actions final, machine.run machine.initial actions = some final →
      ¬ Waiting final := by
  intro hclaim
  have hrun : machine.run machine.initial (firstCall ++ secondCall) =
      some waiting := rfl
  exact hclaim _ _ hrun ⟨rfl, id, .inl rfl⟩

end Datafeed.Resubscribe
