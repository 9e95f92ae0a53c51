import Datafeed.Core.Machine

/-!
# Switching the exchange feed

`live_source` keeps one adapter in `adapter_`.  A switch request sets
`current_exchange_` and starts a detached thread, which takes and clears
`adapter_`, tells the taken adapter to stop, creates a new one, stores it and
runs it.  The two accesses to `adapter_` are separate critical sections, so the
threads of several requests interleave between them.  `start` stores the first
adapter and launches a thread that reads `adapter_` and runs what it finds.
`run` is not one step either: it raises `running_` only when it has connected
and subscribed, and a `stop` before that is lost.

The listener is opened after `start` has returned, so requests follow `start`.
The part of a request between the assignment and the first critical section of
its thread touches no adapter and is not a step of its own.
-/

namespace Datafeed.LiveSource

inductive ExchangeType
  | binance
  | jupiter
  | birdeye
  deriving DecidableEq

/-- The name that `switch_exchange` assigns to `current_exchange_`. -/
def ExchangeType.name : ExchangeType → String
  | .binance => "BINANCE"
  | .jupiter => "JUPITER"
  | .birdeye => "BIRDEYE"

/-- `started` and `toldToStop` record that `run` was entered and that `stop`
was called; `running` is the flag `running_`. -/
structure EAdapter where
  exchangeType : ExchangeType
  symbols : List String
  started : Bool
  toldToStop : Bool
  running : Bool
  deriving DecidableEq

namespace EAdapter

def create (exchangeType : ExchangeType) (symbols : List String) : EAdapter :=
  ⟨exchangeType, symbols, false, false, false⟩

/-- `run` is entered, and is about to connect and to subscribe. -/
def run (adapter : EAdapter) : EAdapter := { adapter with started := true }

/-- What `run` does when it has subscribed, whatever `stop` did before. -/
def storeRunning (adapter : EAdapter) : EAdapter :=
  { adapter with running := true }

def stop (adapter : EAdapter) : EAdapter :=
  { adapter with toldToStop := true, running := false }

/-- What running an adapter leaves alone. -/
def Runs (change : EAdapter → EAdapter) : Prop :=
  ∀ adapter, (change adapter).exchangeType = adapter.exchangeType ∧
    (change adapter).toldToStop = adapter.toldToStop

theorem runs_run : Runs run := fun _ => ⟨rfl, rfl⟩

theorem runs_storeRunning : Runs storeRunning := fun _ => ⟨rfl, rfl⟩

theorem runs_id : Runs id := fun _ => ⟨rfl, rfl⟩

end EAdapter

/-- Where the detached thread of a switch request stands. -/
inductive Stage
  | requested
  /-- `adapter_` taken and cleared; the taken adapter is still to be stopped. -/
  | took (old : Option ℕ)
  | stopped
  | created (new : ℕ)
  | stored (new : ℕ)
  /-- `run` entered, `running_` is still to be raised. -/
  | entered (new : ℕ)
  /-- `running_` raised, or `run` left by an exception that the thread
  catches. -/
  | finished
  deriving DecidableEq

structure SwitchThread where
  exchangeType : ExchangeType
  symbols : List String
  stage : Stage
  deriving DecidableEq

/-- The thread launched by `start`. -/
inductive Launch
  | unstarted
  | spawned
  /-- It has read `adapter_` and is about to call `run`. -/
  | holding (adapter : ℕ)
  /-- `run` entered, `running_` is still to be raised. -/
  | entered (adapter : ℕ)
  | finished
  deriving DecidableEq

/-- Adapters are numbered in the order of their creation, switch threads in
the order of their requests. -/
structure State where
  currentExchange : String
  adapter : Option ℕ
  adapters : List EAdapter
  threads : List SwitchThread
  launch : Launch
  stopCalled : Bool
  deriving DecidableEq

inductive Action
  /-- `start` with the value of the environment variable `EXCHANGE`. -/
  | start (exchange : Option String)
  | launchRead
  | launchRun
  | launchStoreRunning
  | switchExchange (exchangeType : ExchangeType) (symbols : List String)
  | take (thread : ℕ)
  | stopTaken (thread : ℕ)
  | create (thread : ℕ)
  | store (thread : ℕ)
  | run (thread : ℕ)
  | storeRunning (thread : ℕ)
  /-- Connecting or subscribing throws. -/
  | runThrows (thread : ℕ)
  | stop
  deriving DecidableEq

/-- `stop` on the adapter a pointer leads to, if any. -/
def stopAdapter (adapters : List EAdapter) : Option ℕ → List EAdapter
  | none => adapters
  | some id => adapters.modify id EAdapter.stop

/-- Moves a switch thread to another stage. -/
def advance (threads : List SwitchThread) (thread : ℕ) (stage : Stage) :
    List SwitchThread :=
  threads.modify thread fun entry => { entry with stage := stage }

/-- The value `start` gives to `current_exchange_`. -/
def startExchange (exchange : Option String) : String :=
  match exchange with
  | some name => if name = "" then "BINANCE" else name
  | none => "BINANCE"

/-- The loop of `start` that applies `toupper` to each character. -/
def exUpper (name : String) : String :=
  String.ofList (name.toList.map Char.toUpper)

/-- The type `start` derives from it. -/
def startType (currentExchange : String) : ExchangeType :=
  if exUpper currentExchange = "JUPITER" then .jupiter
  else if exUpper currentExchange = "BIRDEYE" then .birdeye
  else .binance

def startSymbols (exchangeType : ExchangeType) : List String :=
  if exchangeType = .binance then ["BTCUSDT"] else ["BTC"]

def State.start (state : State) (exchange : Option String) : State :=
  let currentExchange := startExchange exchange
  let exchangeType := startType currentExchange
  { state with
    currentExchange := currentExchange
    adapter := some state.adapters.length
    adapters := state.adapters ++
      [EAdapter.create exchangeType (startSymbols exchangeType)]
    launch := .spawned }

def State.switchExchange (state : State) (exchangeType : ExchangeType)
    (symbols : List String) : State :=
  { state with
    currentExchange := exchangeType.name
    threads := state.threads ++ [⟨exchangeType, symbols, .requested⟩] }

def machine : Machine State Action where
  initial := ⟨"BINANCE", none, [], [], .unstarted, false⟩
  step state action :=
    match action with
    | .start exchange =>
        if state.launch = .unstarted then some (state.start exchange) else none
    | .launchRead =>
        if state.launch = .spawned then
          match state.adapter with
          | some adapter => some { state with launch := .holding adapter }
          | none => some { state with launch := .finished }
        else none
    | .launchRun =>
        match state.launch with
        | .holding id =>
            some { state with
              adapters := state.adapters.modify id EAdapter.run
              launch := .entered id }
        | _ => none
    | .launchStoreRunning =>
        match state.launch with
        | .entered id =>
            some { state with
              adapters := state.adapters.modify id EAdapter.storeRunning
              launch := .finished }
        | _ => none
    | .switchExchange exchangeType symbols =>
        if state.launch = .unstarted then none
        else some (state.switchExchange exchangeType symbols)
    | .take thread =>
        match state.threads[thread]? with
        | some ⟨_, _, .requested⟩ =>
            some { state with
              adapter := none
              threads := advance state.threads thread (.took state.adapter) }
        | _ => none
    | .stopTaken thread =>
        match state.threads[thread]? with
        | some ⟨_, _, .took old⟩ =>
            some { state with
              adapters := stopAdapter state.adapters old
              threads := advance state.threads thread .stopped }
        | _ => none
    | .create thread =>
        match state.threads[thread]? with
        | some ⟨exchangeType, symbols, .stopped⟩ =>
            some { state with
              adapters := state.adapters ++
                [EAdapter.create exchangeType symbols]
              threads := advance state.threads thread
                (.created state.adapters.length) }
        | _ => none
    | .store thread =>
        match state.threads[thread]? with
        | some ⟨_, _, .created new⟩ =>
            some { state with
              adapter := some new
              threads := advance state.threads thread (.stored new) }
        | _ => none
    | .run thread =>
        match state.threads[thread]? with
        | some ⟨_, _, .stored new⟩ =>
            some { state with
              adapters := state.adapters.modify new EAdapter.run
              threads := advance state.threads thread (.entered new) }
        | _ => none
    | .storeRunning thread =>
        match state.threads[thread]? with
        | some ⟨_, _, .entered new⟩ =>
            some { state with
              adapters := state.adapters.modify new EAdapter.storeRunning
              threads := advance state.threads thread .finished }
        | _ => none
    | .runThrows thread =>
        match state.threads[thread]? with
        | some ⟨_, _, .entered _⟩ =>
            some { state with
              threads := advance state.threads thread .finished }
        | _ => none
    | .stop =>
        some { state with
          adapter := none
          adapters := stopAdapter state.adapters state.adapter
          stopCalled := true }

/-! ## The exchange a name stands for -/

/-- The exchange a name stands for, in any case of letters, as `start` reads
it. -/
def exchangeNamed (name : String) : Option ExchangeType :=
  if exUpper name = "BINANCE" then some .binance
  else if exUpper name = "JUPITER" then some .jupiter
  else if exUpper name = "BIRDEYE" then some .birdeye
  else none

theorem startType_of_exchangeNamed {name : String}
    {exchangeType : ExchangeType}
    (hnamed : exchangeNamed name = some exchangeType) :
    startType name = exchangeType := by
  unfold exchangeNamed at hnamed
  unfold startType
  split at hnamed
  · next hbinance =>
      rw [hbinance]
      simpa using hnamed
  · split at hnamed
    · next hjupiter =>
        rw [if_pos hjupiter]
        simpa using hnamed
    · next hjupiter =>
        rw [if_neg hjupiter]
        split at hnamed
        · next hbirdeye =>
            rw [if_pos hbirdeye]
            simpa using hnamed
        · cases hnamed

/-! ## The property and the steps that keep it -/

namespace SwitchThread

/-- Between the taking of `adapter_` and the raising of `running_`. -/
def Switching (entry : SwitchThread) : Prop :=
  entry.stage ≠ .requested ∧ entry.stage ≠ .finished

instance (entry : SwitchThread) : Decidable entry.Switching :=
  inferInstanceAs (Decidable (_ ∧ _))

end SwitchThread

/-- Started and not told to stop, or with `running_` raised. -/
def EAdapter.Delivering (adapter : EAdapter) : Prop :=
  (adapter.started = true ∧ adapter.toldToStop = false) ∨ adapter.running = true

namespace State

/-- Every adapter that is started and not told to stop is the stored one. -/
def StartedIsStored (state : State) : Prop :=
  ∀ (id : ℕ) (adapter : EAdapter), state.adapters[id]? = some adapter →
    adapter.started = true → adapter.toldToStop = false →
      state.adapter = some id

def AtMostOneFeed (state : State) : Prop :=
  ∀ (id other : ℕ) (adapter otherAdapter : EAdapter),
    state.adapters[id]? = some adapter →
    state.adapters[other]? = some otherAdapter → adapter.Delivering →
      otherAdapter.Delivering → id = other

/-- No switch in progress. -/
def Settled (state : State) : Prop :=
  ∀ entry ∈ state.threads, entry.stage = .finished

/-- When no switch is in progress, the type of the stored adapter is the
exchange named by `current_exchange_`, and there is one until `stop`. -/
def LastRequestWins (state : State) : Prop :=
  state.Settled →
    (∀ (id : ℕ) (adapter : EAdapter), state.adapter = some id →
      state.adapters[id]? = some adapter →
        exchangeNamed state.currentExchange = some adapter.exchangeType) ∧
    (state.launch ≠ .unstarted → state.stopCalled = false →
      ∃ id, state.adapter = some id)

/-- One feed, the stored one, of the exchange requested last. -/
structure SingleFeed (state : State) : Prop where
  stored : state.StartedIsStored
  unique : state.AtMostOneFeed
  lastRequest : state.LastRequestWins

/-- A switch thread stands between its taking of a started adapter and its
call of `stop` on it. -/
def HandingOver (state : State) : Prop :=
  ∃ entry ∈ state.threads, ∃ id adapter, entry.stage = .took (some id) ∧
    state.adapters[id]? = some adapter ∧ adapter.started = true

end State

/-- The condition on a step.  `EXCHANGE` is unset, empty or the name of an
exchange.  A switch thread takes `adapter_` while no other thread is between
taking (or reading) it and raising `running_`, and the last thread to do so was
requested with the exchange that `current_exchange_` names.  `stop` does not
fall between a thread's storing (or reading) of an adapter and its raising of
`running_`. -/
def Undisturbed (state : State) : Action → Prop
  | .start exchange =>
      ∃ exchangeType,
        exchangeNamed (startExchange exchange) = some exchangeType
  | .take thread =>
      (∀ (other : ℕ) (entry : SwitchThread),
        state.threads[other]? = some entry → other ≠ thread →
        ¬ entry.Switching) ∧
      (∀ id, state.launch ≠ .holding id ∧ state.launch ≠ .entered id) ∧
      ((∀ (other : ℕ) (entry : SwitchThread),
        state.threads[other]? = some entry → other ≠ thread →
        entry.stage ≠ .requested) →
          ∀ entry, state.threads[thread]? = some entry →
            exchangeNamed state.currentExchange = some entry.exchangeType)
  | .stop =>
      (∀ entry ∈ state.threads, ∀ id,
        entry.stage ≠ .stored id ∧ entry.stage ≠ .entered id) ∧
        ∀ id, state.launch ≠ .holding id ∧ state.launch ≠ .entered id
  | _ => True

/-! ## The adapter that may deliver -/

/-- No adapter delivers but the one `feed` names, which is not told to stop. -/
structure Feed (adapters : List EAdapter) (feed : Option ℕ) : Prop where
  only : ∀ (id : ℕ) (adapter : EAdapter), adapters[id]? = some adapter →
    adapter.Delivering → feed = some id
  kept : ∀ id, feed = some id →
    ∃ adapter, adapters[id]? = some adapter ∧ adapter.toldToStop = false

namespace Feed

variable {adapters : List EAdapter} {feed : Option ℕ} {id : ℕ}

theorem nil : Feed [] none where
  only id adapter hadapter := by simp at hadapter
  kept id hnone := by cases hnone

theorem append (hfeed : Feed adapters feed) (exchangeType : ExchangeType)
    (symbols : List String) :
    Feed (adapters ++ [EAdapter.create exchangeType symbols]) feed where
  only id adapter hadapter hdelivering := by
    rw [List.getElem?_append] at hadapter
    split at hadapter
    · exact hfeed.only id adapter hadapter hdelivering
    · have hcreated := List.mem_of_getElem? hadapter
      rw [List.mem_singleton.mp hcreated] at hdelivering
      simp [EAdapter.Delivering, EAdapter.create] at hdelivering
  kept id hid := by
    obtain ⟨adapter, hadapter, htold⟩ := hfeed.kept id hid
    have hbound := (List.getElem?_eq_some_iff.mp hadapter).1
    exact ⟨adapter, by rwa [List.getElem?_append_left hbound], htold⟩

theorem assign (hfeed : Feed adapters none) {adapter : EAdapter}
    (hadapter : adapters[id]? = some adapter)
    (htold : adapter.toldToStop = false) : Feed adapters (some id) where
  only other otherAdapter hother hdelivering := by
    cases hfeed.only other otherAdapter hother hdelivering
  kept other hsame := by
    cases hsame
    exact ⟨adapter, hadapter, htold⟩

theorem stop (hfeed : Feed adapters feed) :
    Feed (stopAdapter adapters feed) none where
  only other adapter hadapter hdelivering := by
    cases feed with
    | none => exact hfeed.only other adapter hadapter hdelivering
    | some id =>
        rw [stopAdapter, List.getElem?_modify] at hadapter
        by_cases hsame : id = other
        · rcases hfeed.kept id rfl with ⟨before, hbefore, -⟩
          rw [← hsame, hbefore] at hadapter
          have hstopped : before.stop = adapter := by simpa using hadapter
          rw [← hstopped] at hdelivering
          simp [EAdapter.Delivering, EAdapter.stop] at hdelivering
        · have hbefore : adapters[other]? = some adapter := by
            simpa [hsame] using hadapter
          cases hfeed.only other adapter hbefore hdelivering
          exact absurd rfl hsame
  kept other hnone := by cases hnone

/-- Running the adapter that may deliver, which does not undo a `stop`. -/
theorem modify (hfeed : Feed adapters (some id)) {change : EAdapter → EAdapter}
    (hruns : EAdapter.Runs change) :
    Feed (adapters.modify id change) (some id) where
  only other adapter hadapter hdelivering := by
    by_cases hsame : id = other
    · rw [hsame]
    · rw [List.getElem?_modify] at hadapter
      have hbefore : adapters[other]? = some adapter := by
        simpa [hsame] using hadapter
      exact hfeed.only other adapter hbefore hdelivering
  kept other hsame := by
    cases hsame
    obtain ⟨adapter, hadapter, htold⟩ := hfeed.kept id rfl
    exact ⟨change adapter, by simp [hadapter], (hruns adapter).2.trans htold⟩

theorem atMostOne (hfeed : Feed adapters feed) {other : ℕ}
    {adapter otherAdapter : EAdapter} (hadapter : adapters[id]? = some adapter)
    (hother : adapters[other]? = some otherAdapter)
    (hdelivering : adapter.Delivering)
    (hotherDelivering : otherAdapter.Delivering) : id = other := by
  have hfirst := hfeed.only id adapter hadapter hdelivering
  have hsecond := hfeed.only other otherAdapter hother hotherDelivering
  exact Option.some.inj (hfirst.symm.trans hsecond)

end Feed

/-! ## Quiet states and states with one switch under way -/

/-- A requested switch has not taken `adapter_` yet. -/
def Waiting (threads : List SwitchThread) : Prop :=
  ∃ entry ∈ threads, entry.stage = .requested

structure Quiet (state : State) : Prop where
  idle : ∀ (thread : ℕ) (entry : SwitchThread),
    state.threads[thread]? = some entry → ¬ entry.Switching
  feed : Feed state.adapters state.adapter
  current : ¬ Waiting state.threads →
    ∀ (id : ℕ) (adapter : EAdapter), state.adapter = some id →
      state.adapters[id]? = some adapter →
        exchangeNamed state.currentExchange = some adapter.exchangeType
  provided : state.launch ≠ .unstarted → state.stopCalled = false →
    ∃ id, state.adapter = some id

/-- What the stage of the only switching thread says about the adapters. -/
def Handover (state : State) (entry : SwitchThread) : Prop :=
  match entry.stage with
  | .requested | .finished => False
  | .took old => state.adapter = none ∧ Feed state.adapters old
  | .stopped => state.adapter = none ∧ Feed state.adapters none
  | .created new =>
      state.adapter = none ∧ Feed state.adapters none ∧
        ∃ adapter, state.adapters[new]? = some adapter ∧
          adapter.exchangeType = entry.exchangeType ∧
          adapter.toldToStop = false
  | .stored new | .entered new =>
      state.adapter = some new ∧ Feed state.adapters (some new) ∧
        ∃ adapter, state.adapters[new]? = some adapter ∧
          adapter.exchangeType = entry.exchangeType

structure Busy (state : State) (thread : ℕ) (entry : SwitchThread) : Prop where
  entryAt : state.threads[thread]? = some entry
  alone : ∀ (other : ℕ) (otherEntry : SwitchThread),
    state.threads[other]? = some otherEntry → otherEntry.Switching →
      other = thread
  handover : Handover state entry
  current : ¬ Waiting state.threads →
    exchangeNamed state.currentExchange = some entry.exchangeType

structure Invariant (state : State) : Prop where
  situation : Quiet state ∨ ∃ thread entry, Busy state thread entry
  holding : ∀ id, state.launch = .holding id ∨ state.launch = .entered id →
    state.adapter = some id
  unstarted : state.launch = .unstarted →
    state.adapter = none ∧ state.adapters = [] ∧ state.threads = []

theorem invariant_initial : Invariant machine.initial where
  situation := by
    apply Or.inl
    constructor
    · simp [machine]
    · exact Feed.nil
    · simp [machine]
    · simp [machine]
  holding id hholding := by simp [machine] at hholding
  unstarted _ := ⟨rfl, rfl, rfl⟩

/-! ### Moving one thread -/

theorem getElem?_advance_self {threads : List SwitchThread} {thread : ℕ}
    {entry : SwitchThread} (hentry : threads[thread]? = some entry)
    (stage : Stage) :
    (advance threads thread stage)[thread]? =
      some { entry with stage := stage } := by
  simp [advance, hentry]

theorem getElem?_advance_of_ne {threads : List SwitchThread}
    {thread other : ℕ} (hne : other ≠ thread) (stage : Stage) :
    (advance threads thread stage)[other]? = threads[other]? := by
  simp [advance, hne.symm]

/-- A thread that waits after another one has moved waited before. -/
theorem waiting_of_other {threads : List SwitchThread} {thread other : ℕ}
    {entry : SwitchThread} {stage : Stage} (hne : other ≠ thread)
    (hentry : threads[other]? = some entry) (hstage : entry.stage = .requested) :
    Waiting (advance threads thread stage) := by
  rw [← getElem?_advance_of_ne hne stage] at hentry
  exact ⟨entry, List.mem_of_getElem? hentry, hstage⟩

theorem waiting_advance {threads : List SwitchThread} {thread : ℕ}
    {entry : SwitchThread} (hentry : threads[thread]? = some entry)
    (hstage : entry.stage ≠ .requested) {stage : Stage}
    (hwaiting : Waiting threads) : Waiting (advance threads thread stage) := by
  obtain ⟨waiting, hmem, hrequested⟩ := hwaiting
  obtain ⟨other, hother⟩ := List.mem_iff_getElem?.mp hmem
  have hne : other ≠ thread := by
    intro hsame
    rw [hsame, hentry] at hother
    cases hother
    exact hstage hrequested
  exact waiting_of_other hne hother hrequested

theorem Busy.eq_of_switching {state : State} {thread other : ℕ}
    {entry otherEntry : SwitchThread} (hbusy : Busy state thread entry)
    (hother : state.threads[other]? = some otherEntry)
    (hswitching : otherEntry.Switching) :
    other = thread ∧ otherEntry = entry := by
  have hsame := hbusy.alone other otherEntry hother hswitching
  rw [hsame, hbusy.entryAt] at hother
  exact ⟨hsame, (Option.some.inj hother).symm⟩

theorem Invariant.busy {state : State} (hinv : Invariant state) {thread : ℕ}
    {entry : SwitchThread} (hentry : state.threads[thread]? = some entry)
    (hswitching : entry.Switching) : Busy state thread entry := by
  rcases hinv.situation with hquiet | ⟨other, otherEntry, hbusy⟩
  · exact absurd hswitching (hquiet.idle thread entry hentry)
  · have hsame := hbusy.eq_of_switching hentry hswitching
    rw [hsame.1, hsame.2]
    exact hbusy

theorem Busy.unstarted_ne {state : State} {thread : ℕ} {entry : SwitchThread}
    (hinv : Invariant state) (hbusy : Busy state thread entry) :
    state.launch ≠ .unstarted := by
  intro hunstarted
  have hentry := hbusy.entryAt
  rw [(hinv.unstarted hunstarted).2.2] at hentry
  cases hentry

/-- The switching thread moves on to a stage that keeps the hand-over. -/
theorem Invariant.advance {state next : State} (hinv : Invariant state)
    {thread : ℕ} {entry : SwitchThread} (hbusy : Busy state thread entry)
    {stage : Stage} (hthreads : next.threads = advance state.threads thread stage)
    (hexchange : next.currentExchange = state.currentExchange)
    (hlaunch : next.launch = state.launch)
    (hhandover : Handover next { entry with stage := stage })
    (hadapter : ∀ id, state.adapter = some id → next.adapter = some id) :
    Invariant next where
  situation := by
    apply Or.inr
    refine ⟨thread, { entry with stage := stage }, ?_, ?_, hhandover, ?_⟩
    · rw [hthreads]
      exact getElem?_advance_self hbusy.entryAt stage
    · intro other otherEntry hother hotherSwitching
      by_contra hne
      rw [hthreads, getElem?_advance_of_ne hne] at hother
      exact hne (hbusy.alone other otherEntry hother hotherSwitching)
    · intro hwaiting
      rw [hexchange]
      apply hbusy.current
      intro hbefore
      apply hwaiting
      rw [hthreads]
      apply waiting_advance hbusy.entryAt _ hbefore
      intro hstage
      have hhandover := hbusy.handover
      rw [Handover, hstage] at hhandover
      exact hhandover
  holding id hholding := by
    rw [hlaunch] at hholding
    exact hadapter id (hinv.holding id hholding)
  unstarted hunstarted := by
    rw [hlaunch] at hunstarted
    exact absurd hunstarted (hbusy.unstarted_ne hinv)

theorem Invariant.take {state : State} (hinv : Invariant state) {thread : ℕ}
    {entry : SwitchThread} (hentry : state.threads[thread]? = some entry)
    (hstage : entry.stage = .requested)
    (hcondition : Undisturbed state (.take thread)) :
    Invariant { state with
      adapter := none
      threads := LiveSource.advance state.threads thread
        (.took state.adapter) } where
  situation := by
    obtain ⟨hfree, -, hlast⟩ := hcondition
    have hidle : ∀ (other : ℕ) (otherEntry : SwitchThread),
        state.threads[other]? = some otherEntry → ¬ otherEntry.Switching := by
      intro other otherEntry hother
      by_cases hsame : other = thread
      · rw [hsame, hentry] at hother
        cases hother
        exact fun hswitching => hswitching.1 hstage
      · exact hfree other otherEntry hother hsame
    have hquiet : Quiet state := by
      rcases hinv.situation with hquiet | ⟨other, otherEntry, hbusy⟩
      · exact hquiet
      · exfalso
        have hnot := hidle other otherEntry hbusy.entryAt
        have hhandover := hbusy.handover
        apply hnot
        constructor <;> intro hotherStage <;>
          simp [Handover, hotherStage] at hhandover
    apply Or.inr
    refine ⟨thread, { entry with stage := .took state.adapter }, ?_, ?_, ?_, ?_⟩
    · exact getElem?_advance_self hentry _
    · intro other otherEntry hother hswitching
      by_contra hne
      rw [getElem?_advance_of_ne hne] at hother
      exact hfree other otherEntry hother hne hswitching
    · exact ⟨rfl, hquiet.feed⟩
    · intro hwaiting
      apply hlast _ entry hentry
      intro other otherEntry hother hne hrequested
      exact hwaiting (waiting_of_other hne hother hrequested)
  holding id hholding :=
    absurd hholding (not_or_intro (hcondition.2.1 id).1 (hcondition.2.1 id).2)
  unstarted hunstarted := by
    rw [(hinv.unstarted hunstarted).2.2] at hentry
    cases hentry

theorem Invariant.stopTaken {state : State} (hinv : Invariant state)
    {thread : ℕ} {entry : SwitchThread} {old : Option ℕ}
    (hentry : state.threads[thread]? = some entry)
    (hstage : entry.stage = .took old) :
    Invariant { state with
      adapters := stopAdapter state.adapters old
      threads := LiveSource.advance state.threads thread .stopped } := by
  have hbusy := hinv.busy hentry (by simp [SwitchThread.Switching, hstage])
  have hhandover := hbusy.handover
  simp only [Handover, hstage] at hhandover
  exact hinv.advance hbusy rfl rfl rfl
    ⟨hhandover.1, hhandover.2.stop⟩ (fun id hid => hid)

theorem Invariant.create {state : State} (hinv : Invariant state)
    {thread : ℕ} {entry : SwitchThread}
    (hentry : state.threads[thread]? = some entry)
    (hstage : entry.stage = .stopped) :
    Invariant { state with
      adapters := state.adapters ++
        [EAdapter.create entry.exchangeType entry.symbols]
      threads := LiveSource.advance state.threads thread
        (.created state.adapters.length) } := by
  have hbusy := hinv.busy hentry (by simp [SwitchThread.Switching, hstage])
  have hhandover := hbusy.handover
  simp only [Handover, hstage] at hhandover
  refine hinv.advance hbusy rfl rfl rfl ?_ (fun id hid => hid)
  refine ⟨hhandover.1, hhandover.2.append _ _, ?_⟩
  exact ⟨EAdapter.create entry.exchangeType entry.symbols, by simp, rfl, rfl⟩

theorem Invariant.store {state : State} (hinv : Invariant state)
    {thread : ℕ} {entry : SwitchThread} {new : ℕ}
    (hentry : state.threads[thread]? = some entry)
    (hstage : entry.stage = .created new) :
    Invariant { state with
      adapter := some new
      threads := LiveSource.advance state.threads thread (.stored new) } := by
  have hbusy := hinv.busy hentry (by simp [SwitchThread.Switching, hstage])
  have hhandover := hbusy.handover
  simp only [Handover, hstage] at hhandover
  obtain ⟨hnone, hfeed, adapter, hadapter, htype, htold⟩ := hhandover
  refine hinv.advance hbusy rfl rfl rfl ?_ ?_
  · exact ⟨rfl, hfeed.assign hadapter htold, adapter, hadapter, htype⟩
  · intro id hid
    cases hnone.symm.trans hid

/-- Running an adapter keeps the types of the adapters. -/
theorem getElem?_runs {adapters : List EAdapter} {id other : ℕ}
    {adapter : EAdapter} {change : EAdapter → EAdapter}
    (hruns : EAdapter.Runs change)
    (hadapter : (adapters.modify id change)[other]? = some adapter) :
    ∃ before, adapters[other]? = some before ∧
      adapter.exchangeType = before.exchangeType := by
  rw [List.getElem?_modify] at hadapter
  obtain ⟨before, hbefore, rfl⟩ := Option.map_eq_some_iff.mp hadapter
  refine ⟨before, hbefore, ?_⟩
  split
  · exact (hruns before).1
  · rfl

theorem Invariant.run {state : State} (hinv : Invariant state)
    {thread : ℕ} {entry : SwitchThread} {new : ℕ}
    (hentry : state.threads[thread]? = some entry)
    (hstage : entry.stage = .stored new) :
    Invariant { state with
      adapters := state.adapters.modify new EAdapter.run
      threads := LiveSource.advance state.threads thread (.entered new) } := by
  have hbusy := hinv.busy hentry (by simp [SwitchThread.Switching, hstage])
  have hhandover := hbusy.handover
  simp only [Handover, hstage] at hhandover
  obtain ⟨hadapter, hfeed, stored, hstored, htype⟩ := hhandover
  refine hinv.advance hbusy rfl rfl rfl ?_ (fun id hid => hid)
  exact ⟨hadapter, hfeed.modify EAdapter.runs_run, stored.run,
    by simp [hstored], htype⟩

/-- The thread of a switch leaves the steps of `run`, whether it has raised
`running_` or caught an exception. -/
theorem Invariant.finish {state : State} (hinv : Invariant state)
    {thread : ℕ} {entry : SwitchThread} {new : ℕ}
    (hentry : state.threads[thread]? = some entry)
    (hstage : entry.stage = .entered new) {change : EAdapter → EAdapter}
    (hruns : EAdapter.Runs change) :
    Invariant { state with
      adapters := state.adapters.modify new change
      threads := LiveSource.advance state.threads thread .finished } where
  situation := by
    have hbusy := hinv.busy hentry (by simp [SwitchThread.Switching, hstage])
    have hhandover := hbusy.handover
    simp only [Handover, hstage] at hhandover
    obtain ⟨hadapter, hfeed, stored, hstored, htype⟩ := hhandover
    apply Or.inl
    constructor
    · intro other otherEntry hother hswitching
      by_cases hsame : other = thread
      · rw [hsame, getElem?_advance_self hentry] at hother
        cases hother
        exact hswitching.2 rfl
      · rw [getElem?_advance_of_ne hsame] at hother
        exact hsame (hbusy.alone other otherEntry hother hswitching)
    · rw [hadapter]
      exact hfeed.modify hruns
    · intro hwaiting id adapter hid hadapter'
      rw [hadapter] at hid
      cases hid
      obtain ⟨before, hbefore, hsame⟩ := getElem?_runs hruns hadapter'
      rw [hstored] at hbefore
      cases hbefore
      rw [hsame, htype]
      apply hbusy.current
      intro hbefore
      exact hwaiting (waiting_advance hentry (by simp [hstage]) hbefore)
    · exact fun _ _ => ⟨new, hadapter⟩
  holding id hholding := hinv.holding id hholding
  unstarted hunstarted := by
    rw [(hinv.unstarted hunstarted).2.2] at hentry
    cases hentry

theorem Invariant.start {state : State} (hinv : Invariant state)
    (hunstarted : state.launch = .unstarted) {exchange : Option String}
    (hcondition : Undisturbed state (.start exchange)) :
    Invariant (state.start exchange) where
  situation := by
    obtain ⟨hadapter, hadapters, hthreads⟩ := hinv.unstarted hunstarted
    obtain ⟨exchangeType, hnamed⟩ := hcondition
    apply Or.inl
    constructor
    · simp [State.start, hthreads]
    · have hcreated := Feed.nil.append
        (startType (startExchange exchange))
        (startSymbols (startType (startExchange exchange)))
      simp only [State.start, hadapters]
      exact hcreated.assign rfl rfl
    · intro _ id adapter hid hadapter
      simp only [State.start, hadapters] at hid hadapter
      cases hid
      cases hadapter
      simp only [State.start, EAdapter.create]
      rw [startType_of_exchangeNamed hnamed, hnamed]
    · exact fun _ _ => ⟨_, rfl⟩
  holding id hholding := by
    rcases hholding with hholding | hentered
    · cases hholding
    · cases hentered
  unstarted hlaunch := by cases hlaunch

theorem Invariant.switchExchange {state : State} (hinv : Invariant state)
    (hstarted : state.launch ≠ .unstarted) (exchangeType : ExchangeType)
    (symbols : List String) :
    Invariant (state.switchExchange exchangeType symbols) where
  situation := by
    have hwaiting : Waiting
        (state.switchExchange exchangeType symbols).threads :=
      ⟨⟨exchangeType, symbols, .requested⟩,
        List.mem_append_right _ (List.mem_singleton_self _), rfl⟩
    have hearlier : ∀ (thread : ℕ) (entry : SwitchThread),
        (state.switchExchange exchangeType symbols).threads[thread]? =
          some entry → entry.Switching →
          state.threads[thread]? = some entry := by
      intro thread entry hentry hswitching
      rw [State.switchExchange, List.getElem?_append] at hentry
      split at hentry
      · exact hentry
      · have hnew := List.mem_singleton.mp (List.mem_of_getElem? hentry)
        rw [hnew] at hswitching
        exact absurd rfl hswitching.1
    rcases hinv.situation with hquiet | ⟨thread, entry, hbusy⟩
    · apply Or.inl
      constructor
      · intro thread entry hentry hswitching
        have hbefore := hearlier thread entry hentry hswitching
        exact hquiet.idle thread entry hbefore hswitching
      · exact hquiet.feed
      · exact fun hnot => absurd hwaiting hnot
      · exact hquiet.provided
    · apply Or.inr
      refine ⟨thread, entry, ?_, ?_, hbusy.handover, ?_⟩
      · have hbound := (List.getElem?_eq_some_iff.mp hbusy.entryAt).1
        rw [State.switchExchange, List.getElem?_append_left hbound]
        exact hbusy.entryAt
      · intro other otherEntry hother hswitching
        exact hbusy.alone other otherEntry
          (hearlier other otherEntry hother hswitching) hswitching
      · exact fun hnot => absurd hwaiting hnot
  holding := hinv.holding
  unstarted hunstarted := absurd hunstarted hstarted

theorem Invariant.launchRead {state : State} (hinv : Invariant state)
    {launch : Launch} (hlaunch : launch ≠ .unstarted)
    (hstarted : state.launch ≠ .unstarted)
    (hholding : ∀ id, launch = .holding id ∨ launch = .entered id →
      state.adapter = some id) :
    Invariant { state with launch := launch } where
  situation := by
    rcases hinv.situation with hquiet | ⟨thread, entry, hbusy⟩
    · exact Or.inl ⟨hquiet.idle, hquiet.feed, hquiet.current,
        fun _ => hquiet.provided hstarted⟩
    · exact Or.inr ⟨thread, entry, hbusy.entryAt, hbusy.alone,
        hbusy.handover, hbusy.current⟩
  holding := hholding
  unstarted hunstarted := absurd hunstarted hlaunch

/-- A step of `run` in the thread that `start` launched. -/
theorem Invariant.launchRun {state : State} (hinv : Invariant state) {id : ℕ}
    (hlaunch : state.launch = .holding id ∨ state.launch = .entered id)
    {change : EAdapter → EAdapter} (hruns : EAdapter.Runs change)
    {launch : Launch} (hstarted : launch ≠ .unstarted)
    (hsame : ∀ other, launch = .holding other ∨ launch = .entered other →
      other = id) :
    Invariant { state with
      adapters := state.adapters.modify id change
      launch := launch } where
  situation := by
    have hadapter := hinv.holding id hlaunch
    rcases hinv.situation with hquiet | ⟨thread, entry, hbusy⟩
    · apply Or.inl
      constructor
      · exact hquiet.idle
      · have hfeed := hquiet.feed
        rw [hadapter] at hfeed
        simp only [hadapter]
        exact hfeed.modify hruns
      · intro hwaiting other adapter hother hadapter'
        obtain ⟨before, hbefore, hsame⟩ := getElem?_runs hruns hadapter'
        rw [hsame]
        exact hquiet.current hwaiting other before hother hbefore
      · exact fun _ _ => ⟨id, hadapter⟩
    · apply Or.inr
      refine ⟨thread, entry, hbusy.entryAt, hbusy.alone, ?_, hbusy.current⟩
      have hhandover := hbusy.handover
      cases hstage : entry.stage with
      | requested => simp [Handover, hstage] at hhandover
      | took old => simp [Handover, hstage, hadapter] at hhandover
      | stopped => simp [Handover, hstage, hadapter] at hhandover
      | created new => simp [Handover, hstage, hadapter] at hhandover
      | finished => simp [Handover, hstage] at hhandover
      | stored new | entered new =>
          simp only [Handover, hstage] at hhandover ⊢
          obtain ⟨hnew, hfeed, stored, hstored, htype⟩ := hhandover
          rw [hadapter] at hnew
          cases hnew
          exact ⟨hadapter, hfeed.modify hruns, change stored,
            by simp [hstored], (hruns stored).1.trans htype⟩
  holding other hother := by
    rw [hsame other hother]
    exact hinv.holding id hlaunch
  unstarted hunstarted := absurd hunstarted hstarted

theorem Invariant.stop {state : State} (hinv : Invariant state)
    (hcondition : Undisturbed state .stop) :
    Invariant { state with
      adapter := none
      adapters := stopAdapter state.adapters state.adapter
      stopCalled := true } where
  situation := by
    rcases hinv.situation with hquiet | ⟨thread, entry, hbusy⟩
    · apply Or.inl
      constructor
      · exact hquiet.idle
      · exact hquiet.feed.stop
      · intro _ id adapter hnone
        cases hnone
      · intro _ hstopped
        cases hstopped
    · apply Or.inr
      refine ⟨thread, entry, hbusy.entryAt, hbusy.alone, ?_, hbusy.current⟩
      have hhandover := hbusy.handover
      have hmem := List.mem_of_getElem? hbusy.entryAt
      cases hstage : entry.stage with
      | requested => simp [Handover, hstage] at hhandover
      | finished => simp [Handover, hstage] at hhandover
      | stored new => exact absurd hstage (hcondition.1 entry hmem new).1
      | entered new => exact absurd hstage (hcondition.1 entry hmem new).2
      | took old =>
          simp only [Handover, hstage] at hhandover ⊢
          rw [hhandover.1]
          exact ⟨trivial, hhandover.2⟩
      | stopped =>
          simp only [Handover, hstage] at hhandover ⊢
          rw [hhandover.1]
          exact ⟨trivial, hhandover.2⟩
      | created new =>
          simp only [Handover, hstage] at hhandover ⊢
          rw [hhandover.1]
          exact ⟨trivial, hhandover.2⟩
  holding id hholding :=
    absurd hholding (not_or_intro (hcondition.2 id).1 (hcondition.2 id).2)
  unstarted hunstarted := by
    obtain ⟨hadapter, hadapters, hthreads⟩ := hinv.unstarted hunstarted
    exact ⟨rfl, by rw [hadapter]; exact hadapters, hthreads⟩

theorem invariant_step {state next : State} {action : Action}
    (hinv : Invariant state) (hcondition : Undisturbed state action)
    (hstep : machine.step state action = some next) : Invariant next := by
  cases action with
  | start exchange =>
      simp only [machine] at hstep
      split at hstep
      · next hunstarted =>
          cases hstep
          exact hinv.start hunstarted hcondition
      · cases hstep
  | launchRead =>
      simp only [machine] at hstep
      split at hstep
      · next hspawned =>
          have hstarted : state.launch ≠ .unstarted := by simp [hspawned]
          split at hstep
          · next id hadapter =>
              cases hstep
              apply hinv.launchRead (by simp) hstarted
              rintro other (hholding | hentered)
              · cases hholding
                exact hadapter
              · cases hentered
          · cases hstep
            exact hinv.launchRead (by simp) hstarted (by simp)
      · cases hstep
  | launchRun =>
      simp only [machine] at hstep
      split at hstep
      · next id hholding =>
          cases hstep
          exact hinv.launchRun (.inl hholding) EAdapter.runs_run (by simp)
            (by simp)
      · cases hstep
  | launchStoreRunning =>
      simp only [machine] at hstep
      split at hstep
      · next id hentered =>
          cases hstep
          exact hinv.launchRun (.inr hentered) EAdapter.runs_storeRunning
            (by simp) (by simp)
      · cases hstep
  | switchExchange exchangeType symbols =>
      simp only [machine] at hstep
      split at hstep
      · cases hstep
      · next hstarted =>
          cases hstep
          exact hinv.switchExchange hstarted exchangeType symbols
  | take thread =>
      simp only [machine] at hstep
      split at hstep
      · next hentry =>
          cases hstep
          exact hinv.take hentry rfl hcondition
      · cases hstep
  | stopTaken thread =>
      simp only [machine] at hstep
      split at hstep
      · next hentry =>
          cases hstep
          exact hinv.stopTaken hentry rfl
      · cases hstep
  | create thread =>
      simp only [machine] at hstep
      split at hstep
      · next hentry =>
          cases hstep
          exact hinv.create hentry rfl
      · cases hstep
  | store thread =>
      simp only [machine] at hstep
      split at hstep
      · next hentry =>
          cases hstep
          exact hinv.store hentry rfl
      · cases hstep
  | run thread =>
      simp only [machine] at hstep
      split at hstep
      · next hentry =>
          cases hstep
          exact hinv.run hentry rfl
      · cases hstep
  | storeRunning thread =>
      simp only [machine] at hstep
      split at hstep
      · next hentry =>
          cases hstep
          exact hinv.finish hentry rfl EAdapter.runs_storeRunning
      · cases hstep
  | runThrows thread =>
      simp only [machine] at hstep
      split at hstep
      · next hentry =>
          cases hstep
          have hfinished := hinv.finish hentry rfl EAdapter.runs_id
          rwa [List.modify_id] at hfinished
      · cases hstep
  | stop =>
      cases hstep
      exact hinv.stop hcondition

theorem invariant_of_run {actions : List Action} {state : State}
    (hundisturbed : machine.Along Undisturbed machine.initial actions)
    (hrun : machine.run machine.initial actions = some state) :
    Invariant state :=
  Machine.invariant_along
    (fun _ _ _ hinv hcondition hstep => invariant_step hinv hcondition hstep)
    invariant_initial hundisturbed hrun

/-! ## One feed, of the exchange requested last -/

theorem Busy.exists_feed {state : State} {thread : ℕ} {entry : SwitchThread}
    (hbusy : Busy state thread entry) : ∃ feed, Feed state.adapters feed := by
  have hhandover := hbusy.handover
  cases hstage : entry.stage with
  | requested => simp [Handover, hstage] at hhandover
  | finished => simp [Handover, hstage] at hhandover
  | took old =>
      simp only [Handover, hstage] at hhandover
      exact ⟨old, hhandover.2⟩
  | stopped =>
      simp only [Handover, hstage] at hhandover
      exact ⟨none, hhandover.2⟩
  | created new =>
      simp only [Handover, hstage] at hhandover
      exact ⟨none, hhandover.2.1⟩
  | stored new | entered new =>
      simp only [Handover, hstage] at hhandover
      exact ⟨some new, hhandover.2.1⟩

theorem Invariant.atMostOneFeed {state : State} (hinv : Invariant state) :
    state.AtMostOneFeed := by
  have hexists : ∃ feed, Feed state.adapters feed := by
    rcases hinv.situation with hquiet | ⟨thread, entry, hbusy⟩
    · exact ⟨state.adapter, hquiet.feed⟩
    · exact hbusy.exists_feed
  obtain ⟨feed, hfeed⟩ := hexists
  intro id other adapter otherAdapter hadapter hother hfirst hsecond
  exact hfeed.atMostOne hadapter hother hfirst hsecond

theorem Busy.switching {state : State} {thread : ℕ} {entry : SwitchThread}
    (hbusy : Busy state thread entry) : entry.Switching := by
  have hhandover := hbusy.handover
  constructor <;> intro hstage <;> simp [Handover, hstage] at hhandover

theorem Invariant.lastRequestWins {state : State} (hinv : Invariant state) :
    state.LastRequestWins := by
  intro hsettled
  rcases hinv.situation with hquiet | ⟨thread, entry, hbusy⟩
  · have hwaiting : ¬ Waiting state.threads := by
      rintro ⟨entry, hmem, hrequested⟩
      cases (hsettled entry hmem).symm.trans hrequested
    exact ⟨hquiet.current hwaiting, hquiet.provided⟩
  · have hmem := List.mem_of_getElem? hbusy.entryAt
    exact absurd (hsettled entry hmem) hbusy.switching.2

/-- A started adapter that is not told to stop is the stored one, except while
a thread stands between taking it and stopping it. -/
theorem Invariant.startedIsStored_iff {state : State}
    (hinv : Invariant state) :
    state.StartedIsStored ↔ ¬ state.HandingOver := by
  constructor
  · rintro hstored ⟨entry, hmem, id, adapter, hstage, hadapter, hstarted⟩
    obtain ⟨thread, hentry⟩ := List.mem_iff_getElem?.mp hmem
    have hbusy := hinv.busy hentry (by simp [SwitchThread.Switching, hstage])
    have hhandover := hbusy.handover
    simp only [Handover, hstage] at hhandover
    obtain ⟨taken, htaken, htold⟩ := hhandover.2.kept id rfl
    rw [hadapter] at htaken
    cases htaken
    have hid := hstored id adapter hadapter hstarted htold
    cases hhandover.1.symm.trans hid
  · intro hnot id adapter hadapter hstarted htold
    have hdelivering : adapter.Delivering := Or.inl ⟨hstarted, htold⟩
    rcases hinv.situation with hquiet | ⟨thread, entry, hbusy⟩
    · exact hquiet.feed.only id adapter hadapter hdelivering
    · have hhandover := hbusy.handover
      cases hstage : entry.stage with
      | requested => simp [Handover, hstage] at hhandover
      | finished => simp [Handover, hstage] at hhandover
      | took old =>
          simp only [Handover, hstage] at hhandover
          have hold := hhandover.2.only id adapter hadapter hdelivering
          subst hold
          have hmem := List.mem_of_getElem? hbusy.entryAt
          exact absurd ⟨entry, hmem, id, adapter, hstage, hadapter, hstarted⟩
            hnot
      | stopped =>
          simp only [Handover, hstage] at hhandover
          cases hhandover.2.only id adapter hadapter hdelivering
      | created new =>
          simp only [Handover, hstage] at hhandover
          cases hhandover.2.1.only id adapter hadapter hdelivering
      | stored new | entered new =>
          simp only [Handover, hstage] at hhandover
          rw [hhandover.1]
          exact hhandover.2.1.only id adapter hadapter hdelivering

/-- `start` and one complete switch. -/
def oneSwitch : List Action :=
  [.start none, .launchRead, .launchRun, .launchStoreRunning,
    .switchExchange .jupiter ["SOL"], .take 0, .stopTaken 0, .create 0,
    .store 0, .run 0, .storeRunning 0]

def afterOneSwitch : State where
  currentExchange := "JUPITER"
  adapter := some 1
  adapters :=
    [⟨.binance, ["BTCUSDT"], true, true, false⟩,
      ⟨.jupiter, ["SOL"], true, false, true⟩]
  threads := [⟨.jupiter, ["SOL"], .finished⟩]
  launch := .finished
  stopCalled := false

/-- Two dashboards request a switch; the second thread takes `adapter_` after
the first has cleared it and stores its adapter before the first does. -/
def overlappingSwitches : List Action :=
  [.start none, .launchRead, .launchRun, .launchStoreRunning,
    .switchExchange .jupiter ["SOL"], .switchExchange .birdeye ["SOL"],
    .take 0, .stopTaken 0, .take 1, .stopTaken 1, .create 1, .create 0,
    .store 1, .store 0, .run 1, .storeRunning 1, .run 0, .storeRunning 0]

def afterOverlap : State where
  currentExchange := "BIRDEYE"
  adapter := some 2
  adapters :=
    [⟨.binance, ["BTCUSDT"], true, true, false⟩,
      ⟨.birdeye, ["SOL"], true, false, true⟩,
      ⟨.jupiter, ["SOL"], true, false, true⟩]
  threads := [⟨.jupiter, ["SOL"], .finished⟩, ⟨.birdeye, ["SOL"], .finished⟩]
  launch := .finished
  stopCalled := false

-- One switch is enough where the first adapter is still connecting: its `run`
-- raises `running_` after the `stop`, and the adapter is not stopped again.
example :
    (machine.run machine.initial
        [.start none, .launchRead, .launchRun,
          .switchExchange .jupiter ["SOL"], .take 0, .stopTaken 0,
          .launchStoreRunning, .create 0, .store 0, .run 0,
          .storeRunning 0]).map (fun state => (state.adapter, state.adapters)) =
      some (some 1, [⟨.binance, ["BTCUSDT"], true, true, true⟩,
        ⟨.jupiter, ["SOL"], true, false, true⟩]) := rfl

end Datafeed.LiveSource
