import Datafeed.Core.Machine
import Mathlib.Data.Rat.Defs

/-!
# The polling exchanges

`Exchange2` and `Exchange3` share their public calls: `connect` sets both flags,
`subscribe` stores the symbols and starts `stream_loop` unless there is a thread
already, `stop` clears both flags and leaves the thread to itself.  The loops
differ in how a round asks for prices: one request for all known symbols, or one
for each symbol with the flags tested in between.  A loop reads what the calls
have stored, in any interleaving with them.
-/

namespace Datafeed.Polling

/-- A call of the callback; bid and ask are fixed multiples of the price. -/
structure Quote where
  symbol : String
  price : ℚ
  deriving DecidableEq

/-- How a request ends: `SSL_set_tlsext_host_name` refuses, another step throws
or the status is not 200, or the response gives prices.  A price is `none` where
the response has no readable one. -/
inductive Answer
  | hostNameFailed
  | failed
  | prices (price : String → Option ℚ)

/-- What the calls store and the loop reads. -/
structure Shared where
  connected : Bool := false
  running : Bool := false
  callback : Bool := false
  symbols : List String := []

/-- The body of `stream_loop`: from each point, given the answer to a request
and whether a callback throws, the next point and the call of the callback made
on the way.  `none` is the return of the function. -/
structure Loop (Point : Type) where
  entry : Point
  step : Shared → Answer → Bool → Point → Option Point × Option Quote

/-- The thread in `stream_thread_`. -/
inductive Thread (Point : Type)
  | unstarted
  | looping (point : Point)
  | returned

/-- The last two fields record the calls of `subscribe` that were not refused
and those of the callback. -/
structure State (Point : Type) extends Shared where
  thread : Thread Point := .unstarted
  subscriptions : List (List String) := []
  quotes : List Quote := []

inductive Action
  | connect
  | subscribe (symbols : List String)
  | setCallback (present : Bool)
  /-- The first store of `stop`. -/
  | stopRunning
  /-- Its second store. -/
  | stopConnected
  | loop (answer : Answer) (throws : Bool)

section Calls

variable {Point : Type} (loop : Loop Point)

/-- A thread that has returned is still joinable. -/
def subscribe (symbols : List String) (state : State Point) : State Point :=
  if state.connected then
    { state with
      symbols := symbols
      subscriptions := state.subscriptions ++ [symbols]
      thread :=
        match state.thread with
        | .unstarted => .looping loop.entry
        | thread => thread }
  else state

def step (state : State Point) : Action → Option (State Point)
  | .connect => some { state with connected := true, running := true }
  | .subscribe symbols => some (subscribe loop symbols state)
  | .setCallback present => some { state with callback := present }
  | .stopRunning => some { state with running := false }
  | .stopConnected => some { state with connected := false }
  | .loop answer throws =>
      match state.thread with
      | .looping point =>
          let result := loop.step state.toShared answer throws point
          some { state with
            thread :=
              match result.1 with
              | some next => .looping next
              | none => .returned
            quotes := state.quotes ++ result.2.toList }
      | _ => none

def machine : Machine (State Point) Action where
  initial := {}
  step := step loop

end Calls

/-! ## The two loops -/

/-- `SYMBOL_TO_MINT` of `Exchange2`. -/
def symbolToMint (symbol : String) : Option String :=
  if symbol = "SOL" ∨ symbol = "SOLUSDT" ∨ symbol = "SOL-PERP" then
    some "So11111111111111111111111111111111111111112"
  else none

/-- `active_mappings`: the mint and the symbol. -/
def activeMappings (symbols : List String) : List (String × String) :=
  symbols.filterMap fun symbol =>
    (symbolToMint symbol).map fun mint => (mint, symbol)

namespace Exchange2

inductive Point
  | testRunning
  | testConnected
  | readSymbols
  | request (pending : List (String × String))
  /-- In the loop over the mappings, with these still to come. -/
  | deliver (price : String → Option ℚ) (pending : List (String × String))
  /-- In the last loop of a round, with so many sleeps still to come. -/
  | pause (left : ℕ)

/-- The price that is passed on, if it is positive. -/
def quote (shared : Shared) (price : String → Option ℚ)
    (mapping : String × String) : Option Quote :=
  match price mapping.1 with
  | some value =>
      if 0 < value ∧ shared.callback = true then some ⟨mapping.2, value⟩
      else none
  | none => none

def step (shared : Shared) (answer : Answer) (throws : Bool) :
    Point → Option Point × Option Quote
  | .testRunning =>
      (if shared.running then some .testConnected else none, none)
  | .testConnected =>
      (if shared.connected then some .readSymbols else none, none)
  | .readSymbols =>
      match activeMappings shared.symbols with
      | [] => (some .testRunning, none)
      | mapping :: rest => (some (.request (mapping :: rest)), none)
  | .request pending =>
      match answer with
      | .hostNameFailed => (some .testRunning, none)
      | .failed => (some (.pause 5), none)
      | .prices price => (some (.deliver price pending), none)
  | .deliver _ [] => (some (.pause 5), none)
  | .deliver price (mapping :: pending) =>
      match quote shared price mapping with
      | some called =>
          (some (if throws then .pause 5 else .deliver price pending),
            some called)
      | none => (some (.deliver price pending), none)
  | .pause 0 => (some .testRunning, none)
  | .pause (left + 1) =>
      (some (if shared.running && shared.connected then .pause left
        else .testRunning), none)

def loop : Loop Point where
  entry := .testRunning
  step := step

end Exchange2

/-- `BIRDEYE_SYMBOL_TO_MINT`. -/
def birdeyeSymbolToMint (symbol : String) : Option String :=
  if symbol = "SOL" then some "So11111111111111111111111111111111111111112"
  else if symbol = "BTC" then
    some "3NZ9JMVBmGAqocybic2c7LQCJScmgsAZ6vQqTDzcqmJh"
  else if symbol = "ETH" then
    some "7vfCXTUXx5WJV5JADk17DUJ4ksgau7utNKj4b963voxs"
  else if symbol = "USDC" then
    some "EPjFWdd5AufqSSqeM2qN1xzybapC8G4wEGGkZwyTDt1v"
  else if symbol = "USDT" then
    some "Es9vMFrzaCERmJfrF4H2FYD4KCoNkY11McCe8BenwNYB"
  else none

namespace Exchange3

inductive Point
  | testRunning
  | testConnected
  | testApiKey
  | readSymbols
  /-- In the loop over the symbols, before its test of `running_`. -/
  | symbolRunning (pending : List String)
  | symbolConnected (symbol : String) (pending : List String)
  | request (symbol : String) (pending : List String)
  | pause (left : ℕ)

/-- A symbol without a mint is asked for under its own name. -/
def address (symbol : String) : String :=
  (birdeyeSymbolToMint symbol).getD symbol

/-- The price that is passed on, whatever its sign. -/
def quote (shared : Shared) (answer : Answer) (symbol : String) :
    Option Quote :=
  match answer with
  | .prices price =>
      match price (address symbol) with
      | some value => if shared.callback then some ⟨symbol, value⟩ else none
      | none => none
  | _ => none

def step (apiKey : String) (shared : Shared) (answer : Answer) (_throws : Bool) :
    Point → Option Point × Option Quote
  | .testRunning =>
      (if shared.running then some .testConnected else none, none)
  | .testConnected =>
      (if shared.connected then some .testApiKey else none, none)
  | .testApiKey =>
      (some (if apiKey = "" then .testRunning else .readSymbols), none)
  | .readSymbols => (some (.symbolRunning shared.symbols), none)
  | .symbolRunning [] => (some (.pause 10), none)
  | .symbolRunning (symbol :: pending) =>
      (some (if shared.running then .symbolConnected symbol pending
        else .pause 10), none)
  | .symbolConnected symbol pending =>
      (some (if shared.connected then .request symbol pending else .pause 10),
        none)
  | .request symbol pending =>
      (some (.symbolRunning pending), quote shared answer symbol)
  | .pause 0 => (some .testRunning, none)
  | .pause (left + 1) =>
      (some (if shared.running && shared.connected then .pause left
        else .testRunning), none)

def loop (apiKey : String) : Loop Point where
  entry := .testRunning
  step := step apiKey

end Exchange3

/-! ## A loop that has returned -/

/-- Once `stream_loop` has returned, no sequence of `connect`, `subscribe`,
`set_callback` and `stop` makes the exchange call back again. -/
theorem always_silent {Point : Type} (loop : Loop Point) {state : State Point}
    (hreturned : state.thread = .returned) :
    (machine loop).Always
      (fun later => later.thread = .returned ∧ later.quotes = state.quotes)
      state := by
  refine Machine.always_of_invariant ?_ (fun _ hsilent => hsilent)
    ⟨hreturned, rfl⟩
  rintro current action next ⟨hthread, hquotes⟩ hstep
  cases action with
  | connect =>
      obtain rfl := Option.some.inj hstep
      exact ⟨hthread, hquotes⟩
  | subscribe symbols =>
      obtain rfl := Option.some.inj hstep
      rw [subscribe]
      split
      · exact ⟨by simp [hthread], hquotes⟩
      · exact ⟨hthread, hquotes⟩
  | setCallback present =>
      obtain rfl := Option.some.inj hstep
      exact ⟨hthread, hquotes⟩
  | stopRunning =>
      obtain rfl := Option.some.inj hstep
      exact ⟨hthread, hquotes⟩
  | stopConnected =>
      obtain rfl := Option.some.inj hstep
      exact ⟨hthread, hquotes⟩
  | loop answer throws => simp [machine, step, hthread] at hstep

/-! ## A loop that was told to stop -/

/-- With both flags clear each step of the loop returns or comes nearer to its
return, whatever the answers; `owed` bounds the calls it makes on the way. -/
structure Winding {Point : Type} (loop : Loop Point) where
  rank : List String → Point → ℕ
  owed : List String → Point → ℕ
  positive : ∀ symbols point, 0 < rank symbols point
  rank_step : ∀ shared answer throws point next, shared.running = false →
    shared.connected = false →
    (loop.step shared answer throws point).1 = some next →
      rank shared.symbols next < rank shared.symbols point
  owed_step : ∀ shared answer throws point, shared.running = false →
    shared.connected = false →
    (loop.step shared answer throws point).2.toList.length +
        ((loop.step shared answer throws point).1.map
          (owed shared.symbols)).getD 0 ≤
      owed shared.symbols point

namespace Winding

variable {Point : Type} {loop : Loop Point} (winding : Winding loop)

/-- The steps that the loop can still make. -/
def steps (state : State Point) : ℕ :=
  match state.thread with
  | .looping point => winding.rank state.symbols point
  | _ => 0

/-- The calls of the callback that the loop can still make. -/
def calls (state : State Point) : ℕ :=
  match state.thread with
  | .looping point => winding.owed state.symbols point
  | _ => 0

/-- Both flags are clear. -/
def Stopped (state : State Point) : Prop :=
  state.running = false ∧ state.connected = false

def isLoop : Action → Bool
  | .loop _ _ => true
  | _ => false

theorem stopped_step {state next : State Point} {action : Action}
    (hstopped : Stopped state) (hconnect : action ≠ .connect)
    (hstep : step loop state action = some next) :
    Stopped next ∧
      (if isLoop action then 1 else 0) + winding.steps next ≤
        winding.steps state ∧
      next.quotes.length + winding.calls next ≤
        state.quotes.length + winding.calls state := by
  obtain ⟨hrunning, hconnected⟩ := hstopped
  cases action with
  | connect => exact absurd rfl hconnect
  | subscribe symbols =>
      obtain rfl := Option.some.inj hstep
      rw [subscribe, if_neg (by simp [hconnected])]
      exact ⟨⟨hrunning, hconnected⟩, by simp [isLoop], le_refl _⟩
  | setCallback present =>
      obtain rfl := Option.some.inj hstep
      exact ⟨⟨hrunning, hconnected⟩, by simp [isLoop, steps], le_refl _⟩
  | stopRunning =>
      obtain rfl := Option.some.inj hstep
      exact ⟨⟨rfl, hconnected⟩, by simp [isLoop, steps], le_refl _⟩
  | stopConnected =>
      obtain rfl := Option.some.inj hstep
      exact ⟨⟨hrunning, rfl⟩, by simp [isLoop, steps], le_refl _⟩
  | loop answer throws =>
      rw [step] at hstep
      split at hstep
      · next point hthread =>
          obtain rfl := Option.some.inj hstep
          have howed := winding.owed_step state.toShared answer throws point
            hrunning hconnected
          have hpositive := winding.positive state.symbols point
          refine ⟨⟨hrunning, hconnected⟩, ?_, ?_⟩
          · cases hnext : (loop.step state.toShared answer throws point).1 with
            | none =>
                simp only [isLoop, steps, hthread, if_true]
                omega
            | some further =>
                have hrank := winding.rank_step state.toShared answer throws
                  point further hrunning hconnected hnext
                simp only [isLoop, steps, hthread, if_true]
                omega
          · cases hnext : (loop.step state.toShared answer throws point).1 with
            | none =>
                simp only [hnext, Option.map_none, Option.getD_none] at howed
                simp only [calls, hthread, List.length_append]
                omega
            | some further =>
                simp only [hnext, Option.map_some, Option.getD_some] at howed
                simp only [calls, hthread, List.length_append]
                omega
      · cases hstep

/-- After both stores of `stop`, and until the next `connect`, the loop makes
boundedly many steps and calls. -/
theorem stopped_run {actions : List Action} {state final : State Point}
    (hstopped : Stopped state) (hconnect : .connect ∉ actions)
    (hrun : (machine loop).run state actions = some final) :
    actions.countP isLoop + winding.steps final ≤ winding.steps state ∧
      final.quotes.length + winding.calls final ≤
        state.quotes.length + winding.calls state := by
  induction actions generalizing state with
  | nil =>
      obtain rfl : state = final := by simpa using hrun
      simp
  | cons action actions ih =>
      obtain ⟨next, hstep, hrest⟩ := Machine.exists_of_run_cons hrun
      rw [List.mem_cons, not_or] at hconnect
      obtain ⟨hnext, hsteps, hcalls⟩ :=
        winding.stopped_step hstopped (Ne.symm hconnect.1) hstep
      obtain ⟨hlaterSteps, hlaterCalls⟩ := ih hnext hconnect.2 hrest
      rw [List.countP_cons]
      exact ⟨by omega, by omega⟩

end Winding

namespace Exchange2

/-- The steps that lead out of the loop from here once both flags are clear. -/
def rank (symbols : List String) : Point → ℕ
  | .testRunning | .testConnected => 1
  | .pause _ => 2
  | .deliver _ pending => pending.length + 3
  | .request pending => pending.length + 4
  | .readSymbols => (activeMappings symbols).length + 5

/-- The mappings of the round under way that have not been looked at. -/
def owed (symbols : List String) : Point → ℕ
  | .testRunning | .testConnected | .pause _ => 0
  | .deliver _ pending | .request pending => pending.length
  | .readSymbols => (activeMappings symbols).length

theorem rank_step (shared : Shared) (answer : Answer) (throws : Bool)
    (point next : Point) (hrunning : shared.running = false)
    (hconnected : shared.connected = false)
    (hnext : (step shared answer throws point).1 = some next) :
    rank shared.symbols next < rank shared.symbols point := by
  cases point with
  | testRunning => simp [step, hrunning] at hnext
  | testConnected => simp [step, hconnected] at hnext
  | readSymbols =>
      rw [step] at hnext
      split at hnext
      · obtain rfl := Option.some.inj hnext
        simp [rank]
      · next mapping rest hmappings =>
          obtain rfl := Option.some.inj hnext
          simp [rank, hmappings]
  | request pending =>
      cases answer with
      | hostNameFailed =>
          obtain rfl := Option.some.inj hnext
          simp [rank]
      | failed =>
          obtain rfl := Option.some.inj hnext
          simp [rank]
      | prices price =>
          obtain rfl := Option.some.inj hnext
          simp [rank]
  | deliver price pending =>
      cases pending with
      | nil =>
          obtain rfl := Option.some.inj hnext
          simp [rank]
      | cons mapping pending =>
          rw [step] at hnext
          split at hnext
          · obtain rfl := Option.some.inj hnext
            cases throws <;> simp [rank]
          · obtain rfl := Option.some.inj hnext
            simp [rank]
  | pause left =>
      cases left with
      | zero =>
          obtain rfl := Option.some.inj hnext
          simp [rank]
      | succ left =>
          simp only [step, hrunning, Bool.false_and, Bool.false_eq_true,
            if_false, Option.some.injEq] at hnext
          subst hnext
          simp [rank]

theorem owed_step (shared : Shared) (answer : Answer) (throws : Bool)
    (point : Point) (hrunning : shared.running = false)
    (hconnected : shared.connected = false) :
    (step shared answer throws point).2.toList.length +
        ((step shared answer throws point).1.map
          (owed shared.symbols)).getD 0 ≤
      owed shared.symbols point := by
  cases point with
  | testRunning => simp [step, hrunning]
  | testConnected => simp [step, hconnected]
  | readSymbols =>
      rw [step]
      split
      · simp [owed]
      · next mapping rest hmappings => simp [owed, hmappings]
  | request pending =>
      cases answer with
      | hostNameFailed => simp [step, owed]
      | failed => simp [step, owed]
      | prices price => simp [step, owed]
  | deliver price pending =>
      cases pending with
      | nil => simp [step, owed]
      | cons mapping pending =>
          rw [step]
          split
          · cases throws with
            | true => simp [owed]
            | false => simp [owed, Nat.add_comm]
          · simp [owed]
  | pause left =>
      cases left with
      | zero => simp [step, owed]
      | succ left => simp [step, owed, hrunning]

theorem rank_le (symbols : List String) (point : Point) :
    rank symbols point ≤ owed symbols point + 5 := by
  cases point <;> simp [rank, owed]

def winding : Winding loop where
  rank := rank
  owed := owed
  positive symbols point := by
    cases point <;> simp [rank]
  rank_step := rank_step
  owed_step := owed_step

end Exchange2

namespace Exchange3

def rank : Point → ℕ
  | .testRunning | .testConnected => 1
  | .pause _ => 2
  | .symbolRunning _ | .symbolConnected _ _ => 3
  | .request _ _ | .readSymbols => 4
  | .testApiKey => 5

/-- Only a request that is under way can still be passed on. -/
def owed : Point → ℕ
  | .request _ _ => 1
  | _ => 0

theorem rank_step {apiKey : String} (shared : Shared) (answer : Answer)
    (throws : Bool) (point next : Point) (hrunning : shared.running = false)
    (hconnected : shared.connected = false)
    (hnext : (step apiKey shared answer throws point).1 = some next) :
    rank next < rank point := by
  cases point with
  | testRunning => simp [step, hrunning] at hnext
  | testConnected => simp [step, hconnected] at hnext
  | testApiKey =>
      obtain rfl := Option.some.inj hnext
      split <;> simp [rank]
  | readSymbols =>
      obtain rfl := Option.some.inj hnext
      simp [rank]
  | symbolRunning pending =>
      cases pending with
      | nil =>
          obtain rfl := Option.some.inj hnext
          simp [rank]
      | cons symbol pending =>
          simp only [step, hrunning, Bool.false_eq_true, if_false,
            Option.some.injEq] at hnext
          subst hnext
          simp [rank]
  | symbolConnected symbol pending =>
      simp only [step, hconnected, Bool.false_eq_true, if_false,
        Option.some.injEq] at hnext
      subst hnext
      simp [rank]
  | request symbol pending =>
      obtain rfl := Option.some.inj hnext
      simp [rank]
  | pause left =>
      cases left with
      | zero =>
          obtain rfl := Option.some.inj hnext
          simp [rank]
      | succ left =>
          simp only [step, hrunning, Bool.false_and, Bool.false_eq_true,
            if_false, Option.some.injEq] at hnext
          subst hnext
          simp [rank]

theorem length_quote_le (shared : Shared) (answer : Answer) (symbol : String) :
    (quote shared answer symbol).toList.length ≤ 1 := by
  cases quote shared answer symbol <;> simp

theorem owed_step {apiKey : String} (shared : Shared) (answer : Answer)
    (throws : Bool) (point : Point) (hrunning : shared.running = false)
    (hconnected : shared.connected = false) :
    (step apiKey shared answer throws point).2.toList.length +
        ((step apiKey shared answer throws point).1.map owed).getD 0 ≤
      owed point := by
  cases point with
  | testRunning => simp [step, hrunning]
  | testConnected => simp [step, hconnected]
  | testApiKey =>
      rw [step]
      split <;> simp [owed]
  | readSymbols => simp [step, owed]
  | symbolRunning pending =>
      cases pending with
      | nil => simp [step, owed]
      | cons symbol pending => simp [step, owed, hrunning]
  | symbolConnected symbol pending => simp [step, owed, hconnected]
  | request symbol pending =>
      simp only [step, owed, Option.map_some, Option.getD_some, Nat.add_zero]
      exact length_quote_le shared answer symbol
  | pause left =>
      cases left with
      | zero => simp [step, owed]
      | succ left => simp [step, owed, hrunning]

theorem rank_le (point : Point) : rank point ≤ 5 := by
  cases point <;> simp [rank]

theorem owed_le (point : Point) : owed point ≤ 1 := by
  cases point <;> simp [owed]

def winding (apiKey : String) : Winding (loop apiKey) where
  rank _ := rank
  owed _ := owed
  positive _ point := by
    cases point <;> simp [rank]
  rank_step := rank_step
  owed_step := owed_step

end Exchange3

/-- After `stop` and until the next `connect`: the loop of `Exchange2` calls back
at most once for each mapping of its round that is still to come and makes at
most five more steps than that; the loop of `Exchange3` calls back at most once,
if a request is under way, and makes at most five more steps. -/
theorem stop_winds_down :
    (∀ {actions : List Action} {state final : State Exchange2.Point},
      Winding.Stopped state → .connect ∉ actions →
      (machine Exchange2.loop).run state actions = some final →
        final.quotes.length ≤
            state.quotes.length + Exchange2.winding.calls state ∧
          actions.countP Winding.isLoop ≤ Exchange2.winding.calls state + 5) ∧
    (∀ {apiKey : String} {actions : List Action}
        {state final : State Exchange3.Point},
      Winding.Stopped state → .connect ∉ actions →
      (machine (Exchange3.loop apiKey)).run state actions = some final →
        final.quotes.length ≤ state.quotes.length +
            (Exchange3.winding apiKey).calls state ∧
          (Exchange3.winding apiKey).calls state ≤ 1 ∧
          actions.countP Winding.isLoop ≤ 5) := by
  refine ⟨fun {actions state final} hstopped hconnect hrun => ?_,
    fun {apiKey actions state final} hstopped hconnect hrun => ?_⟩
  · obtain ⟨hsteps, hcalls⟩ :=
      Exchange2.winding.stopped_run hstopped hconnect hrun
    have hbound : Exchange2.winding.steps state ≤
        Exchange2.winding.calls state + 5 := by
      rw [Winding.steps, Winding.calls]
      cases state.thread with
      | looping point => exact Exchange2.rank_le state.symbols point
      | unstarted => exact Nat.zero_le _
      | returned => exact Nat.zero_le _
    exact ⟨by omega, by omega⟩
  · obtain ⟨hsteps, hcalls⟩ :=
      (Exchange3.winding apiKey).stopped_run hstopped hconnect hrun
    have hone : (Exchange3.winding apiKey).calls state ≤ 1 := by
      rw [Winding.calls]
      cases state.thread with
      | looping point => exact Exchange3.owed_le point
      | unstarted => exact Nat.zero_le _
      | returned => exact Nat.zero_le _
    have hbound : (Exchange3.winding apiKey).steps state ≤ 5 := by
      rw [Winding.steps]
      cases state.thread with
      | looping point => exact Exchange3.rank_le point
      | unstarted => exact Nat.zero_le _
      | returned => exact Nat.zero_le _
    exact ⟨by omega, hone, by omega⟩

/-! ## What is passed on -/

namespace Exchange2

/-- The mappings that the round under way still looks at. -/
def pendingMappings : Thread Point → List (String × String)
  | .looping (.request pending) | .looping (.deliver _ pending) => pending
  | _ => []

/-- A symbol with a mint that some call of `subscribe` named. -/
def Known (subscriptions : List (List String)) (symbol : String) : Prop :=
  (symbolToMint symbol).isSome ∧ ∃ symbols ∈ subscriptions, symbol ∈ symbols

/-- The symbols, the mappings of the round under way and the quotes belong to
what was subscribed. -/
structure Sound (state : State Point) : Prop where
  symbols : state.symbols = [] ∨ state.symbols ∈ state.subscriptions
  pending : ∀ mapping ∈ pendingMappings state.thread,
    Known state.subscriptions mapping.2
  quotes : ∀ quote ∈ state.quotes,
    0 < quote.price ∧ Known state.subscriptions quote.symbol

theorem Known.mono {subscriptions : List (List String)} {symbol : String}
    (hknown : Known subscriptions symbol) (symbols : List String) :
    Known (subscriptions ++ [symbols]) symbol := by
  obtain ⟨hmint, named, hnamed, hsymbol⟩ := hknown
  exact ⟨hmint, named, List.mem_append_left _ hnamed, hsymbol⟩

theorem known_of_mem_activeMappings {subscriptions : List (List String)}
    {symbols : List String} (hsymbols : symbols = [] ∨ symbols ∈ subscriptions)
    {mapping : String × String} (hmapping : mapping ∈ activeMappings symbols) :
    Known subscriptions mapping.2 := by
  obtain ⟨symbol, hsymbol, hmint⟩ := List.mem_filterMap.mp hmapping
  obtain ⟨mint, hsome, rfl⟩ := Option.map_eq_some_iff.mp hmint
  rcases hsymbols with rfl | hsubscribed
  · cases hsymbol
  · exact ⟨by rw [hsome]; rfl, symbols, hsubscribed, hsymbol⟩

/-- A quote is positive and has the symbol of its mapping. -/
theorem of_quote_eq_some {shared : Shared} {price : String → Option ℚ}
    {mapping : String × String} {called : Quote}
    (hquote : quote shared price mapping = some called) :
    0 < called.price ∧ called.symbol = mapping.2 := by
  rw [quote] at hquote
  split at hquote
  · split at hquote
    · next hpositive =>
        obtain rfl := Option.some.inj hquote
        exact ⟨hpositive.1, rfl⟩
    · cases hquote
  · cases hquote

/-- What one step of the loop leaves to look at and passes on. -/
theorem known_loopStep {state : State Point} {point : Point}
    (hsound : Sound state) (hthread : state.thread = .looping point)
    (answer : Answer) (throws : Bool) :
    (∀ next, (step state.toShared answer throws point).1 = some next →
      ∀ mapping ∈ pendingMappings (.looping next),
        Known state.subscriptions mapping.2) ∧
    ∀ called, (step state.toShared answer throws point).2 = some called →
      0 < called.price ∧ Known state.subscriptions called.symbol := by
  have hpending := hsound.pending
  rw [hthread] at hpending
  cases point with
  | testRunning => cases hrunning : state.running <;>
      simp [step, hrunning, pendingMappings]
  | testConnected => cases hconnected : state.connected <;>
      simp [step, hconnected, pendingMappings]
  | readSymbols =>
      rw [step]
      split
      · simp [pendingMappings]
      · next mapping rest hmappings =>
          refine ⟨fun next hnext => ?_, nofun⟩
          obtain rfl := Option.some.inj hnext
          intro other hother
          apply known_of_mem_activeMappings hsound.symbols
          rw [hmappings]
          exact hother
  | request pending =>
      cases answer with
      | hostNameFailed => simp [step, pendingMappings]
      | failed => simp [step, pendingMappings]
      | prices price =>
          refine ⟨fun next hnext => ?_, nofun⟩
          obtain rfl := Option.some.inj hnext
          exact hpending
  | deliver price pending =>
      cases pending with
      | nil => simp [step, pendingMappings]
      | cons mapping pending =>
          have hrest : ∀ other ∈ pending,
              Known state.subscriptions other.2 := fun other hother =>
            hpending other (List.mem_cons_of_mem _ hother)
          rw [step]
          split
          · next called hquote =>
              refine ⟨fun next hnext => ?_, fun other hother => ?_⟩
              · obtain rfl := Option.some.inj hnext
                cases throws with
                | true => simp [pendingMappings]
                | false => exact hrest
              · obtain rfl := Option.some.inj hother
                obtain ⟨hpositive, hsymbol⟩ := of_quote_eq_some hquote
                rw [hsymbol]
                exact ⟨hpositive, hpending mapping List.mem_cons_self⟩
          · refine ⟨fun next hnext => ?_, nofun⟩
            obtain rfl := Option.some.inj hnext
            exact hrest
  | pause left =>
      cases left with
      | zero => simp [step, pendingMappings]
      | succ left =>
          refine ⟨fun next hnext => ?_, nofun⟩
          obtain rfl := Option.some.inj hnext
          split <;> simp [pendingMappings]

theorem sound_step {state next : State Point} {action : Action}
    (hsound : Sound state)
    (hstep : Polling.step loop state action = some next) : Sound next := by
  obtain ⟨hsymbols, hpending, hquotes⟩ := hsound
  cases action with
  | connect =>
      obtain rfl := Option.some.inj hstep
      exact ⟨hsymbols, hpending, hquotes⟩
  | setCallback present =>
      obtain rfl := Option.some.inj hstep
      exact ⟨hsymbols, hpending, hquotes⟩
  | stopRunning =>
      obtain rfl := Option.some.inj hstep
      exact ⟨hsymbols, hpending, hquotes⟩
  | stopConnected =>
      obtain rfl := Option.some.inj hstep
      exact ⟨hsymbols, hpending, hquotes⟩
  | subscribe symbols =>
      obtain rfl := Option.some.inj hstep
      rw [subscribe]
      split
      · refine ⟨Or.inr (by simp), fun mapping hmapping => ?_,
          fun quote hquote => ?_⟩
        · cases hthread : state.thread with
          | unstarted => simp [hthread, loop, pendingMappings] at hmapping
          | looping point =>
              rw [hthread] at hpending hmapping
              exact (hpending mapping hmapping).mono symbols
          | returned => simp [hthread, pendingMappings] at hmapping
        · exact ⟨(hquotes quote hquote).1, (hquotes quote hquote).2.mono _⟩
      · exact ⟨hsymbols, hpending, hquotes⟩
  | loop answer throws =>
      rw [Polling.step] at hstep
      split at hstep
      · next point hthread =>
          obtain rfl := Option.some.inj hstep
          obtain ⟨hnext, hcalled⟩ :=
            known_loopStep ⟨hsymbols, hpending, hquotes⟩ hthread answer throws
          refine ⟨hsymbols, fun mapping hmapping => ?_, fun quote hquote => ?_⟩
          · cases hresult : (step state.toShared answer throws point).1 with
            | none => simp [loop, hresult, pendingMappings] at hmapping
            | some further =>
                simp only [loop, hresult] at hmapping
                exact hnext further hresult mapping hmapping
          · rcases List.mem_append.mp hquote with hbefore | hnew
            · exact hquotes quote hbefore
            · exact hcalled quote (Option.mem_toList.mp hnew)
      · cases hstep

/-- Every price that `Exchange2` passes on is positive and belongs to a
subscribed symbol that has a mint; without a callback, or while nothing but
other symbols is subscribed, it passes on nothing. -/
theorem reachable_quotes {state : State Point}
    (hreach : (machine loop).Reachable state) :
    (∀ quote ∈ state.quotes,
      0 < quote.price ∧ Known state.subscriptions quote.symbol) ∧
    ((∀ symbols ∈ state.subscriptions, ∀ symbol ∈ symbols,
      symbolToMint symbol = none) → state.quotes = []) := by
  have hinitial : Sound (machine loop).initial :=
    ⟨Or.inl rfl, by simp [machine, pendingMappings], by simp [machine]⟩
  have hsound : Sound state :=
    hreach.invariant hinitial fun _ _ _ hcurrent hstep =>
      sound_step hcurrent hstep
  refine ⟨hsound.quotes, fun hunknown => ?_⟩
  rw [List.eq_nil_iff_forall_not_mem]
  intro quote hquote
  obtain ⟨-, hmint, symbols, hsubscribed, hsymbol⟩ :=
    hsound.quotes quote hquote
  rw [hunknown symbols hsubscribed quote.symbol hsymbol] at hmint
  cases hmint

end Exchange2

/-! ## A subscription that is stopped in the middle of a round -/

/-- Two of three symbols have a mint; one has been passed on when `stop` is
called. -/
def stopDuringRound : List Action :=
  [.setCallback true, .connect, .subscribe ["SOL", "BTC", "SOLUSDT"],
    .loop .failed false, .loop .failed false, .loop .failed false,
    .loop (.prices fun _ => some 150) false, .loop .failed false,
    .stopRunning, .stopConnected]

/-- The other one is still passed on; connecting and subscribing again after
that is in vain. -/
def restartAfterRound : List Action :=
  [.loop .failed false, .loop .failed false, .loop .failed false,
    .loop .failed false]

theorem stop_winds_down_round :
    ∃ state final : State Exchange2.Point,
      (machine Exchange2.loop).run (machine Exchange2.loop).initial
          stopDuringRound = some state ∧
        (machine Exchange2.loop).run state restartAfterRound = some final ∧
        state.quotes.length = 1 ∧ Exchange2.winding.calls state = 1 ∧
        final.quotes.length ≤
          state.quotes.length + Exchange2.winding.calls state := by
  have hrestart : Action.connect ∉ restartAfterRound := by
    simp [restartAfterRound]
  refine ⟨_, _, rfl, rfl, rfl, rfl, ?_⟩
  exact (stop_winds_down.1 ⟨rfl, rfl⟩ hrestart rfl).1

theorem always_silent_round :
    ∃ state final : State Exchange2.Point,
      (machine Exchange2.loop).run (machine Exchange2.loop).initial
          (stopDuringRound ++ restartAfterRound) = some state ∧
        (machine Exchange2.loop).run state
          [.connect, .subscribe ["SOL"]] = some final ∧
        final.quotes = state.quotes ∧ state.quotes.length = 2 := by
  refine ⟨_, _, rfl, rfl, ?_, rfl⟩
  exact (always_silent Exchange2.loop rfl [.connect, .subscribe ["SOL"]] _
    rfl).2

theorem reachable_quotes_round :
    ∃ state : State Exchange2.Point,
      (machine Exchange2.loop).run (machine Exchange2.loop).initial
          stopDuringRound = some state ∧
        state.quotes = [⟨"SOL", 150⟩] ∧
        ∀ quote ∈ state.quotes, 0 < quote.price := by
  refine ⟨_, rfl, rfl, fun quote hquote => ?_⟩
  exact ((Exchange2.reachable_quotes ⟨stopDuringRound, rfl⟩).1 quote hquote).1

end Datafeed.Polling
