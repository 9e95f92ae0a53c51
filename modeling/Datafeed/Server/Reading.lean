import Datafeed.Core.Block
import Datafeed.Core.Machine
import Datafeed.Server.OnRead

/-!
# The reads of a session

`on_read` statement by statement, with the exceptions that can leave the attempt
to read a message as JSON: from the parser, from an access to a member of the
wrong type, from the conversion of a symbol and from each call that the attempt
makes.  The buffer and the number of outstanding `async_read`s are the state;
`async_read` appends the bytes of a message to the buffer.

Under `g_adapter_mutex` a registration overwrites `g_adapter_session`.  Where
that was the last owner of the session registered before, its destructor waits
for the same mutex, and `on_read` comes neither to its buffer nor to its read.
-/

namespace Datafeed.Server.Reading

open Text Block

/-- Whether an adapter is registered, and whether it is this session. -/
inductive Registration
  | none
  | self
  | other
  /-- Another session, which nothing but `g_adapter_session` owns. -/
  | abandoned
  deriving DecidableEq

/-- The calls of `on_read`, with the broadcasts of a relayed message one by
one. -/
inductive Operation
  | broadcastToTopic (topic : String)
  | call (call : Call)
  deriving DecidableEq

/-- What `on_read` finds when it handles a message. -/
structure Surroundings where
  registration : Registration
  /-- A thread that holds `g_adapter_mutex` waits for it. -/
  adapterMutexHeld : Bool
  /-- So does one with the mutex of the exchange monitor, which
  `switch_exchange` needs. -/
  monitorMutexHeld : Bool
  /-- The calls that throw. -/
  throws : Operation → Bool

/-- No mutex is held for good, and nothing throws. -/
def Surroundings.quiet (registration : Registration) : Surroundings :=
  ⟨registration, false, false, fun _ => false⟩

structure Channel where
  buffer : String := ""
  reads : ℕ := 0
  /-- The operations that were completed. -/
  log : List Operation := []
  deriving DecidableEq

/-- What the completion of an `async_read` reports. -/
inductive ReadResult
  | success
  | closed
  | failed
  deriving DecidableEq

namespace Channel

def perform (operation : Operation) : Block Channel :=
  Block.perform fun channel =>
    { channel with log := channel.log ++ [operation] }

/-- An operation inside the `try` block. -/
def attempt (surroundings : Surroundings) (operation : Operation) :
    Block Channel :=
  if surroundings.throws operation then raise else perform operation

/-- `std::lock_guard<std::mutex> lock(g_adapter_mutex)`. -/
def lockAdapterMutex (surroundings : Surroundings) : Block Channel :=
  if surroundings.adapterMutexHeld then hang else skip

/-- `buffer_.consume(buffer_.size())`, `do_read()` and the return. -/
def rearm : Block Channel :=
  leave fun channel =>
    { buffer := ""
      reads := channel.reads + 1
      log := channel.log ++ [.call .doRead] }

end Channel

open Channel

/-- The topics that a message of the adapter is broadcast to. -/
def relayedTopics (complete : Bool) : List String :=
  relayTopics ++ if complete then ["backtest_complete"] else []

/-- `g_adapter_session = shared_from_this()`, under the mutex. -/
def registerBlock (surroundings : Surroundings) : Block Channel :=
  if surroundings.throws (.call .registerAdapter) then raise
  else if surroundings.registration = .abandoned then hang
  else perform (.call .registerAdapter)

/-- `g_live_source->switch_exchange(newType, syms)`. -/
def switchBlock (surroundings : Surroundings)
    (exchangeType : LiveSource.ExchangeType) (symbols : List String) :
    Block Channel :=
  if surroundings.monitorMutexHeld then hang
  else attempt surroundings (.call (.switchExchange exchangeType symbols))

/-- The branches behind the registration. -/
def requestBlock (config : Config) (surroundings : Surroundings)
    (json : Json) : Block Channel :=
  if surroundings.registration = .self then
    seq
      (all ((relayedTopics (json.has "topic" "backtest_complete")).map
        fun topic => attempt surroundings (.broadcastToTopic topic)))
      rearm
  else if json.has "type" "backtest_result" then
    seq (attempt surroundings (.call .broadcastAll)) rearm
  else if json.has "type" "switch_exchange" then
    withValue (exchangeMember json) fun exchange =>
      seq
        (if config.liveSource then
          withValue (switchSymbols (switchType exchange) json) fun symbols =>
            switchBlock surroundings (switchType exchange) symbols
        else skip)
        rearm
  else skip

/-- The body of the `try` block. -/
def jsonBlock (config : Config) (surroundings : Surroundings) (msg : String) :
    Block Channel :=
  withValue (config.parse msg) fun json =>
    seq (lockAdapterMutex surroundings)
      (if json.has "type" "adapter" then seq (registerBlock surroundings) rearm
      else requestBlock config surroundings json)

def commandBlock (surroundings : Surroundings) (command : String) :
    Block Channel :=
  seq (lockAdapterMutex surroundings)
    (if surroundings.registration = .none then skip
    else perform (.call (.commandAdapter command)))

def modeBlock (config : Config) (surroundings : Surroundings) (msg : String) :
    Block Channel :=
  if contains msg "_Live" then
    seq (perform (.call (.setClientMode "_Live" "")))
      (commandBlock surroundings stopCommand)
  else if contains msg "_Backtest" then
    seq (perform (.call (.setClientMode "_Backtest" (dateRange msg))))
      (seq (commandBlock surroundings startCommand)
        (if config.backtestSource then
          perform (.call (.startReplay (dateRange msg)))
        else skip))
  else skip

def subscribeBlock (msg : String) : Block Channel :=
  if contains msg "subscribe" then
    perform (.call (.addClientTopics (extractTopics msg)))
  else skip

/-- The handling as plain text. -/
def plainBlock (config : Config) (surroundings : Surroundings)
    (msg : String) : Block Channel :=
  seq (modeBlock config surroundings msg) (seq (subscribeBlock msg) rearm)

/-- `on_read`; the message is what the buffer holds. -/
def onReadBlock (config : Config) (surroundings : Surroundings)
    (result : ReadResult) : Block Channel :=
  fun channel =>
    if result ≠ .success then (.returned, channel)
    else
      seq (catchAll (jsonBlock config surroundings channel.buffer))
        (plainBlock config surroundings channel.buffer) channel

/-! ## What is waited for in vain -/

/-- The message asks for a switch, which the live source is given. -/
def asksSwitch (config : Config) (json : Json) : Bool :=
  !json.has "type" "backtest_result" && json.has "type" "switch_exchange" &&
    config.liveSource &&
      ((exchangeMember json).bind fun exchange =>
        switchSymbols (switchType exchange) json).isSome

/-- A JSON text registers an adapter in the place of one that nothing else owns,
or needs a mutex that is held for good. -/
def jsonHangs (config : Config) (surroundings : Surroundings) (json : Json) :
    Bool :=
  surroundings.adapterMutexHeld ||
    if json.has "type" "adapter" then
      !surroundings.throws (.call .registerAdapter) &&
        surroundings.registration = .abandoned
    else
      surroundings.registration ≠ .self && surroundings.monitorMutexHeld &&
        asksSwitch config json

/-- Of the other texts, those that set a mode need a mutex. -/
def hangs (config : Config) (surroundings : Surroundings) (msg : String) :
    Bool :=
  match config.parse msg with
  | some json => jsonHangs config surroundings json
  | none =>
      surroundings.adapterMutexHeld &&
        (contains msg "_Live" || contains msg "_Backtest")

/-! ## One message -/

/-- The buffer has not been touched and no read has been issued. -/
def Untouched (before after : Channel) : Prop :=
  after.buffer = before.buffer ∧ after.reads = before.reads

/-- The buffer is empty, and one read has been issued. -/
def Rearmed (before after : Channel) : Prop :=
  after.buffer = "" ∧ after.reads = before.reads + 1

theorem composable_reads : Composable Untouched Rearmed where
  refl _ := ⟨rfl, rfl⟩
  trans hfirst hsecond :=
    ⟨hsecond.1.trans hfirst.1, hsecond.2.trans hfirst.2⟩
  comp hfirst hsecond := ⟨hsecond.1, by rw [hsecond.2, hfirst.2]⟩

section Ends

variable {config : Config} {surroundings : Surroundings} {msg : String}
  {operation : Operation} {json : Json}

theorem ends_perform : Ends Untouched Rearmed (perform operation) :=
  Block.ends_perform fun _ => ⟨rfl, rfl⟩

theorem ends_attempt :
    Ends Untouched Rearmed (attempt surroundings operation) := by
  rw [attempt]
  split
  · exact composable_reads.raise
  · exact ends_perform

theorem ends_rearm : Ends Untouched Rearmed rearm :=
  ends_leave fun _ => ⟨rfl, rfl⟩

theorem ends_seq_rearm {block : Block Channel}
    (hblock : Ends Untouched Rearmed block) :
    Ends Untouched Rearmed (seq block rearm) :=
  composable_reads.seq hblock ends_rearm

theorem ends_lockAdapterMutex :
    Ends Untouched Rearmed (lockAdapterMutex surroundings) := by
  rw [lockAdapterMutex]
  split
  · exact composable_reads.hang
  · exact composable_reads.skip

theorem ends_registerBlock :
    Ends Untouched Rearmed (registerBlock surroundings) := by
  rw [registerBlock]
  split
  · exact composable_reads.raise
  split
  · exact composable_reads.hang
  · exact ends_perform

theorem ends_switchBlock {exchangeType : LiveSource.ExchangeType}
    {symbols : List String} :
    Ends Untouched Rearmed (switchBlock surroundings exchangeType symbols) := by
  rw [switchBlock]
  split
  · exact composable_reads.hang
  · exact ends_attempt

theorem ends_requestBlock :
    Ends Untouched Rearmed (requestBlock config surroundings json) := by
  rw [requestBlock]
  split
  · refine ends_seq_rearm (composable_reads.all fun block hblock => ?_)
    obtain ⟨topic, -, rfl⟩ := List.mem_map.mp hblock
    exact ends_attempt
  split
  · exact ends_seq_rearm ends_attempt
  split
  · refine composable_reads.withValue fun exchange => ends_seq_rearm ?_
    split
    · exact composable_reads.withValue fun symbols => ends_switchBlock
    · exact composable_reads.skip
  · exact composable_reads.skip

theorem ends_jsonBlock (config : Config) (surroundings : Surroundings)
    (msg : String) :
    Ends Untouched Rearmed (jsonBlock config surroundings msg) := by
  refine composable_reads.withValue fun json =>
    composable_reads.seq ends_lockAdapterMutex ?_
  split
  · exact ends_seq_rearm ends_registerBlock
  · exact ends_requestBlock

theorem ends_commandBlock {command : String} :
    Ends Untouched Rearmed (commandBlock surroundings command) := by
  refine composable_reads.seq ends_lockAdapterMutex ?_
  split
  · exact composable_reads.skip
  · exact ends_perform

theorem ends_modeBlock :
    Ends Untouched Rearmed (modeBlock config surroundings msg) := by
  rw [modeBlock]
  split
  · exact composable_reads.seq ends_perform ends_commandBlock
  split
  · refine composable_reads.seq ends_perform
      (composable_reads.seq ends_commandBlock ?_)
    split
    · exact ends_perform
    · exact composable_reads.skip
  · exact composable_reads.skip

theorem ends_subscribeBlock : Ends Untouched Rearmed (subscribeBlock msg) := by
  rw [subscribeBlock]
  split
  · exact ends_perform
  · exact composable_reads.skip

theorem ends_plainBlock (config : Config) (surroundings : Surroundings)
    (msg : String) :
    Ends Untouched Rearmed (plainBlock config surroundings msg) :=
  composable_reads.seq ends_modeBlock (ends_seq_rearm ends_subscribeBlock)

/-! ### Which blocks are left -/

theorem completes_operation :
    Block.Completes (Channel.perform operation) := completes_perform _

theorem goesOn_attempt : GoesOn (attempt surroundings operation) := by
  rw [attempt]
  split
  · exact goesOn_raise
  · exact completes_operation.goesOn

theorem goesOn_rearm : GoesOn rearm := goesOn_leave _

theorem completes_lockAdapterMutex
    (hfree : surroundings.adapterMutexHeld = false) :
    Block.Completes (lockAdapterMutex surroundings) := by
  rw [lockAdapterMutex, hfree]
  exact completes_skip

theorem seq_lockAdapterMutex_stuck
    (hheld : surroundings.adapterMutexHeld = true) (block : Block Channel)
    (channel : Channel) :
    (seq (lockAdapterMutex surroundings) block channel).1 = .stuck := by
  rw [lockAdapterMutex, hheld]
  rfl

theorem goesOn_registerBlock
    (howned : (!surroundings.throws (.call .registerAdapter) &&
      surroundings.registration = .abandoned) = false) :
    GoesOn (registerBlock surroundings) := by
  rw [registerBlock]
  split
  · exact goesOn_raise
  split
  · next hthrows habandoned => simp [hthrows, habandoned] at howned
  · exact completes_operation.goesOn

theorem registerBlock_stuck
    (hlast : (!surroundings.throws (.call .registerAdapter) &&
      surroundings.registration = .abandoned) = true) (channel : Channel) :
    (seq (registerBlock surroundings) rearm channel).1 = .stuck := by
  simp only [Bool.and_eq_true, Bool.not_eq_true', decide_eq_true_eq] at hlast
  rw [registerBlock, hlast.1, if_neg Bool.false_ne_true, if_pos hlast.2]
  rfl

theorem goesOn_requestBlock
    (hgoes : (surroundings.registration ≠ .self &&
      surroundings.monitorMutexHeld && asksSwitch config json) = false) :
    GoesOn (requestBlock config surroundings json) := by
  rw [requestBlock]
  split
  · refine GoesOn.seq (goesOn_all fun block hblock => ?_) goesOn_rearm
    obtain ⟨topic, -, rfl⟩ := List.mem_map.mp hblock
    exact goesOn_attempt
  split
  · exact goesOn_attempt.seq goesOn_rearm
  split
  · next hself hresult hswitch =>
      refine goesOn_withValue fun exchange hexchange =>
        GoesOn.seq ?_ goesOn_rearm
      split
      · next hlive =>
          refine goesOn_withValue fun symbols hsymbols => ?_
          have hfree : surroundings.monitorMutexHeld = false := by
            simpa [hself, asksSwitch, hresult, hswitch, hlive, hexchange,
              hsymbols] using hgoes
          rw [switchBlock, hfree, if_neg Bool.false_ne_true]
          exact goesOn_attempt
      · exact completes_skip.goesOn
  · exact completes_skip.goesOn

theorem requestBlock_stuck
    (hhangs : (surroundings.registration ≠ .self &&
      surroundings.monitorMutexHeld && asksSwitch config json) = true)
    (channel : Channel) :
    (requestBlock config surroundings json channel).1 = .stuck := by
  simp only [asksSwitch, Bool.and_eq_true, Bool.not_eq_true',
    decide_eq_true_eq, Option.isSome_bind] at hhangs
  obtain ⟨⟨hself, hheld⟩, ⟨⟨hresult, hswitch⟩, hlive⟩, hmember⟩ := hhangs
  cases hexchange : exchangeMember json with
  | none => simp [hexchange] at hmember
  | some exchange =>
      rw [hexchange] at hmember
      obtain ⟨symbols, hsymbols⟩ := Option.isSome_iff_exists.mp hmember
      rw [requestBlock, if_neg hself, hresult, if_neg Bool.false_ne_true,
        hswitch, if_pos rfl, hexchange]
      simp only [withValue, hlive, if_true, hsymbols, switchBlock, hheld]
      rfl

theorem jsonBlock_stuck_iff {config : Config} {msg : String} {json : Json}
    (hparse : config.parse msg = some json) (channel : Channel) :
    (jsonBlock config surroundings msg channel).1 = .stuck ↔
      jsonHangs config surroundings json = true := by
  rw [jsonBlock, hparse, withValue, jsonHangs]
  cases hheld : surroundings.adapterMutexHeld with
  | true => simp [seq_lockAdapterMutex_stuck hheld]
  | false =>
      rw [(completes_lockAdapterMutex hheld).seq_apply, Bool.false_or]
      split
      · cases hlast : !surroundings.throws (.call .registerAdapter) &&
            surroundings.registration = .abandoned with
        | true => simp [registerBlock_stuck hlast]
        | false =>
            simp [((goesOn_registerBlock hlast).seq goesOn_rearm) _]
      · cases hhangs : surroundings.registration ≠ .self &&
            surroundings.monitorMutexHeld && asksSwitch config json with
        | true => simp [requestBlock_stuck hhangs]
        | false => simp [(goesOn_requestBlock hhangs) _]

theorem completes_commandBlock
    (hfree : surroundings.adapterMutexHeld = false) {command : String} :
    Block.Completes (commandBlock surroundings command) := by
  refine (completes_lockAdapterMutex hfree).seq ?_
  split
  · exact completes_skip
  · exact completes_operation

theorem completes_modeBlock
    (hfree : surroundings.adapterMutexHeld = false ∨
      (contains msg "_Live" || contains msg "_Backtest") = false) :
    Block.Completes (modeBlock config surroundings msg) := by
  have hunheld : (contains msg "_Live" || contains msg "_Backtest") = true →
      surroundings.adapterMutexHeld = false := by
    intro hmode
    exact hfree.resolve_right (by simp [hmode])
  rw [modeBlock]
  split
  · next hlive =>
      exact completes_operation.seq
        (completes_commandBlock (hunheld (by simp [hlive])))
  split
  · next hbacktest =>
      refine completes_operation.seq
        ((completes_commandBlock (hunheld (by simp [hbacktest]))).seq ?_)
      split
      · exact completes_operation
      · exact completes_skip
  · exact completes_skip

theorem completes_subscribeBlock :
    Block.Completes (subscribeBlock msg) := by
  rw [subscribeBlock]
  split
  · exact completes_operation
  · exact completes_skip

theorem plainBlock_returned
    (hfree : surroundings.adapterMutexHeld = false ∨
      (contains msg "_Live" || contains msg "_Backtest") = false)
    (channel : Channel) :
    (plainBlock config surroundings msg channel).1 = .returned := by
  rw [plainBlock, (completes_modeBlock hfree).seq_apply,
    completes_subscribeBlock.seq_apply]
  rfl

theorem modeBlock_stuck (hheld : surroundings.adapterMutexHeld = true)
    (hmode : (contains msg "_Live" || contains msg "_Backtest") = true)
    (channel : Channel) :
    (modeBlock config surroundings msg channel).1 = .stuck := by
  have hcommand : ∀ command state,
      (commandBlock surroundings command state).1 = .stuck :=
    fun _ state => seq_lockAdapterMutex_stuck hheld _ state
  rw [modeBlock]
  split
  · rw [completes_operation.seq_apply]
    exact hcommand _ _
  split
  · rw [completes_operation.seq_apply,
      seq_of_ne_next (by rw [hcommand]; exact nofun)]
    exact hcommand _ _
  · next hlive hbacktest => simp [hlive, hbacktest] at hmode

theorem plainBlock_stuck (hheld : surroundings.adapterMutexHeld = true)
    (hmode : (contains msg "_Live" || contains msg "_Backtest") = true)
    (channel : Channel) :
    (plainBlock config surroundings msg channel).1 = .stuck := by
  have hstuck : (modeBlock config surroundings msg channel).1 = .stuck :=
    modeBlock_stuck hheld hmode channel
  rw [plainBlock, seq_of_ne_next (by rw [hstuck]; exact nofun)]
  exact hstuck

end Ends

theorem onReadBlock_success (config : Config) (surroundings : Surroundings)
    (channel : Channel) :
    onReadBlock config surroundings .success channel =
      seq (catchAll (jsonBlock config surroundings channel.buffer))
        (plainBlock config surroundings channel.buffer) channel :=
  if_neg fun hother => hother rfl

/-- `on_read` returns from a message, unless it waits in vain. -/
theorem onReadBlock_returned_iff (config : Config)
    (surroundings : Surroundings) (channel : Channel) :
    (onReadBlock config surroundings .success channel).1 = .returned ↔
      hangs config surroundings channel.buffer = false := by
  rw [onReadBlock_success, hangs]
  cases hparse : config.parse channel.buffer with
  | some json =>
      have hstuck :
          (jsonBlock config surroundings channel.buffer channel).1 = .stuck ↔
            jsonHangs config surroundings json = true :=
        jsonBlock_stuck_iff hparse channel
      cases hhangs : jsonHangs config surroundings json with
      | true =>
          rw [seq_catchAll_stuck (hstuck.mpr hhangs)]
          simp [hhangs]
      | false =>
          have hfree : surroundings.adapterMutexHeld = false := by
            rw [jsonHangs, Bool.or_eq_false_iff] at hhangs
            exact hhangs.1
          have hgoes := mt hstuck.mp (by rw [hhangs]; decide)
          rw [seq_catchAll_returned hgoes (plainBlock_returned (.inl hfree))]
          simp [hhangs]
  | none =>
      have hraise : jsonBlock config surroundings channel.buffer = raise := by
        rw [jsonBlock, hparse]
        rfl
      rw [hraise]
      cases hhangs : surroundings.adapterMutexHeld &&
          (contains channel.buffer "_Live" ||
            contains channel.buffer "_Backtest") with
      | true =>
          rw [Bool.and_eq_true] at hhangs
          have hstuck : (plainBlock config surroundings channel.buffer
              channel).1 = .stuck :=
            plainBlock_stuck hhangs.1 hhangs.2 channel
          have hraised : catchAll raise channel = (.next, channel) := rfl
          rw [seq_of_next hraised, hstuck]
          exact iff_of_false nofun Bool.noConfusion
      | false =>
          rw [Bool.and_eq_false_iff] at hhangs
          rw [seq_catchAll_returned (goesOn_raise channel)
            (plainBlock_returned hhangs)]
          exact iff_of_true rfl rfl

/-- Every exit of `on_read` for a message is the return behind one of its
`do_read`s, which is the only one of the run. -/
theorem onReadBlock_rearms {config : Config} {surroundings : Surroundings}
    {channel : Channel}
    (hreturned : (onReadBlock config surroundings .success channel).1 =
      .returned) :
    Rearmed channel (onReadBlock config surroundings .success channel).2 := by
  have hends := composable_reads.seq
    (ends_jsonBlock config surroundings channel.buffer).catchAll
    (ends_plainBlock config surroundings channel.buffer)
  rw [onReadBlock_success] at hreturned ⊢
  exact hends.returned channel hreturned

/-- Where `on_read` waits, it has not touched its buffer. -/
theorem onReadBlock_untouched {config : Config} {surroundings : Surroundings}
    {channel : Channel}
    (hhangs : hangs config surroundings channel.buffer = true) :
    Untouched channel
      (onReadBlock config surroundings .success channel).2 := by
  have hends := composable_reads.seq
    (ends_jsonBlock config surroundings channel.buffer).catchAll
    (ends_plainBlock config surroundings channel.buffer)
  have hleft := mt (onReadBlock_returned_iff config surroundings channel).mp
    (by rw [hhangs]; decide)
  rw [onReadBlock_success] at hleft ⊢
  exact hends.kept channel hleft

/-! ## The calls of a message -/

/-- What a call comes to, by itself or one broadcast at a time. -/
def operationsOf (registration : Registration) : Call → List Operation
  | .relay complete =>
      (relayedTopics complete).map Operation.broadcastToTopic
  | .commandAdapter command =>
      if registration = .none then [] else [.call (.commandAdapter command)]
  | other => [.call other]

/-- A channel after some calls. -/
def Channel.logged (registration : Registration) (calls : List Call)
    (channel : Channel) : Channel :=
  { channel with
    log := channel.log ++ calls.flatMap (operationsOf registration) }

section Log

variable {config : Config} {registration : Registration} {msg : String}
  {channel : Channel}

theorem attempt_quiet (operation : Operation) :
    attempt (.quiet registration) operation = perform operation := rfl

theorem quiet_registration :
    (Surroundings.quiet registration).registration = registration := rfl

theorem switchBlock_quiet (exchangeType : LiveSource.ExchangeType)
    (symbols : List String) :
    switchBlock (.quiet registration) exchangeType symbols =
      attempt (.quiet registration)
        (.call (.switchExchange exchangeType symbols)) := rfl

theorem seq_lockAdapterMutex_quiet (block : Block Channel) :
    seq (lockAdapterMutex (.quiet registration)) block = block := rfl

theorem all_attempts (registration : Registration)
    (operations : List Operation) (channel : Channel) :
    all (operations.map (attempt (.quiet registration))) channel =
      (.next, { channel with log := channel.log ++ operations }) := by
  induction operations generalizing channel with
  | nil => simp [all, skip]
  | cons operation operations ih =>
      rw [List.map_cons, all, attempt_quiet, completes_operation.seq_apply,
        ih]
      simp [Channel.perform, Block.perform]

/-- What a branch of the attempt has called before it returns. -/
theorem catchAll_seq_rearm {block : Block Channel} {calls : List Call}
    (hblock : block channel = (.next, channel.logged registration calls)) :
    catchAll (seq block rearm) channel =
      rearm (channel.logged registration calls) := by
  rw [catchAll, seq_of_next hblock]
  rfl

theorem attempt_logged {call : Call}
    (hcall : operationsOf registration call = [.call call]) :
    attempt (.quiet registration) (.call call) channel =
      (.next, channel.logged registration [call]) := by
  rw [attempt_quiet, Channel.logged, List.flatMap_singleton, hcall]
  rfl

/-- Where nothing throws or waits, the attempt makes the calls of its branch. -/
theorem catchAll_jsonBlock (howned : registration ≠ .abandoned)
    (config : Config) (msg : String) (channel : Channel) :
    catchAll (jsonBlock config (.quiet registration) msg) channel =
      match jsonCalls config (registration = .self) msg with
      | some calls => rearm (channel.logged registration calls)
      | none => (.next, channel) := by
  have hregister : registerBlock (.quiet registration) =
      attempt (.quiet registration) (.call .registerAdapter) := by
    rw [registerBlock, attempt_quiet]
    exact if_neg howned
  rw [jsonBlock, jsonCalls]
  cases config.parse msg with
  | none => rfl
  | some json =>
      simp only [Option.bind_some, withValue, decide_eq_true_eq,
        seq_lockAdapterMutex_quiet, hregister, requestBlock,
        switchBlock_quiet]
      split
      · exact catchAll_seq_rearm (attempt_logged rfl)
      have hquiet : (Surroundings.quiet registration).registration = .self ↔
          registration = .self := Iff.rfl
      by_cases hself : registration = .self
      · rw [if_pos (hquiet.mpr hself), if_pos hself]
        refine catchAll_seq_rearm ?_
        have hall := all_attempts registration
          ((relayedTopics (json.has "topic" "backtest_complete")).map
            Operation.broadcastToTopic) channel
        rw [List.map_map] at hall
        refine hall.trans ?_
        rw [Channel.logged, List.flatMap_singleton, operationsOf]
      rw [if_neg (hquiet.not.mpr hself), if_neg hself]
      split
      · exact catchAll_seq_rearm (attempt_logged rfl)
      split
      · cases exchangeMember json with
        | none => rfl
        | some exchange =>
            simp only [Option.bind_some]
            split
            · cases switchSymbols (switchType exchange) json with
              | none => rfl
              | some symbols =>
                  exact catchAll_seq_rearm (attempt_logged rfl)
            · refine catchAll_seq_rearm (Prod.ext rfl ?_)
              simp [Channel.logged, skip]
      · rfl

theorem logged_append (calls more : List Call) :
    (channel.logged registration calls).logged registration more =
      channel.logged registration (calls ++ more) := by
  simp [Channel.logged]

theorem perform_logged {call : Call}
    (hcall : operationsOf registration call = [.call call]) :
    Channel.perform (.call call) channel =
      (.next, channel.logged registration [call]) := by
  rw [Channel.logged, List.flatMap_singleton, hcall]
  rfl

theorem commandBlock_logged (command : String) :
    commandBlock (.quiet registration) command channel =
      (.next, channel.logged registration [.commandAdapter command]) := by
  rw [commandBlock, seq_lockAdapterMutex_quiet, Channel.logged,
    List.flatMap_singleton, operationsOf, quiet_registration]
  split
  · simp [skip]
  · rfl

theorem seq_logged {first second : Block Channel} {calls more : List Call}
    (hfirst : first channel = (.next, channel.logged registration calls))
    (hsecond : ∀ middle : Channel,
      second middle = (.next, middle.logged registration more)) :
    seq first second channel =
      (.next, channel.logged registration (calls ++ more)) := by
  rw [seq_of_next hfirst, hsecond, logged_append]

theorem skip_logged :
    skip channel = (.next, channel.logged registration []) := by
  simp [skip, Channel.logged]

theorem modeBlock_logged (channel : Channel) :
    modeBlock config (.quiet registration) msg channel =
      (.next, channel.logged registration (modeCalls config msg)) := by
  rw [modeBlock, modeCalls]
  split
  · exact seq_logged (perform_logged rfl) fun _ => commandBlock_logged _
  split
  · have hreplay : ∀ final : Channel,
        (if config.backtestSource then
          Channel.perform (.call (.startReplay (dateRange msg)))
        else skip) final =
          (.next, final.logged registration
            (if config.backtestSource then [.startReplay (dateRange msg)]
            else [])) := by
      intro final
      split
      · exact perform_logged rfl
      · exact skip_logged
    change _ = (Exit.next, channel.logged registration
      ([.setClientMode "_Backtest" (dateRange msg)] ++
        ([.commandAdapter startCommand] ++
          if config.backtestSource then [.startReplay (dateRange msg)] else [])))
    exact seq_logged (perform_logged rfl) fun _ =>
      seq_logged (commandBlock_logged _) hreplay
  · exact skip_logged

theorem subscribeBlock_logged (channel : Channel) :
    subscribeBlock msg channel =
      (.next, channel.logged registration (subscribeCalls msg)) := by
  rw [subscribeBlock, subscribeCalls]
  split
  · exact perform_logged rfl
  · exact skip_logged

theorem plainBlock_logged :
    plainBlock config (.quiet registration) msg channel =
      rearm (channel.logged registration (plainCalls config msg)) := by
  rw [plainBlock, seq_of_next (modeBlock_logged channel),
    seq_of_next (subscribeBlock_logged _), logged_append]
  rfl

/-- The statements of `on_read` make the calls of a message in their order. -/
theorem onReadBlock_log (howned : registration ≠ .abandoned) :
    (onReadBlock config (.quiet registration) .success channel).2.log =
      channel.log ++
        (onReadCalls config (registration = .self) channel.buffer).flatMap
          (operationsOf registration) := by
  have hattempt := catchAll_jsonBlock howned config channel.buffer channel
  have hrearm : ∀ calls : List Call,
      (rearm (channel.logged registration calls)).2.log =
        channel.log ++
          (calls ++ [Call.doRead]).flatMap (operationsOf registration) := by
    intro calls
    simp [rearm, leave, Channel.logged, operationsOf]
  rw [onReadBlock_success, onReadCalls]
  cases hcalls : jsonCalls config (registration = .self) channel.buffer with
  | some calls =>
      rw [hcalls] at hattempt
      have hexit : (catchAll (jsonBlock config (.quiet registration)
          channel.buffer) channel).1 ≠ .next := by
        rw [hattempt]
        simp [rearm, leave]
      rw [seq_of_ne_next hexit, hattempt]
      simp only [hrearm, Option.getD_some]
  | none =>
      rw [hcalls] at hattempt
      rw [seq_of_next hattempt, plainBlock_logged, hrearm, Option.getD_none]

end Log

/-! ## The messages of a session -/

/-- A session with the messages it was sent and those that `on_read` saw. -/
structure Session where
  channel : Channel := { reads := 1 }
  ended : Bool := false
  received : List String := []
  handled : List String := []

inductive Delivery
  /-- A message arrives; what it finds may be different for each of them. -/
  | message (text : String) (surroundings : Surroundings)
  | error (closed : Bool)

/-- An `async_read` completes, which needs one to be outstanding. -/
def step (config : Config) (session : Session) :
    Delivery → Option Session
  | .message text surroundings =>
      if session.channel.reads = 0 then none
      else
        let arrived : Channel :=
          { session.channel with
            buffer := session.channel.buffer ++ text
            reads := session.channel.reads - 1 }
        some
          { session with
            channel := (onReadBlock config surroundings .success arrived).2
            received := session.received ++ [text]
            handled := session.handled ++ [arrived.buffer] }
  | .error closed =>
      if session.channel.reads = 0 then none
      else
        let arrived : Channel :=
          { session.channel with reads := session.channel.reads - 1 }
        let result : ReadResult := if closed then .closed else .failed
        some
          { session with
            channel := (onReadBlock config (.quiet .none) result arrived).2
            ended := true }

/-- A session after the `do_read` of `on_accept`. -/
def machine (config : Config) : Machine Session Delivery where
  initial := {}
  step := step config

/-- One read is outstanding until the connection ends, on an empty buffer, and
every message is handled as it was sent. -/
structure Reads (session : Session) : Prop where
  outstanding : session.channel.reads = if session.ended then 0 else 1
  empty : session.channel.buffer = ""
  handled : session.handled = session.received

/-- The handling of a message that arrives does not wait in vain. -/
def GetsOn (config : Config) (session : Session) : Delivery → Prop
  | .message text surroundings =>
      session.ended = false → hangs config surroundings text = false
  | .error _ => True

theorem Reads.reads_eq_zero_iff {session : Session} (hreads : Reads session) :
    session.channel.reads = 0 ↔ session.ended = true := by
  rw [hreads.outstanding]
  cases session.ended <;> simp

/-- The handling of a message leaves one read and an empty buffer exactly if it
does not wait in vain; then it saw the message alone. -/
theorem Reads.message_iff {config : Config} {session : Session}
    (hreads : Reads session) (hopen : session.ended = false) (text : String)
    (surroundings : Surroundings) :
    hangs config surroundings text = false ↔
      ∀ next, step config session (.message text surroundings) = some next →
        Reads next := by
  have hone : session.channel.reads = 1 := by
    rw [hreads.outstanding, hopen]
    rfl
  rw [step, if_neg (by rw [hone]; decide), hreads.empty, String.empty_append]
  simp only [hopen, Option.some.injEq, forall_eq']
  generalize harrived : ({ session.channel with
    buffer := text, reads := session.channel.reads - 1 } : Channel) = arrived
  have hreturned := onReadBlock_returned_iff config surroundings arrived
  have hbuffer : arrived.buffer = text := by rw [← harrived]
  have hcount : arrived.reads = 0 := by rw [← harrived, hone]
  rw [hbuffer] at hreturned
  constructor
  · intro hgoes
    obtain ⟨hempty, hissued⟩ := onReadBlock_rearms (hreturned.mpr hgoes)
    refine ⟨?_, hempty, ?_⟩
    · simp only [hissued, hcount]
      rfl
    · simp only [hreads.handled]
  · intro hnext
    by_contra hhangs
    rw [Bool.not_eq_false, ← hbuffer] at hhangs
    have hnone := (onReadBlock_untouched hhangs).2
    have houtstanding := hnext.outstanding
    simp [hnone, hcount] at houtstanding

/-- An error ends the reads of a session. -/
theorem Reads.error {config : Config} {session next : Session}
    (hreads : Reads session) {closed : Bool}
    (hstep : step config session (.error closed) = some next) :
    Reads next := by
  rw [step] at hstep
  split at hstep
  · cases hstep
  · next hzero =>
      obtain rfl := Option.some.inj hstep
      have hone : session.channel.reads = 1 := by
        have houtstanding := hreads.outstanding
        split at houtstanding
        · exact absurd houtstanding hzero
        · exact houtstanding
      have hfailed : (if closed then ReadResult.closed else .failed) ≠
          .success := by
        split <;> decide
      refine ⟨?_, ?_, hreads.handled⟩
      · simp [onReadBlock, hfailed, hone]
      · simp [onReadBlock, hfailed, hreads.empty]

/-- One delivery keeps the reads going exactly when its handling gets on. -/
theorem Reads.getsOn_iff {config : Config} {session : Session}
    (hreads : Reads session) (delivery : Delivery) :
    GetsOn config session delivery ↔
      ∀ next, step config session delivery = some next → Reads next := by
  cases delivery with
  | message text surroundings =>
      rw [GetsOn]
      cases hended : session.ended with
      | true =>
          have hzero := hreads.reads_eq_zero_iff.mpr hended
          simp [step, hzero]
      | false =>
          rw [← hreads.message_iff hended text surroundings]
          simp
  | error closed => exact iff_of_true trivial fun _ => hreads.error

/-- Whatever throws, `on_read` empties the buffer and issues one read exactly
where it does not wait in vain: for a mutex that is held for good, or under
`g_adapter_mutex` for the destructor of the adapter that it replaces.  So in
every run of a session there is one read until the connection ends, and a
message is handled as it was sent, exactly if no message meets that. -/
theorem onRead_keeps_reading_iff (config : Config) :
    (∀ surroundings channel,
      (onReadBlock config surroundings .success channel).1 = .returned ∧
          Rearmed channel
            (onReadBlock config surroundings .success channel).2 ↔
        hangs config surroundings channel.buffer = false) ∧
      ∀ deliveries,
        (machine config).Throughout Reads (machine config).initial deliveries ↔
          (machine config).Along (GetsOn config) (machine config).initial
            deliveries := by
  constructor
  · intro surroundings channel
    rw [← onReadBlock_returned_iff config surroundings channel]
    exact and_iff_left_of_imp onReadBlock_rearms
  · intro deliveries
    have hinitial : Reads (machine config).initial := ⟨rfl, rfl, rfl⟩
    have htrivial : ∀ state delivery next, (fun _ => True) state →
        (machine config).step state delivery = some next →
          (fun _ => True) next := fun _ _ _ _ _ => trivial
    exact Machine.throughout_iff_along htrivial
      (fun _ delivery _ hreads => hreads.getsOn_iff delivery) trivial hinitial

/-! ## The adapter of the other sessions -/

section Adapter

variable {Client : Type} [DecidableEq Client]

/-- What the sessions of the server make of a registration. -/
def registrationOf (state : State Client) (session : Client) : Registration :=
  match state.adapterSession with
  | none => .none
  | some adapter =>
      if adapter = session then .self
      else if state.pendingOperations adapter = 0 then .abandoned
      else .other

/-- A registration finds an abandoned adapter exactly where it waits for its own
mutex. -/
theorem registrationOf_eq_abandoned_iff (state : State Client)
    (session : Client) :
    registrationOf state session = .abandoned ↔
      ¬ Completes state (.registerAdapter session) := by
  rw [completes_iff, ReplacedIsPending, registrationOf]
  cases state.adapterSession with
  | none => simp
  | some adapter =>
      by_cases hsame : adapter = session
      · simp [hsame]
      · by_cases hpending : state.pendingOperations adapter = 0
        · simp [hsame, hpending]
        · simp [hsame, hpending]

end Adapter

/-- A registration, as JSON. -/
def adapterMessage : Json := .object [("type", .string "adapter")]

def adapterConfig : Config where
  parse msg :=
    if msg = "\x7b\"type\":\"adapter\"\x7d" then some adapterMessage else none
  liveSource := true
  backtestSource := true

/-- The second adapter of `replacedAdapter` reads nothing any more, and its
message stays in the buffer. -/
theorem replacedAdapter_stops_reading :
    ∃ state, Server.machine.run Server.machine.initial
        (replacedAdapter.take 6) = some state ∧
      ∃ session, (machine adapterConfig).run (machine adapterConfig).initial
          [.message "\x7b\"type\":\"adapter\"\x7d"
            (.quiet (registrationOf state 2))] = some session ∧
        session.ended = false ∧ session.channel.reads = 0 ∧
        session.channel.buffer = "\x7b\"type\":\"adapter\"\x7d" ∧
        ¬ Reads session := by
  refine ⟨_, rfl, _, rfl, rfl, rfl, rfl, fun hreads => ?_⟩
  exact absurd hreads.outstanding (by decide)

end Datafeed.Server.Reading
