import Datafeed.Server.Subscriptions

/-!
# Relaying the messages of the adapter

A message of the registered adapter is broadcast on each of the relay topics in
turn, so a client gets one copy for each of these topics that it holds.
-/

namespace Datafeed.Server

open SessionManager Text

variable {Session : Type} [DecidableEq Session]

/-- The topics of the relay that a subscription can name. -/
def marketTopics : List String := ["price_", "bid_", "ask_"]

/-- The market topics that the session holds. -/
def heldTopics (manager : Manager Session) (session : Session) : List String :=
  marketTopics.filter fun topic => session ∈ manager.topicSubscribers topic

/-- A message of the adapter that is broadcast: JSON, and no registration. -/
def relays (config : Config) (msg : String) : Bool :=
  ((config.parse msg).map fun json => !json.has "type" "adapter").getD false

/-- Handling the message sends it once to every client that holds one of the
market topics, and to no other client. -/
def RelayedOnce (config : Config) (state : State Session) (adapter : Session)
    (msg : String) : Prop :=
  ∃ next, onRead config adapter msg state = some next ∧
    ∀ session ∈ state.manager.clients,
      (next.queue session).posted.count msg =
        (state.queue session).posted.count msg +
          if ∃ topic ∈ marketTopics,
              session ∈ state.manager.topicSubscribers topic
          then 1 else 0

/-- No client holds two of the market topics, nor any of them when the message
is not broadcast. -/
def HoldsAtMostOne (config : Config) (state : State Session) (msg : String) :
    Prop :=
  ∀ session ∈ state.manager.clients,
    (heldTopics state.manager session).length ≤
      if relays config msg then 1 else 0

/-! ## The copies that one session gets -/

theorem count_messagesFor (session : Session) (msg : String)
    (calls : List (Session × String)) :
    (messagesFor session calls).count msg = calls.count (session, msg) := by
  induction calls with
  | nil => rfl
  | cons call calls ih =>
      obtain ⟨receiver, text⟩ := call
      rw [messagesFor] at ih ⊢
      by_cases hsame : receiver = session
      · simp [hsame, List.count_cons, ih]
      · simp [hsame, ih]

/-- A session gets one copy for each topic of the list that it holds. -/
theorem count_flatMap_broadcastToTopic {manager : Manager Session}
    (hindexed : Indexed manager) (topics : List String) (msg : String)
    (session : Session) :
    (topics.flatMap fun topic => manager.broadcastToTopic topic msg).count
        (session, msg) =
      (topics.filter fun topic =>
        session ∈ manager.topicSubscribers topic).length := by
  induction topics with
  | nil => rfl
  | cons topic topics ih =>
      rw [List.flatMap_cons, List.count_append, ih,
        count_broadcastToTopic hindexed, List.filter_cons]
      by_cases hlisted : session ∈ manager.topicSubscribers topic
      · simp [hlisted, Nat.add_comm]
      · simp [hlisted]

/-- Only the market topics among the topics of the relay have subscribers. -/
theorem Recorded.filter_relayTopics {conversation : Conversation Session}
    (hrecorded : Recorded conversation) {session : Session}
    (hmem : session ∈ conversation.state.manager.clients) (complete : Bool) :
    ((relayTopics ++ if complete then ["backtest_complete"] else []).filter
      fun topic =>
        session ∈ conversation.state.manager.topicSubscribers topic) =
      heldTopics conversation.state.manager session := by
  have hunlisted : ∀ topic, (∀ entry ∈ topicWords, entry.2 ≠ topic) →
      session ∉ conversation.state.manager.topicSubscribers topic := by
    intro topic hnone hlisted
    exact not_subscribed_of_not_mem hnone
      ((hrecorded.topics session hmem topic).mp hlisted)
  have hprice := hunlisted "backtest_price_" (by decide)
  have hbid := hunlisted "backtest_bid_" (by decide)
  have hask := hunlisted "backtest_ask_" (by decide)
  have hcomplete := hunlisted "backtest_complete" (by decide)
  cases complete with
  | true =>
      simp [relayTopics, heldTopics, marketTopics, List.filter_cons, hprice,
        hbid, hask, hcomplete]
  | false =>
      simp [relayTopics, heldTopics, marketTopics, List.filter_cons, hprice,
        hbid, hask]

/-! ## Messages that are not relayed -/

/-- The action posts no copy of the message, and the adapter can take it. -/
def Action.Quiet (adapter : Session) (msg : String) : Action Session → Prop
  | .registerAdapter registering => registering = adapter
  | .setClientMode updated _ _ => updated = adapter
  | .addClientTopics subscribed _ => subscribed = adapter
  | .commandAdapter sender command => sender = adapter ∧ command ≠ msg
  | _ => False

theorem step_quiet {state : State Session} {adapter : Session} {msg : String}
    {action : Action Session} (hreading : state.phase adapter = .reading)
    (hadapter : state.adapterSession = some adapter)
    (hquiet : action.Quiet adapter msg) :
    ∃ next, step state action = some next ∧
      next.phase adapter = .reading ∧ next.adapterSession = some adapter ∧
      ∀ session, (next.queue session).posted.count msg =
        (state.queue session).posted.count msg := by
  cases action with
  | registerAdapter registering =>
      obtain rfl := hquiet
      refine ⟨state.after (.registerAdapter registering),
        step_eq_some_iff.mpr ⟨by simp [enabled, hreading], ?_, rfl⟩,
        hreading, rfl, fun _ => rfl⟩
      intro previous hprevious hother
      rw [hadapter] at hprevious
      exact absurd (Option.some.inj hprevious).symm hother
  | setClientMode updated mode date =>
      obtain rfl := hquiet
      exact ⟨state.after (.setClientMode updated mode date),
        step_eq_some_iff.mpr ⟨by simp [enabled, hreading], trivial, rfl⟩,
        hreading, hadapter, fun _ => rfl⟩
  | addClientTopics subscribed topics =>
      obtain rfl := hquiet
      exact ⟨state.after (.addClientTopics subscribed topics),
        step_eq_some_iff.mpr ⟨by simp [enabled, hreading], trivial, rfl⟩,
        hreading, hadapter, fun _ => rfl⟩
  | commandAdapter sender command =>
      obtain ⟨rfl, hcommand⟩ := hquiet
      refine ⟨state.after (.commandAdapter sender command),
        step_eq_some_iff.mpr ⟨by simp [enabled, hreading], trivial, rfl⟩,
        ?_, ?_, fun session => ?_⟩
      · simp [State.after, hadapter, hreading]
      · simp [State.after, hadapter]
      · simp only [State.after, hadapter]
        rw [post_queue, List.count_append, count_messagesFor]
        simp [hcommand]
  | _ => exact hquiet.elim

theorem run_quiet {state : State Session} {adapter : Session} {msg : String}
    {actions : List (Action Session)}
    (hreading : state.phase adapter = .reading)
    (hadapter : state.adapterSession = some adapter)
    (hquiet : ∀ action ∈ actions, action.Quiet adapter msg) :
    ∃ next, machine.run state actions = some next ∧
      ∀ session, (next.queue session).posted.count msg =
        (state.queue session).posted.count msg := by
  induction actions generalizing state with
  | nil => exact ⟨state, rfl, fun _ => rfl⟩
  | cons action actions ih =>
      obtain ⟨middle, hstep, hphase, hsame, hcount⟩ :=
        step_quiet hreading hadapter (hquiet action List.mem_cons_self)
      obtain ⟨next, hrun, hrest⟩ := ih hphase hsame
        fun other hother => hquiet other (List.mem_cons_of_mem _ hother)
      refine ⟨next, ?_, fun session => (hrest session).trans (hcount session)⟩
      rw [Machine.run_cons]
      change (step state action).bind _ = _
      rw [hstep, Option.bind_some, hrun]

omit [DecidableEq Session] in
theorem quiet_plainCalls {config : Config} {adapter : Session} {msg : String}
    {call : Call} {action : Action Session}
    (hcall : call ∈ plainCalls config msg)
    (haction : call.action adapter msg = some action) :
    action.Quiet adapter msg := by
  have hcommand : ∀ command word, contains msg word = true →
      contains command word = false → command ≠ msg := by
    rintro command word hmsg hother rfl
    rw [hmsg] at hother
    cases hother
  rcases List.mem_append.mp hcall with hmode | hsubscribe
  · rw [modeCalls] at hmode
    split_ifs at hmode with hlive hbacktest hsource
    · simp only [List.mem_cons, List.not_mem_nil, or_false] at hmode
      obtain rfl | rfl := hmode
      · obtain rfl := Option.some.inj haction
        rfl
      · obtain rfl := Option.some.inj haction
        exact ⟨rfl, hcommand _ "_Live" hlive (by decide)⟩
    · simp only [List.cons_append, List.nil_append, List.mem_cons,
        List.not_mem_nil, or_false] at hmode
      obtain rfl | rfl | rfl := hmode
      · obtain rfl := Option.some.inj haction
        rfl
      · obtain rfl := Option.some.inj haction
        exact ⟨rfl, hcommand _ "_Backtest" hbacktest (by decide)⟩
      · cases haction
    · simp only [List.append_nil, List.mem_cons, List.not_mem_nil,
        or_false] at hmode
      obtain rfl | rfl := hmode
      · obtain rfl := Option.some.inj haction
        rfl
      · obtain rfl := Option.some.inj haction
        exact ⟨rfl, hcommand _ "_Backtest" hbacktest (by decide)⟩
    · cases hmode
  · rw [subscribeCalls] at hsubscribe
    split_ifs at hsubscribe
    · obtain rfl := List.mem_singleton.mp hsubscribe
      obtain rfl := Option.some.inj haction
      rfl
    · cases hsubscribe

theorem onReadActions_of_not_relays {config : Config} {state : State Session}
    {adapter : Session} {msg : String}
    (hadapter : state.adapterSession = some adapter)
    (hrelays : relays config msg = false) :
    ∀ action ∈ onReadActions config state adapter msg,
      action.Quiet adapter msg := by
  intro action hmem
  obtain ⟨call, hcall, haction⟩ := List.mem_filterMap.mp hmem
  rw [onReadCalls, jsonCalls, hadapter] at hcall
  rw [relays] at hrelays
  rcases List.mem_append.mp hcall with hcall | hread
  · cases hparse : config.parse msg with
    | none =>
        rw [hparse] at hcall
        exact quiet_plainCalls hcall haction
    | some json =>
        have hregister : json.has "type" "adapter" = true := by
          simpa [hparse] using hrelays
        rw [hparse] at hcall
        simp only [Option.bind_some, hregister, if_true, Option.getD_some,
          List.mem_singleton] at hcall
        obtain rfl := hcall
        obtain rfl := Option.some.inj haction
        rfl
  · obtain rfl := List.mem_singleton.mp hread
    cases haction

theorem onReadActions_of_relays {config : Config} {state : State Session}
    {adapter : Session} {msg : String}
    (hadapter : state.adapterSession = some adapter)
    (hrelays : relays config msg = true) :
    ∃ complete, onReadActions config state adapter msg =
      [.relay adapter msg complete] := by
  rw [relays] at hrelays
  cases hparse : config.parse msg with
  | none => simp [hparse] at hrelays
  | some json =>
      have hregister : json.has "type" "adapter" = false := by
        simpa [hparse] using hrelays
      refine ⟨json.has "topic" "backtest_complete", ?_⟩
      simp [onReadActions, onReadCalls, jsonCalls, hadapter, hparse, hregister,
        Call.action]

/-! ## How often a client is sent the message -/

/-- The copies of a message that handling it sends to one client. -/
def copies (config : Config) (manager : Manager Session) (msg : String)
    (session : Session) : ℕ :=
  if relays config msg then (heldTopics manager session).length else 0

theorem Recorded.onRead_adapter {conversation : Conversation Session}
    (hrecorded : Recorded conversation) (config : Config) (msg : String)
    {adapter : Session}
    (hadapter : conversation.state.adapterSession = some adapter)
    (hreading : conversation.state.phase adapter = .reading) :
    ∃ next, onRead config adapter msg conversation.state = some next ∧
      ∀ session ∈ conversation.state.manager.clients,
        (next.queue session).posted.count msg =
          (conversation.state.queue session).posted.count msg +
            copies config conversation.state.manager msg session := by
  rw [onRead, if_pos hreading]
  by_cases hrelays : relays config msg = true
  · obtain ⟨complete, hactions⟩ := onReadActions_of_relays hadapter hrelays
    have hstep : step conversation.state (.relay adapter msg complete) =
        some (conversation.state.after (.relay adapter msg complete)) :=
      step_eq_some_iff.mpr ⟨by simp [enabled, hreading], trivial, rfl⟩
    rw [hactions]
    refine ⟨_, Machine.run_singleton hstep, fun session hmem => ?_⟩
    · rw [State.after, if_pos hadapter, post_queue, List.count_append,
        count_messagesFor, relayMessages,
        count_flatMap_broadcastToTopic hrecorded.consistent.indexed,
        hrecorded.filter_relayTopics hmem, copies, if_pos hrelays]
  · have hquiet := onReadActions_of_not_relays hadapter
      (Bool.eq_false_iff.mpr hrelays)
    obtain ⟨next, hrun, hcount⟩ := run_quiet hreading hadapter hquiet
    refine ⟨next, hrun, fun session _ => ?_⟩
    rw [hcount session, copies, if_neg hrelays, Nat.add_zero]

theorem exists_market_iff (manager : Manager Session) (session : Session) :
    (∃ topic ∈ marketTopics, session ∈ manager.topicSubscribers topic) ↔
      (heldTopics manager session).length ≠ 0 := by
  rw [ne_eq, List.length_eq_zero_iff, heldTopics, List.filter_eq_nil_iff]
  simp

/-- In every reachable conversation, a message of the adapter is sent once to
the clients that hold a market topic, and to nobody else, exactly when no client
holds two of them, nor any when the message is not broadcast. -/
theorem reachable_relayedOnce_iff {config : Config}
    {conversation : Conversation Session} {adapter : Session} (msg : String)
    (hreach : (conversations config).Reachable conversation)
    (hadapter : conversation.state.adapterSession = some adapter)
    (hreading : conversation.state.phase adapter = .reading) :
    RelayedOnce config conversation.state adapter msg ↔
      HoldsAtMostOne config conversation.state msg := by
  have hrecorded := recorded_of_reachable hreach
  obtain ⟨next, hread, hcount⟩ :=
    hrecorded.onRead_adapter config msg hadapter hreading
  have hsingle : ∀ session,
      (copies config conversation.state.manager msg session =
          if ∃ topic ∈ marketTopics,
              session ∈ conversation.state.manager.topicSubscribers topic
          then 1 else 0) ↔
        (heldTopics conversation.state.manager session).length ≤
          if relays config msg then 1 else 0 := by
    intro session
    simp only [exists_market_iff, copies]
    by_cases hrelays : relays config msg = true
    · simp only [hrelays, if_true]
      split_ifs <;> omega
    · rw [Bool.not_eq_true] at hrelays
      by_cases hnone : (heldTopics conversation.state.manager session).length = 0
      · simp [hrelays, hnone]
      · simp [hrelays, hnone]
  constructor
  · rintro ⟨other, hother, honce⟩ session hmem
    obtain rfl : next = other := by
      rw [hread] at hother
      exact Option.some.inj hother
    have hsent := honce session hmem
    rw [hcount session hmem] at hsent
    exact (hsingle session).mp (Nat.add_left_cancel hsent)
  · intro hone
    refine ⟨next, hread, fun session hmem => ?_⟩
    rw [hcount session hmem, (hsingle session).mpr (hone session hmem)]

def registration : String := "\x7b\"type\":\"adapter\"\x7d"

def quote : String := "\x7b\"price\":1\x7d"

/-- The parser on the texts of the runs below. -/
def sampleConfig : Config where
  parse text :=
    if text = registration then some (.object [("type", .string "adapter")])
    else if text = quote then some (.object [("price", .number 1)])
    else none
  liveSource := true
  backtestSource := true

/-- An adapter registers, and a client subscribes with the text. -/
def adapterAndClient (subscription : String) : List (Event ℕ) :=
  [.transport (.upgrade 1), .transport (.onAccept 1 false),
    .message 1 registration, .transport (.upgrade 2),
    .transport (.onAccept 2 false), .message 2 subscription]

theorem relayedOnce_iff_price :
    ∃ conversation,
      (conversations sampleConfig).run (conversations sampleConfig).initial
          (adapterAndClient "subscribe price") = some conversation ∧
        heldTopics conversation.state.manager 2 = ["price_"] ∧
        (RelayedOnce sampleConfig conversation.state 1 quote ↔
          HoldsAtMostOne sampleConfig conversation.state quote) := by
  refine ⟨_, rfl, by decide, ?_⟩
  have hreach : (conversations sampleConfig).Reachable _ :=
    ⟨adapterAndClient "subscribe price", rfl⟩
  exact reachable_relayedOnce_iff quote hreach rfl rfl

/-- A client that subscribed to prices and bids gets the quote twice. -/
theorem quote_relayed_twice :
    ∃ conversation next,
      (conversations sampleConfig).run (conversations sampleConfig).initial
          (adapterAndClient "subscribe price bid") = some conversation ∧
        conversation.state.adapterSession = some 1 ∧
        onRead sampleConfig 1 quote conversation.state = some next ∧
        (next.queue 2).posted = [quote, quote] ∧
        ¬ RelayedOnce sampleConfig conversation.state 1 quote := by
  refine ⟨_, _, rfl, rfl, rfl, rfl, ?_⟩
  rintro ⟨next, hread, honce⟩
  obtain rfl := Option.some.inj hread
  exact absurd (honce 2 (by decide)) (by decide)

end Datafeed.Server
