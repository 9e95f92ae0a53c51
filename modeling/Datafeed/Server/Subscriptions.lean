import Datafeed.Server.OnRead

/-!
# What subscriptions are served

The topics a client holds are those its messages were read as naming, and the
two sources each publish on one topic.  A conversation is a run of the sessions
in which `on_read` handles whole messages; it records, for every session, the
messages that were handled as plain text.
-/

namespace Datafeed.Server

open SessionManager Text

variable {Session : Type} [DecidableEq Session]

/-! ## Conversations -/

structure Conversation (Session : Type) where
  state : State Session := {}
  texts : Session → List String := fun _ => []

/-- The actions that no message handler takes. -/
def Action.transport : Action Session → Bool
  | .upgrade _ | .onAccept _ _ | .closeRead _ | .broadcastToTopic _ _
  | .runHandler _ | .onWrite _ _ _ => true
  | _ => false

inductive Event (Session : Type)
  /-- A step of the transport, or a broadcast of another thread. -/
  | transport (action : Action Session)
  /-- `on_read` with a text message. -/
  | message (session : Session) (msg : String)
  deriving DecidableEq

namespace Conversation

/-- Whether `on_read` handles the message as plain text. -/
def handledAsText (config : Config) (conversation : Conversation Session)
    (session : Session) (msg : String) : Bool :=
  (jsonCalls config (conversation.state.adapterSession = some session)
    msg).isNone

def message (config : Config) (session : Session) (msg : String)
    (conversation : Conversation Session) : Option (Conversation Session) :=
  (onRead config session msg conversation.state).map fun next =>
    { state := next
      texts :=
        if conversation.handledAsText config session msg then
          Function.update conversation.texts session
            (conversation.texts session ++ [msg])
        else conversation.texts }

def transport (action : Action Session) (conversation : Conversation Session) :
    Option (Conversation Session) :=
  if action.transport then
    (step conversation.state action).map fun next =>
      { conversation with state := next }
  else none

end Conversation

def conversations (config : Config) :
    Machine (Conversation Session) (Event Session) where
  initial := {}
  step conversation event :=
    match event with
    | .transport action => conversation.transport action
    | .message session msg => conversation.message config session msg

/-! ## Market data -/

structure MarketData where
  symbol : String
  price : ℚ
  bid : ℚ
  ask : ℚ
  quantity : ℤ
  timestamp : ℕ

/-- The object that `live_source::on_market_data` sends. -/
def tickJson (data : MarketData) : Json :=
  .object
    [("ask", .number data.ask), ("bid", .number data.bid),
      ("price", .number data.price), ("symbol", .string data.symbol),
      ("timestamp", .number data.timestamp), ("topic", .string "ticker_")]

/-- The object that `backtest_source::on_market_data` sends. -/
def rowJson (data : MarketData) : Json :=
  .object
    [("ask", .number data.ask), ("bid", .number data.bid),
      ("price", .number data.price), ("quantity", .number data.quantity),
      ("symbol", .string data.symbol), ("timestamp", .number data.timestamp),
      ("topic", .string "backtest_price_")]

/-- The messages enqueued by `live_source::on_market_data`. -/
def liveOnMarketData (dump : Json → String) (data : MarketData)
    (manager : Manager Session) : List (Session × String) :=
  manager.broadcastToTopic "ticker_" (dump (tickJson data))

/-- The messages enqueued by `backtest_source::on_market_data`. -/
def backtestOnMarketData (dump : Json → String) (data : MarketData)
    (manager : Manager Session) : List (Session × String) :=
  manager.broadcastToTopic "backtest_price_" (dump (rowJson data))

/-! ## The topics that a message names -/

theorem mem_extractTopics {topic msg : String} :
    topic ∈ extractTopics msg ↔
      ∃ word, (word, topic) ∈ topicWords ∧
        (contains msg word = true ∨ contains msg "all" = true) := by
  constructor
  · intro hmem
    rcases List.mem_append.mp hmem with hword | hall
    · obtain ⟨entry, hentry, rfl⟩ := List.mem_map.mp hword
      obtain ⟨htable, hcontains⟩ := List.mem_filter.mp hentry
      exact ⟨entry.1, htable, Or.inl hcontains⟩
    · split at hall
      · next hcontains =>
          obtain ⟨entry, htable, rfl⟩ := List.mem_map.mp hall
          exact ⟨entry.1, htable, Or.inr hcontains⟩
      · cases hall
  · rintro ⟨word, htable, hword | hall⟩
    · apply List.mem_append_left
      exact List.mem_map.mpr ⟨_, List.mem_filter.mpr ⟨htable, hword⟩, rfl⟩
    · apply List.mem_append_right
      rw [if_pos hall]
      exact List.mem_map.mpr ⟨_, htable, rfl⟩

/-- No message names the topic that `add_client_topics` expands. -/
theorem all_not_mem_extractTopics (msg : String) :
    "all_" ∉ extractTopics msg := by
  intro hmem
  obtain ⟨word, hword, -⟩ := mem_extractTopics.mp hmem
  have hnone : ∀ entry ∈ topicWords, entry.2 ≠ "all_" := by decide
  exact hnone _ hword rfl

theorem mem_grantedTopics_extractTopics {topic msg : String} :
    (∃ granting ∈ extractTopics msg, topic ∈ grantedTopics granting) ↔
      topic ∈ extractTopics msg := by
  have hsame : ∀ granting ∈ extractTopics msg,
      grantedTopics granting = [granting] := by
    intro granting hmem
    rw [grantedTopics, if_neg]
    rintro rfl
    exact all_not_mem_extractTopics msg hmem
  constructor
  · rintro ⟨granting, hmem, hgranted⟩
    rw [hsame granting hmem, List.mem_singleton] at hgranted
    rwa [hgranted]
  · intro hmem
    refine ⟨topic, hmem, ?_⟩
    rw [hsame topic hmem, List.mem_singleton]

/-! ## What the actions do to the lists of subscribers -/

/-- The action subscribes the session to the topic. -/
def Action.Grants (session : Session) (topic : String) :
    Action Session → Prop
  | .addClientTopics subscribed topics =>
      subscribed = session ∧
        ∃ granting ∈ topics, topic ∈ grantedTopics granting
  | _ => False

/-- A registered session has a record. -/
theorem exists_lookup {manager : Manager Session} {session : Session}
    (hmem : session ∈ manager.clients) :
    ∃ info, manager.clients.lookup session = some info :=
  Option.isSome_iff_exists.mp (AList.lookup_isSome.mpr hmem)

theorem mem_topicSubscribers_handler {state next : State Session}
    {action : Action Session} (hconsistent : Consistent state)
    (hhandler : action.transport = false)
    (hstep : step state action = some next) {session : Session}
    {topic : String} :
    session ∈ next.manager.topicSubscribers topic ↔
      session ∈ state.manager.topicSubscribers topic ∨
        action.Grants session topic := by
  obtain ⟨henabled, -, rfl⟩ := step_eq_some_iff.mp hstep
  cases action with
  | addClientTopics subscribed topics =>
      have hreading : state.phase subscribed = .reading := by
        simpa [enabled] using henabled
      have hlive : (state.phase subscribed).Live := by
        rw [hreading]
        decide
      obtain ⟨info, hlookup⟩ :=
        exists_lookup ((hconsistent.registered subscribed).mpr hlive)
      rw [State.after, mem_topicSubscribers_addClientTopics hlookup,
        Action.Grants]
      tauto
  | setClientMode updated mode date =>
      rw [State.after, topicSubscribers_setClientMode]
      simp [Action.Grants]
  | relay relayed msg complete =>
      rw [State.after]
      split
      · simp [Action.Grants]
      · simp [Action.Grants]
  | commandAdapter sender command =>
      rw [State.after]
      split
      · simp [Action.Grants]
      · simp [Action.Grants]
  | broadcastAll sender msg => simp [State.after, Action.Grants]
  | registerAdapter registered => simp [State.after, State.setAdapter, Action.Grants]
  | _ => cases hhandler

/-- The handling of a message neither registers nor removes a session. -/
theorem mem_clients_handler {state next : State Session}
    {action : Action Session} (hhandler : action.transport = false)
    (hstep : step state action = some next) {session : Session} :
    session ∈ next.manager.clients ↔ session ∈ state.manager.clients := by
  obtain ⟨-, -, rfl⟩ := step_eq_some_iff.mp hstep
  cases action with
  | addClientTopics subscribed topics => exact mem_clients_addClientTopics
  | setClientMode updated mode date => exact mem_clients_setClientMode
  | relay relayed msg complete =>
      rw [State.after]
      split
      · rw [post_manager]
      · rfl
  | commandAdapter sender command =>
      rw [State.after]
      split
      · rw [post_manager]
      · rfl
  | broadcastAll sender msg => rw [State.after, post_manager]
  | registerAdapter registered => exact Iff.rfl
  | _ => cases hhandler

theorem run_handler {state next : State Session} {actions : List (Action Session)}
    (hconsistent : Consistent state)
    (hhandler : ∀ action ∈ actions, action.transport = false)
    (hrun : machine.run state actions = some next) :
    Consistent next ∧
      (∀ session, session ∈ next.manager.clients ↔
        session ∈ state.manager.clients) ∧
      ∀ session topic, session ∈ next.manager.topicSubscribers topic ↔
        session ∈ state.manager.topicSubscribers topic ∨
          ∃ action ∈ actions, action.Grants session topic := by
  induction actions generalizing state with
  | nil =>
      obtain rfl : state = next := by simpa using hrun
      exact ⟨hconsistent, fun _ => Iff.rfl, fun _ _ => by simp⟩
  | cons action actions ih =>
      obtain ⟨middle, hstep, hrest⟩ := Machine.exists_of_run_cons hrun
      have hfirst : action.transport = false :=
        hhandler action List.mem_cons_self
      obtain ⟨hnext, hclients, htopics⟩ :=
        ih (consistent_step hconsistent hstep)
          (fun other hother => hhandler other (List.mem_cons_of_mem _ hother))
          hrest
      refine ⟨hnext, fun session => ?_, fun session topic => ?_⟩
      · rw [hclients, mem_clients_handler hfirst hstep]
      · rw [htopics, mem_topicSubscribers_handler hconsistent hfirst hstep,
          List.exists_mem_cons_iff, or_assoc]

theorem mem_topicSubscribers_release {state : State Session}
    {released session : Session} {topic : String}
    (hmem : session ∈ (state.release released).manager.clients) :
    session ∈ (state.release released).manager.topicSubscribers topic ↔
      session ∈ state.manager.topicSubscribers topic := by
  rw [State.release] at hmem ⊢
  split
  · next hunowned =>
      rw [if_pos hunowned] at hmem
      have hother : session ≠ released := (mem_clients_removeClient.mp hmem).1
      change session ∈ (state.manager.removeClient released).topicSubscribers
        topic ↔ _
      cases hlookup : state.manager.clients.lookup released with
      | none => simp [Manager.removeClient, hlookup]
      | some info =>
          rw [mem_topicSubscribers_removeClient hlookup]
          exact and_iff_left fun _ => hother
  · rfl

/-- Transport does not touch the subscriptions of a session that stays. -/
theorem mem_topicSubscribers_transport {state next : State Session}
    {action : Action Session} (htransport : action.transport = true)
    (hstep : step state action = some next) {session : Session}
    {topic : String} (hmem : session ∈ next.manager.clients) :
    session ∈ next.manager.topicSubscribers topic ↔
      session ∈ state.manager.topicSubscribers topic := by
  obtain ⟨-, -, rfl⟩ := step_eq_some_iff.mp hstep
  cases action with
  | upgrade upgraded => exact Iff.rfl
  | onAccept accepted failed => exact mem_topicSubscribers_release hmem
  | closeRead closed => exact mem_topicSubscribers_release hmem
  | broadcastToTopic published msg => rw [State.after, post_manager]
  | runHandler running =>
      rw [State.after, mem_topicSubscribers_release hmem, stepQueue_manager]
  | onWrite writer operation failed =>
      rw [State.after, mem_topicSubscribers_release hmem, stepQueue_manager]
  | _ => cases htransport

theorem mem_clients_of_release {state : State Session}
    {released session : Session}
    (hmem : session ∈ (state.release released).manager.clients) :
    session ∈ state.manager.clients := by
  rw [State.release] at hmem
  split at hmem
  · exact (mem_clients_removeClient.mp hmem).2
  · exact hmem

/-- The sessions that transport leaves registered were registered before, or
have just been upgraded. -/
theorem mem_clients_of_transport {state next : State Session}
    {action : Action Session} (htransport : action.transport = true)
    (hstep : step state action = some next) {session : Session}
    (hmem : session ∈ next.manager.clients) :
    session ∈ state.manager.clients ∨ state.phase session = .absent := by
  obtain ⟨henabled, -, rfl⟩ := step_eq_some_iff.mp hstep
  cases action with
  | upgrade upgraded =>
      rcases mem_clients_addClient.mp hmem with rfl | hbefore
      · exact Or.inr (by simpa [enabled] using henabled)
      · exact Or.inl hbefore
  | onAccept accepted failed =>
      have hbefore := mem_clients_of_release hmem
      exact Or.inl hbefore
  | closeRead closed =>
      have hbefore := mem_clients_of_release hmem
      exact Or.inl hbefore
  | broadcastToTopic published msg =>
      rw [State.after, post_manager] at hmem
      exact Or.inl hmem
  | runHandler running =>
      have hbefore := mem_clients_of_release hmem
      rw [stepQueue_manager] at hbefore
      exact Or.inl hbefore
  | onWrite writer operation failed =>
      have hbefore := mem_clients_of_release hmem
      rw [stepQueue_manager] at hbefore
      exact Or.inl hbefore
  | _ => cases htransport

theorem absent_of_release {state : State Session} {released session : Session}
    (habsent : (state.release released).phase session = .absent) :
    state.phase session = .absent := by
  rw [State.release] at habsent
  split at habsent
  · by_cases hsame : session = released
    · simp [State.destroy, hsame] at habsent
    · simpa [State.destroy, hsame] using habsent
  · exact habsent

theorem absent_of_setPhase {state : State Session} {session other : Session}
    {phase : Phase} (hphase : phase ≠ .absent)
    (habsent : (state.setPhase session phase).phase other = .absent) :
    state.phase other = .absent := by
  by_cases hsame : other = session
  · simp [State.setPhase, hsame, hphase] at habsent
  · simpa [State.setPhase, hsame] using habsent

/-- No step undoes the construction of a session. -/
theorem absent_of_step {state next : State Session} {action : Action Session}
    (hstep : step state action = some next) {session : Session}
    (habsent : next.phase session = .absent) :
    state.phase session = .absent := by
  obtain ⟨-, -, rfl⟩ := step_eq_some_iff.mp hstep
  cases action with
  | upgrade upgraded =>
      have hphase : Phase.accepting ≠ .absent := by decide
      exact absent_of_setPhase hphase habsent
  | onAccept accepted failed =>
      refine absent_of_setPhase ?_ (absent_of_release habsent)
      cases failed <;> decide
  | closeRead closed =>
      exact absent_of_setPhase (by decide) (absent_of_release habsent)
  | registerAdapter registered => exact habsent
  | relay relayed msg complete =>
      rw [State.after] at habsent
      split at habsent
      · rwa [post_phase] at habsent
      · exact habsent
  | broadcastAll sender msg =>
      rwa [State.after, post_phase] at habsent
  | setClientMode updated mode date => exact habsent
  | commandAdapter sender command =>
      rw [State.after] at habsent
      split at habsent
      · rwa [post_phase] at habsent
      · exact habsent
  | addClientTopics subscribed topics => exact habsent
  | broadcastToTopic published msg =>
      rwa [State.after, post_phase] at habsent
  | runHandler running =>
      have hbefore := absent_of_release habsent
      rwa [stepQueue_phase] at hbefore
  | onWrite writer operation failed =>
      have hbefore := absent_of_release habsent
      rwa [stepQueue_phase] at hbefore

theorem absent_of_run {state next : State Session}
    {actions : List (Action Session)}
    (hrun : machine.run state actions = some next) {session : Session}
    (habsent : next.phase session = .absent) :
    state.phase session = .absent := by
  induction actions generalizing state with
  | nil =>
      obtain rfl : state = next := by simpa using hrun
      exact habsent
  | cons action actions ih =>
      obtain ⟨middle, hstep, hrest⟩ := Machine.exists_of_run_cons hrun
      exact absent_of_step hstep (ih hrest)

/-! ## Subscriptions are what the messages named -/

/-- The session has sent a subscription that was read as naming the topic. -/
def Subscribed (texts : List String) (topic : String) : Prop :=
  ∃ msg ∈ texts,
    contains msg "subscribe" = true ∧ topic ∈ extractTopics msg

structure Recorded (conversation : Conversation Session) : Prop where
  consistent : Consistent conversation.state
  fresh : ∀ session, conversation.state.phase session = .absent →
    conversation.texts session = []
  topics : ∀ session ∈ conversation.state.manager.clients, ∀ topic,
    session ∈ conversation.state.manager.topicSubscribers topic ↔
      Subscribed (conversation.texts session) topic

theorem recorded_initial (config : Config) :
    Recorded (conversations config :
      Machine (Conversation Session) (Event Session)).initial where
  consistent := consistent_initial
  fresh _ _ := rfl
  topics session hmem := absurd hmem (AList.notMem_empty session)

theorem Recorded.transport {conversation next : Conversation Session}
    {action : Action Session} (hrecorded : Recorded conversation)
    (hnext : conversation.transport action = some next) : Recorded next := by
  rw [Conversation.transport] at hnext
  split at hnext
  · next htransport =>
      obtain ⟨state, hstep, rfl⟩ := Option.map_eq_some_iff.mp hnext
      refine ⟨consistent_step hrecorded.consistent hstep,
        fun session habsent =>
          hrecorded.fresh session (absent_of_step hstep habsent),
        fun session hmem topic => ?_⟩
      rw [mem_topicSubscribers_transport htransport hstep hmem]
      rcases mem_clients_of_transport htransport hstep hmem with
        hbefore | habsent
      · exact hrecorded.topics session hbefore topic
      · rw [hrecorded.fresh session habsent]
        apply iff_of_false
        · intro hlisted
          exact (hrecorded.consistent.listed topic session hlisted).live.1
            habsent
        · simp [Subscribed]
  · cases hnext

omit [DecidableEq Session] in
/-- A call of `on_read` is no step of the transport. -/
theorem transport_of_action {session : Session} {msg : String} {call : Call}
    {action : Action Session} (haction : call.action session msg = some action) :
    action.transport = false := by
  cases call with
  | switchExchange _ _ => cases haction
  | startReplay _ => cases haction
  | doRead => cases haction
  | _ =>
      obtain rfl := Option.some.inj haction
      rfl

/-- The branches for JSON texts subscribe nobody. -/
theorem addClientTopics_not_mem_jsonCalls {config : Config} {adapter : Bool}
    {msg : String} {calls : List Call} {topics : List String}
    (hcalls : jsonCalls config adapter msg = some calls) :
    .addClientTopics topics ∉ calls := by
  obtain ⟨json, -, hbranch⟩ := Option.bind_eq_some_iff.mp hcalls
  split_ifs at hbranch with hadapter hrelay hresult hswitch hlive
  · obtain rfl := Option.some.inj hbranch
    simp
  · obtain rfl := Option.some.inj hbranch
    simp
  · obtain rfl := Option.some.inj hbranch
    simp
  · obtain ⟨exchange, -, hexchange⟩ := Option.bind_eq_some_iff.mp hbranch
    obtain ⟨symbols, -, rfl⟩ := Option.map_eq_some_iff.mp hexchange
    simp
  · obtain ⟨exchange, -, hexchange⟩ := Option.bind_eq_some_iff.mp hbranch
    obtain rfl := Option.some.inj hexchange
    simp

theorem addClientTopics_mem_plainCalls {config : Config} {msg : String}
    {topics : List String} :
    .addClientTopics topics ∈ plainCalls config msg ↔
      contains msg "subscribe" = true ∧ topics = extractTopics msg := by
  have hmode : .addClientTopics topics ∉ modeCalls config msg := by
    rw [modeCalls]
    split_ifs <;> simp
  rw [plainCalls, List.mem_append, or_iff_right hmode, subscribeCalls]
  split_ifs with hsubscribe
  · simp [hsubscribe]
  · simp [hsubscribe]

theorem addClientTopics_mem_onReadCalls {config : Config} {adapter : Bool}
    {msg : String} {topics : List String} :
    .addClientTopics topics ∈ onReadCalls config adapter msg ↔
      (jsonCalls config adapter msg).isNone = true ∧
        contains msg "subscribe" = true ∧ topics = extractTopics msg := by
  rw [onReadCalls, List.mem_append]
  cases hcalls : jsonCalls config adapter msg with
  | none => simp [addClientTopics_mem_plainCalls]
  | some calls => simp [addClientTopics_not_mem_jsonCalls hcalls]

/-- The messages handled as plain text subscribe their sender to the topics they
name, and no other message subscribes anybody. -/
theorem grants_onReadActions {config : Config} {state : State Session}
    {sender session : Session} {msg topic : String} :
    (∃ action ∈ onReadActions config state sender msg,
        action.Grants session topic) ↔
      sender = session ∧
        (jsonCalls config (state.adapterSession = some sender)
          msg).isNone = true ∧
        contains msg "subscribe" = true ∧ topic ∈ extractTopics msg := by
  constructor
  · rintro ⟨action, hmem, hgrants⟩
    obtain ⟨call, hcall, haction⟩ := List.mem_filterMap.mp hmem
    cases call with
    | addClientTopics topics =>
        obtain rfl := Option.some.inj haction
        obtain ⟨hplain, hsubscribe, rfl⟩ :=
          addClientTopics_mem_onReadCalls.mp hcall
        exact ⟨hgrants.1, hplain, hsubscribe,
          mem_grantedTopics_extractTopics.mp hgrants.2⟩
    | switchExchange _ _ => cases haction
    | startReplay _ => cases haction
    | doRead => cases haction
    | _ =>
        obtain rfl := Option.some.inj haction
        exact hgrants.elim
  · rintro ⟨rfl, hplain, hsubscribe, htopic⟩
    refine ⟨.addClientTopics sender (extractTopics msg), ?_, rfl,
      mem_grantedTopics_extractTopics.mpr htopic⟩
    exact List.mem_filterMap.mpr ⟨_,
      addClientTopics_mem_onReadCalls.mpr ⟨hplain, hsubscribe, rfl⟩, rfl⟩

theorem subscribed_append {texts : List String} {msg topic : String} :
    Subscribed (texts ++ [msg]) topic ↔
      Subscribed texts topic ∨
        contains msg "subscribe" = true ∧ topic ∈ extractTopics msg := by
  simp only [Subscribed, List.mem_append, List.mem_singleton, or_and_right,
    exists_or, exists_eq_left]

/-- `on_read` handles a message of a session whose read loop is running. -/
theorem onRead_eq_some {config : Config} {session : Session} {msg : String}
    {state next : State Session}
    (hnext : onRead config session msg state = some next) :
    state.phase session = .reading ∧
      machine.run state (onReadActions config state session msg) =
        some next := by
  rw [onRead] at hnext
  split at hnext
  · next hreading => exact ⟨hreading, hnext⟩
  · cases hnext

theorem Recorded.message {config : Config}
    {conversation next : Conversation Session} {sender : Session} {msg : String}
    (hrecorded : Recorded conversation)
    (hnext : conversation.message config sender msg = some next) :
    Recorded next := by
  obtain ⟨state, hread, rfl⟩ := Option.map_eq_some_iff.mp hnext
  obtain ⟨hreading, hrun⟩ := onRead_eq_some hread
  have hhandler : ∀ action ∈
      onReadActions config conversation.state sender msg,
      action.transport = false := by
    intro action hmem
    obtain ⟨call, -, haction⟩ := List.mem_filterMap.mp hmem
    exact transport_of_action haction
  obtain ⟨hconsistent, hclients, htopics⟩ :=
    run_handler hrecorded.consistent hhandler hrun
  refine ⟨hconsistent, fun session habsent => ?_, fun session hmem topic => ?_⟩
  · have hbefore := absent_of_run hrun habsent
    have hother : session ≠ sender := by
      rintro rfl
      rw [hreading] at hbefore
      cases hbefore
    dsimp only
    split
    · rw [Function.update_of_ne hother]
      exact hrecorded.fresh session hbefore
    · exact hrecorded.fresh session hbefore
  · have hbefore := hrecorded.topics session ((hclients session).mp hmem) topic
    dsimp only
    rw [htopics, grants_onReadActions, hbefore, Conversation.handledAsText]
    by_cases hsame : session = sender
    · subst hsame
      split
      · next hplain =>
          rw [Function.update_self, subscribed_append]
          simp [hplain]
      · next hjson => simp [hjson]
    · split
      · rw [Function.update_of_ne hsame]
        simp [Ne.symm hsame]
      · simp [Ne.symm hsame]

theorem recorded_of_reachable {config : Config}
    {conversation : Conversation Session}
    (hreach : (conversations config).Reachable conversation) :
    Recorded conversation := by
  refine hreach.invariant (recorded_initial config) ?_
  intro current event next hrecorded hstep
  cases event with
  | transport action => exact hrecorded.transport hstep
  | message session msg => exact hrecorded.message hstep

/-! ## Which subscriptions are served -/

/-- The words of the documented market topics. -/
def marketWords : List String := ["ticker", "price", "bid", "ask"]

/-- The session has sent a subscription that contains the word. -/
def Names (texts : List String) (word : String) : Prop :=
  ∃ msg ∈ texts, contains msg "subscribe" = true ∧ contains msg word = true

/-- The session has sent a message that was handled as a `_Backtest` command. -/
def SentBacktest (texts : List String) : Prop :=
  ∃ msg ∈ texts, contains msg "_Live" = false ∧ contains msg "_Backtest" = true

/-- Ticks are enqueued to every client that named a market topic, and replayed
rows to every client that asked for a backtest and named `price`. -/
def Served (dump : Json → String) (conversation : Conversation Session) :
    Prop :=
  ∀ session ∈ conversation.state.manager.clients,
    ((∃ word ∈ marketWords, Names (conversation.texts session) word) →
      ∀ data, (session, dump (tickJson data)) ∈
        liveOnMarketData dump data conversation.state.manager) ∧
    (SentBacktest (conversation.texts session) →
      Names (conversation.texts session) "price" →
      ∀ data, (session, dump (rowJson data)) ∈
        backtestOnMarketData dump data conversation.state.manager)

/-- Every client that named `price`, `bid` or `ask` also named `ticker` or
`all`, and no client that asked for a backtest named `price`. -/
def TickersNamed (conversation : Conversation Session) : Prop :=
  ∀ session ∈ conversation.state.manager.clients,
    ((∃ word ∈ ["price", "bid", "ask"],
        Names (conversation.texts session) word) →
      Names (conversation.texts session) "ticker" ∨
        Names (conversation.texts session) "all") ∧
    ¬ (SentBacktest (conversation.texts session) ∧
      Names (conversation.texts session) "price")

theorem subscribed_ticker_iff (texts : List String) :
    Subscribed texts "ticker_" ↔ Names texts "ticker" ∨ Names texts "all" := by
  have hword : ∀ word, (word, "ticker_") ∈ topicWords ↔ word = "ticker" := by
    simp [topicWords]
  simp only [Subscribed, Names, mem_extractTopics, hword, exists_eq_left,
    and_or_left, exists_or]

/-- No message subscribes to a topic outside the table. -/
theorem not_subscribed_of_not_mem {texts : List String} {topic : String}
    (hnone : ∀ entry ∈ topicWords, entry.2 ≠ topic) :
    ¬ Subscribed texts topic := by
  rintro ⟨msg, -, -, htopic⟩
  obtain ⟨word, hword, -⟩ := mem_extractTopics.mp htopic
  exact hnone _ hword rfl

theorem Recorded.enqueued_tick_iff {conversation : Conversation Session}
    (hrecorded : Recorded conversation) {session : Session}
    (hmem : session ∈ conversation.state.manager.clients)
    (dump : Json → String) (data : MarketData) :
    (session, dump (tickJson data)) ∈
        liveOnMarketData dump data conversation.state.manager ↔
      Names (conversation.texts session) "ticker" ∨
        Names (conversation.texts session) "all" := by
  rw [liveOnMarketData, mem_broadcastToTopic, hrecorded.topics session hmem,
    subscribed_ticker_iff]
  exact and_iff_left rfl

theorem Recorded.not_enqueued_row {conversation : Conversation Session}
    (hrecorded : Recorded conversation) {session : Session}
    (hmem : session ∈ conversation.state.manager.clients)
    (dump : Json → String) (data : MarketData) :
    (session, dump (rowJson data)) ∉
      backtestOnMarketData dump data conversation.state.manager := by
  rw [backtestOnMarketData, mem_broadcastToTopic,
    hrecorded.topics session hmem]
  intro hlisted
  exact not_subscribed_of_not_mem (by decide) hlisted.1

/-- In every reachable conversation the market topics are served exactly when
every client that named one of them also named `ticker` or `all`, and no client
that asked for a backtest named `price`. -/
theorem reachable_served_iff {config : Config}
    {conversation : Conversation Session} (dump : Json → String)
    (hreach : (conversations config).Reachable conversation) :
    Served dump conversation ↔ TickersNamed conversation := by
  have hrecorded := recorded_of_reachable hreach
  apply forall_congr'
  intro session
  apply forall_congr'
  intro hmem
  have htick := hrecorded.enqueued_tick_iff hmem dump
  have hrow := hrecorded.not_enqueued_row hmem dump
  have data : MarketData := ⟨"", 0, 0, 0, 0, 0⟩
  constructor
  · rintro ⟨hticks, hrows⟩
    refine ⟨fun hnamed => ?_, fun hbacktest => ?_⟩
    · obtain ⟨word, hword, hnames⟩ := hnamed
      exact (htick data).mp
        (hticks ⟨word, List.mem_cons_of_mem _ hword, hnames⟩ data)
    · exact hrow data (hrows hbacktest.1 hbacktest.2 data)
  · rintro ⟨hticks, hbacktest⟩
    refine ⟨fun hnamed data => ?_, fun hsent hprice => ?_⟩
    · obtain ⟨word, hword, hnames⟩ := hnamed
      apply (htick data).mpr
      rcases List.mem_cons.mp hword with rfl | hother
      · exact Or.inl hnames
      · exact hticks ⟨word, hother, hnames⟩
    · exact absurd ⟨hsent, hprice⟩ hbacktest

/-- The parser throws on the texts of the runs below, none of which is JSON. -/
def plainConfig : Config := ⟨fun _ => none, true, true⟩

def tickerClient : List (Event ℕ) :=
  [.transport (.upgrade 1), .transport (.onAccept 1 false),
    .message 1 "subscribe ticker", .message 1 "subscribe price"]

theorem tickerClient_served :
    ∃ conversation,
      (conversations plainConfig).run (conversations plainConfig).initial
          tickerClient = some conversation ∧
        (Served (fun _ => "tick") conversation ↔ TickersNamed conversation) ∧
        conversation.texts 1 = ["subscribe ticker", "subscribe price"] := by
  refine ⟨_, rfl, ?_, rfl⟩
  have hreach : (conversations plainConfig).Reachable _ := ⟨tickerClient, rfl⟩
  exact reachable_served_iff _ hreach

/-- A client subscribes to prices and asks for a backtest. -/
def priceClient : List (Event ℕ) :=
  [.transport (.upgrade 1), .transport (.onAccept 1 false),
    .message 1 "subscribe price", .message 1 "_Backtest 2024-01-01"]

theorem priceClient_not_served :
    ∃ conversation,
      (conversations plainConfig).run (conversations plainConfig).initial
          priceClient = some conversation ∧
        1 ∈ conversation.state.manager.clients ∧
        conversation.state.manager.topicSubscribers "price_" = [1] ∧
        conversation.state.manager.topicSubscribers "ticker_" = [] ∧
        conversation.state.manager.topicSubscribers "backtest_price_" = [] ∧
        ¬ Served (fun _ => "tick") conversation := by
  refine ⟨_, rfl, by decide, rfl, rfl, rfl, fun hserved => ?_⟩
  have hticks := (hserved 1 (by decide)).1 ⟨"price", by decide,
    "subscribe price", by decide, by decide, by decide⟩ ⟨"", 0, 0, 0, 0, 0⟩
  exact absurd hticks (by decide)

end Datafeed.Server
