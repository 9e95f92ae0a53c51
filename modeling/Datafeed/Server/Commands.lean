import Datafeed.Server.Subscriptions
import Mathlib.Data.Finset.Basic
import Mathlib.Data.Finset.Insert
import Mathlib.Data.Finset.SDiff

/-!
# Subscribing and unsubscribing

The documented commands of a client are JSON objects with an `action` and a
`topic`.  None of the branches for JSON takes them, so they are handled as plain
text, in which the words `subscribe` and those of the topics are looked for.
The word `subscribe` is also in `unsubscribe`.
-/

namespace Datafeed.Server

open SessionManager Text

/-! ## The documented meaning -/

inductive MarketTopic
  | ticker
  | price
  | bid
  | ask
  deriving DecidableEq

inductive Verb
  | subscribe
  | unsubscribe
  deriving DecidableEq

/-- A market topic, or `all_`. -/
inductive CommandTopic
  | one (topic : MarketTopic)
  | all
  deriving DecidableEq

structure Command where
  verb : Verb
  topic : CommandTopic
  deriving DecidableEq

def CommandTopic.topics : CommandTopic → Finset MarketTopic
  | .one topic => {topic}
  | .all => {.ticker, .price, .bid, .ask}

/-- The topics that a client holds after one more command. -/
def Command.apply (held : Finset MarketTopic) (command : Command) :
    Finset MarketTopic :=
  match command.verb with
  | .subscribe => held ∪ command.topic.topics
  | .unsubscribe => held \ command.topic.topics

/-- The topics that a client holds after its commands. -/
def heldAfter (commands : List Command) : Finset MarketTopic :=
  commands.foldl Command.apply ∅

/-- The last command that names the topic, by itself or with all others. -/
def lastNaming (topic : MarketTopic) (commands : List Command) :
    Option Command :=
  (commands.filter fun command => topic ∈ command.topic.topics).getLast?

theorem mem_apply {held : Finset MarketTopic} {command : Command}
    {topic : MarketTopic} :
    topic ∈ command.apply held ↔
      if topic ∈ command.topic.topics then command.verb = .subscribe
      else topic ∈ held := by
  by_cases hnames : topic ∈ command.topic.topics
  · rw [if_pos hnames, Command.apply]
    cases command.verb with
    | subscribe => simp [hnames]
    | unsubscribe => simp [hnames]
  · rw [if_neg hnames, Command.apply]
    cases command.verb with
    | subscribe => simp [hnames]
    | unsubscribe => simp [hnames]

theorem lastNaming_append (topic : MarketTopic) (commands : List Command)
    (command : Command) :
    lastNaming topic (commands ++ [command]) =
      if topic ∈ command.topic.topics then some command
      else lastNaming topic commands := by
  rw [lastNaming, List.filter_append]
  by_cases hnames : topic ∈ command.topic.topics
  · simp [hnames]
  · simp [hnames, lastNaming]

/-- A topic is held if the last command that names it is a subscription. -/
theorem mem_heldAfter_iff {topic : MarketTopic} {commands : List Command} :
    topic ∈ heldAfter commands ↔
      ∃ command, lastNaming topic commands = some command ∧
        command.verb = .subscribe := by
  induction commands using List.reverseRecOn with
  | nil => simp [heldAfter, lastNaming]
  | append_singleton commands command ih =>
      rw [heldAfter, List.foldl_append, List.foldl_cons, List.foldl_nil,
        mem_apply, lastNaming_append]
      split
      · simp
      · exact ih

theorem exists_lastNaming_iff {topic : MarketTopic}
    {commands : List Command} :
    (∃ command, lastNaming topic commands = some command) ↔
      ∃ command ∈ commands, topic ∈ command.topic.topics := by
  rw [← Option.isSome_iff_exists, lastNaming, List.getLast?_isSome]
  simp

/-! ## The texts of the commands -/

/-- The word that `extract_topics` looks for. -/
def MarketTopic.word : MarketTopic → String
  | .ticker => "ticker"
  | .price => "price"
  | .bid => "bid"
  | .ask => "ask"

def MarketTopic.name : MarketTopic → String
  | .ticker => "ticker_"
  | .price => "price_"
  | .bid => "bid_"
  | .ask => "ask_"

def CommandTopic.name : CommandTopic → String
  | .one topic => topic.name
  | .all => "all_"

def Verb.name : Verb → String
  | .subscribe => "subscribe"
  | .unsubscribe => "unsubscribe"

/-- The blanks between the tokens of a JSON text. -/
structure Layout where
  gap : ℕ → List Char
  blank : ∀ index, ∀ character ∈ gap index, character.isWhitespace = true

/-- A command with the layout of its text. -/
structure CommandMessage where
  command : Command
  layout : Layout

/-- The text of a command, with the action before the topic. -/
def CommandMessage.text (message : CommandMessage) : String :=
  let gap := message.layout.gap
  let verb := message.command.verb.name.toList
  let topic := message.command.topic.name.toList
  String.ofList
    (gap 0 ++ '\x7b' :: (gap 1 ++
      '"' :: ("action".toList ++ '"' :: (gap 2 ++ ':' :: (gap 3 ++
        '"' :: (verb ++ '"' :: (gap 4 ++ ',' :: (gap 5 ++
          '"' :: ("topic".toList ++ '"' :: (gap 6 ++ ':' :: (gap 7 ++
            '"' :: (topic ++ '"' :: (gap 8 ++ '\x7d' :: gap 9)))))))))))))

/-- What the text is parsed to. -/
def Command.json (command : Command) : Json :=
  .object
    [("action", .string command.verb.name),
      ("topic", .string command.topic.name)]

/-- A text of letters. -/
def IsWord (word : List Char) : Prop :=
  word ≠ [] ∧ word.all Char.isAlpha = true

instance (word : List Char) : Decidable (IsWord word) :=
  inferInstanceAs (Decidable (_ ∧ _))

theorem IsWord.not_mem {word : List Char} (hword : IsWord word)
    {character : Char} (hcharacter : character.isAlpha = false) :
    character ∉ word := by
  intro hmem
  have halpha := List.all_eq_true.mp hword.2 character hmem
  rw [hcharacter] at halpha
  cases halpha

theorem isAlpha_of_isWhitespace {character : Char}
    (hspace : character.isWhitespace = true) : character.isAlpha = false := by
  simp only [Char.isWhitespace, Bool.or_eq_true, decide_eq_true_eq] at hspace
  rcases hspace with ((rfl | rfl) | rfl) | rfl
  all_goals decide

theorem IsWord.not_infix_gap {word : List Char} (hword : IsWord word)
    (layout : Layout) (index : ℕ) : ¬ word <:+: layout.gap index := by
  intro hwithin
  obtain ⟨head, hhead⟩ := List.exists_mem_of_ne_nil word hword.1
  have hblank := layout.blank index head (hwithin.subset hhead)
  exact hword.not_mem (isAlpha_of_isWhitespace hblank) hhead

/-- A word is in the text of a command if it is in one of its four strings. -/
theorem CommandMessage.contains_text_iff {message : CommandMessage}
    {word : String} (hword : IsWord word.toList) :
    contains message.text word = true ↔
      word.toList <:+: "action".toList ∨
        word.toList <:+: message.command.verb.name.toList ∨
        word.toList <:+: "topic".toList ∨
        word.toList <:+: message.command.topic.name.toList := by
  have hseparator (character : Char) (halpha : character.isAlpha = false)
      (before after : List Char) :
      word.toList <:+: before ++ character :: after ↔
        word.toList <:+: before ∨ word.toList <:+: after :=
    infix_append_cons_iff (hword.not_mem halpha)
  rw [contains_iff, CommandMessage.text, String.toList_ofList]
  simp only [hseparator '\x7b' (by decide), hseparator '\x7d' (by decide),
    hseparator '"' (by decide), hseparator ':' (by decide),
    hseparator ',' (by decide), hword.not_infix_gap, false_or, or_false]

/-- The word `subscribe` is in the text of both commands. -/
theorem CommandMessage.contains_subscribe (message : CommandMessage) :
    contains message.text "subscribe" = true := by
  rw [message.contains_text_iff (by decide +kernel)]
  right
  left
  cases message.command.verb <;> decide +kernel

/-- Whatever the action is, the topics of the command are extracted. -/
theorem CommandMessage.mem_extractTopics_iff {message : CommandMessage}
    {topic : MarketTopic} :
    topic.name ∈ extractTopics message.text ↔
      topic ∈ message.command.topic.topics := by
  have hword : ∀ word, (word, topic.name) ∈ topicWords ↔ word = topic.word := by
    cases topic <;> simp [topicWords, MarketTopic.name, MarketTopic.word]
  have hverb : ¬ topic.word.toList <:+: message.command.verb.name.toList ∧
      ¬ "all".toList <:+: message.command.verb.name.toList := by
    cases topic <;> cases message.command.verb <;> decide +kernel
  have hkeys : ¬ topic.word.toList <:+: "action".toList ∧
      ¬ topic.word.toList <:+: "topic".toList ∧
      ¬ "all".toList <:+: "action".toList ∧
      ¬ "all".toList <:+: "topic".toList := by
    cases topic <;> decide +kernel
  have hletters : IsWord topic.word.toList := by
    cases topic <;> decide +kernel
  rw [mem_extractTopics]
  simp only [hword, exists_eq_left, message.contains_text_iff hletters,
    message.contains_text_iff (show IsWord "all".toList by decide +kernel),
    hverb, hkeys, false_or]
  cases message.command.topic with
  | one other => cases topic <;> cases other <;> decide +kernel
  | all => cases topic <;> decide +kernel

/-! ## Conversations of a client that sends commands -/

variable {Session : Type} [DecidableEq Session]

/-- The messages of a session, in order. -/
def sentBy (client : Session) (events : List (Event Session)) : List String :=
  events.filterMap fun
    | .message session msg => if session = client then some msg else none
    | .transport _ => none

@[simp]
theorem sentBy_transport (client : Session) (action : Action Session)
    (events : List (Event Session)) :
    sentBy client (.transport action :: events) = sentBy client events := rfl

@[simp]
theorem sentBy_message (client sender : Session) (msg : String)
    (events : List (Event Session)) :
    sentBy client (.message sender msg :: events) =
      (if sender = client then [msg] else []) ++ sentBy client events := by
  by_cases hsame : sender = client
  · simp [sentBy, hsame]
  · simp [sentBy, hsame]

/-- No branch for JSON takes a command. -/
theorem jsonCalls_command {config : Config} {msg : String} {command : Command}
    (hparse : config.parse msg = some command.json) :
    jsonCalls config false msg = none := by
  rw [jsonCalls, hparse, Option.bind_some]
  rfl

/-- A session becomes the adapter only by registering. -/
theorem adapterSession_of_step {state next : State Session}
    {action : Action Session} (hstep : step state action = some next)
    {session : Session} (hadapter : next.adapterSession = some session) :
    state.adapterSession = some session ∨
      action = .registerAdapter session := by
  obtain ⟨-, -, rfl⟩ := step_eq_some_iff.mp hstep
  have hrelease : ∀ (other : State Session) (released : Session),
      (other.release released).adapterSession = some session →
        other.adapterSession = some session := by
    intro other released hreleased
    rw [State.release] at hreleased
    split at hreleased
    · rw [State.destroy] at hreleased
      dsimp only at hreleased
      split at hreleased
      · cases hreleased
      · exact hreleased
    · exact hreleased
  cases action with
  | registerAdapter registered =>
      right
      rw [Option.some.inj hadapter]
  | upgrade upgraded => exact Or.inl hadapter
  | onAccept accepted failed =>
      have hbefore := hrelease _ _ hadapter
      exact Or.inl hbefore
  | closeRead closed =>
      have hbefore := hrelease _ _ hadapter
      exact Or.inl hbefore
  | relay relayed msg complete =>
      rw [State.after] at hadapter
      split at hadapter
      · exact Or.inl (by rwa [post_adapterSession] at hadapter)
      · exact Or.inl hadapter
  | broadcastAll sender msg =>
      exact Or.inl (by rwa [State.after, post_adapterSession] at hadapter)
  | setClientMode updated mode date => exact Or.inl hadapter
  | commandAdapter sender command =>
      rw [State.after] at hadapter
      split at hadapter
      · exact Or.inl (by rwa [post_adapterSession] at hadapter)
      · exact Or.inl hadapter
  | addClientTopics subscribed topics => exact Or.inl hadapter
  | broadcastToTopic published msg =>
      exact Or.inl (by rwa [State.after, post_adapterSession] at hadapter)
  | runHandler running =>
      have hbefore := hrelease _ _ hadapter
      exact Or.inl (by rwa [stepQueue_adapterSession] at hbefore)
  | onWrite writer operation failed =>
      have hbefore := hrelease _ _ hadapter
      exact Or.inl (by rwa [stepQueue_adapterSession] at hbefore)

theorem adapterSession_of_run {state next : State Session}
    {actions : List (Action Session)}
    (hrun : machine.run state actions = some next) {session : Session}
    (hadapter : next.adapterSession = some session) :
    state.adapterSession = some session ∨
      .registerAdapter session ∈ actions := by
  induction actions generalizing state with
  | nil =>
      obtain rfl : state = next := by simpa using hrun
      exact Or.inl hadapter
  | cons action actions ih =>
      obtain ⟨middle, hstep, hrest⟩ := Machine.exists_of_run_cons hrun
      rcases ih hrest with hmiddle | hregistered
      · rcases adapterSession_of_step hstep hmiddle with hbefore | rfl
        · exact Or.inl hbefore
        · exact Or.inr List.mem_cons_self
      · exact Or.inr (List.mem_cons_of_mem _ hregistered)

/-- Only the session that sends a registration is registered by it. -/
theorem registerAdapter_mem_onReadActions {config : Config}
    {state : State Session} {sender session : Session} {msg : String}
    (hmem : .registerAdapter session ∈ onReadActions config state sender msg) :
    session = sender ∧
      .registerAdapter ∈
        onReadCalls config (state.adapterSession = some sender) msg := by
  obtain ⟨call, hcall, haction⟩ := List.mem_filterMap.mp hmem
  cases call with
  | registerAdapter =>
      cases haction
      exact ⟨rfl, hcall⟩
  | _ => cases haction

theorem registerAdapter_not_mem_onReadCalls {config : Config} {adapter : Bool}
    {msg : String} (hplain : jsonCalls config adapter msg = none) :
    .registerAdapter ∉ onReadCalls config adapter msg := by
  rw [onReadCalls, hplain, Option.getD_none, plainCalls, modeCalls,
    subscribeCalls]
  split_ifs <;> simp

/-- A session that is not the adapter and sends only plain text. -/
structure Plain (client : Session) (conversation : Conversation Session)
    (texts : List String) : Prop where
  unregistered : conversation.state.adapterSession ≠ some client
  texts_eq : conversation.texts client = texts

theorem Plain.transport {client : Session}
    {conversation next : Conversation Session} {texts : List String}
    (hplain : Plain client conversation texts)
    {action : Action Session}
    (hnext : conversation.transport action = some next) :
    Plain client next texts := by
  rw [Conversation.transport] at hnext
  split at hnext
  · next htransport =>
      obtain ⟨state, hstep, rfl⟩ := Option.map_eq_some_iff.mp hnext
      refine ⟨fun hadapter => ?_, hplain.texts_eq⟩
      rcases adapterSession_of_step hstep hadapter with hbefore | rfl
      · exact hplain.unregistered hbefore
      · cases htransport
  · cases hnext

theorem Plain.message {config : Config} {client : Session}
    {conversation next : Conversation Session} {texts : List String}
    (hplain : Plain client conversation texts) {sender : Session}
    {msg : String}
    (htext : sender = client → jsonCalls config false msg = none)
    (hnext : conversation.message config sender msg = some next) :
    Plain client next
      (texts ++ if sender = client then [msg] else []) := by
  obtain ⟨state, hread, rfl⟩ := Option.map_eq_some_iff.mp hnext
  obtain ⟨-, hrun⟩ := onRead_eq_some hread
  by_cases hsame : sender = client
  · subst hsame
    have hadapter : decide (conversation.state.adapterSession = some sender) =
        false := decide_eq_false hplain.unregistered
    have hcalls : jsonCalls config
        (conversation.state.adapterSession = some sender) msg = none := by
      rw [hadapter]
      exact htext rfl
    refine ⟨fun hregistered => ?_, ?_⟩
    · rcases adapterSession_of_run hrun hregistered with hbefore | hmem
      · exact hplain.unregistered hbefore
      · exact registerAdapter_not_mem_onReadCalls hcalls
          (registerAdapter_mem_onReadActions hmem).2
    · dsimp only
      rw [Conversation.handledAsText, hcalls, Option.isNone_none, if_pos rfl,
        Function.update_self, hplain.texts_eq, if_pos rfl]
  · refine ⟨fun hregistered => ?_, ?_⟩
    · rcases adapterSession_of_run hrun hregistered with hbefore | hmem
      · exact hplain.unregistered hbefore
      · exact hsame (registerAdapter_mem_onReadActions hmem).1.symm
    · rw [if_neg hsame, List.append_nil]
      dsimp only
      split
      · rw [Function.update_of_ne (Ne.symm hsame)]
        exact hplain.texts_eq
      · exact hplain.texts_eq

/-- Every message of the client is handled as plain text. -/
theorem Plain.run {config : Config} {client : Session}
    {conversation final : Conversation Session} {texts : List String}
    {events : List (Event Session)}
    (hplain : Plain client conversation texts)
    (htexts : ∀ msg ∈ sentBy client events, jsonCalls config false msg = none)
    (hrun : (conversations config).run conversation events = some final) :
    Plain client final (texts ++ sentBy client events) := by
  induction events generalizing conversation texts with
  | nil =>
      obtain rfl : conversation = final := by simpa using hrun
      simpa [sentBy] using hplain
  | cons event events ih =>
      obtain ⟨next, hstep, hrest⟩ := Machine.exists_of_run_cons hrun
      cases event with
      | transport action =>
          exact ih (Plain.transport hplain hstep) htexts hrest
      | message sender msg =>
          rw [sentBy_message] at htexts ⊢
          rw [← List.append_assoc]
          have hfirst : sender = client → jsonCalls config false msg = none :=
            fun hsame => htexts msg
              (List.mem_append_left _ (by simp [hsame]))
          exact ih (Plain.message hplain hfirst hstep)
            (fun other hother => htexts other (List.mem_append_right _ hother))
            hrest

theorem subscribed_commands_iff {messages : List CommandMessage}
    {topic : MarketTopic} :
    Subscribed (messages.map CommandMessage.text) topic.name ↔
      ∃ command ∈ messages.map CommandMessage.command,
        topic ∈ command.topic.topics := by
  simp only [Subscribed, List.mem_map, exists_exists_and_eq_and,
    CommandMessage.contains_subscribe, CommandMessage.mem_extractTopics_iff,
    true_and]

/-- A client that sends nothing but commands holds the market topics that they
ask for exactly where no topic is named last by an `unsubscribe`. -/
theorem commands_held_iff {config : Config} {client : Session}
    {events : List (Event Session)} {conversation : Conversation Session}
    {messages : List CommandMessage}
    (hparse : ∀ message ∈ messages,
      config.parse message.text = some message.command.json)
    (hsent : sentBy client events = messages.map CommandMessage.text)
    (hrun : (conversations config).run (conversations config).initial events =
      some conversation)
    (hregistered : client ∈ conversation.state.manager.clients) :
    (∀ topic : MarketTopic,
        client ∈ conversation.state.manager.topicSubscribers topic.name ↔
          topic ∈ heldAfter (messages.map CommandMessage.command)) ↔
      ∀ topic command,
        lastNaming topic (messages.map CommandMessage.command) =
            some command →
          command.verb = .subscribe := by
  have htexts : ∀ msg ∈ sentBy client events,
      jsonCalls config false msg = none := by
    rw [hsent]
    intro msg hmsg
    obtain ⟨message, hmem, rfl⟩ := List.mem_map.mp hmsg
    exact jsonCalls_command (hparse message hmem)
  have hinitial : Plain client (conversations config).initial [] :=
    ⟨by simp [conversations], rfl⟩
  have hplain := Plain.run hinitial htexts hrun
  have hrecorded := recorded_of_reachable ⟨events, hrun⟩
  have hheld (topic : MarketTopic) :
      client ∈ conversation.state.manager.topicSubscribers topic.name ↔
        ∃ command, lastNaming topic (messages.map CommandMessage.command) =
          some command := by
    rw [hrecorded.topics client hregistered, hplain.texts_eq, List.nil_append,
      hsent, subscribed_commands_iff, exists_lastNaming_iff]
  apply forall_congr'
  intro topic
  rw [hheld, mem_heldAfter_iff]
  constructor
  · intro hsame command hlast
    obtain ⟨other, hother, hsubscribe⟩ := hsame.mp ⟨command, hlast⟩
    rw [hlast, Option.some.injEq] at hother
    rw [hother]
    exact hsubscribe
  · intro hsubscribes
    constructor
    · rintro ⟨command, hlast⟩
      exact ⟨command, hlast, hsubscribes command hlast⟩
    · rintro ⟨command, hlast, -⟩
      exact ⟨command, hlast⟩

def compact : Layout := ⟨fun _ => [], by simp⟩

def tickerOn : CommandMessage := ⟨⟨.subscribe, .one .ticker⟩, compact⟩

def tickerOff : CommandMessage := ⟨⟨.unsubscribe, .one .ticker⟩, compact⟩

/-- A subscription to everything, with a space before each token. -/
def allOn : CommandMessage :=
  ⟨⟨.subscribe, .all⟩, ⟨fun _ => [' '], by simp⟩⟩

/-- The parser on the three texts. -/
def commandConfig : Config where
  parse msg :=
    if msg = tickerOn.text then some tickerOn.command.json
    else if msg = tickerOff.text then some tickerOff.command.json
    else if msg = allOn.text then some allOn.command.json
    else none
  liveSource := true
  backtestSource := true

/-- A client sends the messages. -/
def commandClient (messages : List CommandMessage) : List (Event ℕ) :=
  [.transport (.upgrade 1), .transport (.onAccept 1 false)] ++
    messages.map fun message => .message 1 message.text

/-- Everything, then no ticker, then the ticker again: the last command that
names a topic is a `subscribe`, so the client holds what it asked for. -/
theorem commands_held_iff_tickerOn :
    ∃ conversation,
      (conversations commandConfig).run (conversations commandConfig).initial
          (commandClient [allOn, tickerOff, tickerOn]) = some conversation ∧
        ∀ topic : MarketTopic,
          1 ∈ conversation.state.manager.topicSubscribers topic.name ↔
            topic ∈ heldAfter
              [allOn.command, tickerOff.command, tickerOn.command] := by
  have hparse : ∀ message ∈ [allOn, tickerOff, tickerOn],
      commandConfig.parse message.text = some message.command.json := by
    simp only [List.forall_mem_cons, List.not_mem_nil, false_imp_iff,
      implies_true, and_true]
    exact ⟨rfl, rfl, rfl⟩
  have hsent : sentBy 1 (commandClient [allOn, tickerOff, tickerOn]) =
      [allOn, tickerOff, tickerOn].map CommandMessage.text := rfl
  have hrun : (conversations commandConfig).run
      (conversations commandConfig).initial
        (commandClient [allOn, tickerOff, tickerOn]) = some _ := rfl
  refine ⟨_, hrun, ?_⟩
  refine (commands_held_iff hparse hsent hrun (by decide +kernel)).mpr ?_
  intro topic command hlast
  cases topic <;> cases hlast <;> rfl

/-- Unsubscribing leaves the subscription as it is. -/
theorem tickerOff_keeps_ticker :
    ∃ conversation,
      (conversations commandConfig).run (conversations commandConfig).initial
          (commandClient [tickerOn, tickerOff]) = some conversation ∧
        1 ∈ conversation.state.manager.clients ∧
        1 ∈ conversation.state.manager.topicSubscribers
          MarketTopic.ticker.name ∧
        MarketTopic.ticker ∉
          heldAfter [tickerOn.command, tickerOff.command] := by
  refine ⟨_, rfl, ?_⟩
  decide +kernel

end Datafeed.Server
