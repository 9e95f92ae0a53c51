import Datafeed.Core.Text
import Datafeed.LiveSource.SwitchExchange
import Datafeed.Server.Ownership
import Mathlib.Data.Rat.Defs

/-!
# Handling a text message

`on_read` first tries to read a message as JSON.  The branches of that attempt
return after `do_read`; every exception in it, and every JSON text that is none
of its requests, falls through to the handling as plain text.  The calls that a
message leads to are listed in order, and each of them that concerns the
sessions is an action of theirs.  The JSON parser is a parameter, with no value
for a text it throws on; an object lists each of its keys once.
-/

namespace Datafeed.Server

open SessionManager Text

inductive Json
  | null
  | bool (value : Bool)
  | number (value : ℚ)
  | string (value : String)
  | array (items : List Json)
  | object (members : List (String × Json))

namespace Json

/-- `j[key]` where `j.contains(key)`. -/
def find? (key : String) : Json → Option Json
  | .object members => (members.find? fun member => member.1 = key).map Prod.snd
  | _ => none

/-- `get<std::string>()`, which throws on every other type. -/
def getString : Json → Option String
  | .string value => some value
  | _ => none

/-- `j.contains(key) && j[key] == text`. -/
def has (key text : String) (json : Json) : Bool :=
  (json.find? key).bind getString = some text

/-- `is_array() && !empty()`. -/
def nonemptyItems : Json → Option (List Json)
  | .array (item :: items) => some (item :: items)
  | _ => none

end Json

/-- One member of `extract_topics`' table: the word searched for and the topic
it stands for. -/
def topicWords : List (String × String) :=
  [("ticker", "ticker_"), ("price", "price_"), ("bid", "bid_"), ("ask", "ask_"),
    ("dashboard", "dashboard"), ("metrics", "metrics"),
    ("performance", "performance"), ("exchange", "exchange"),
    ("system", "system"), ("network", "network"), ("feed", "feed"),
    ("queues", "queues")]

def extractTopics (msg : String) : List String :=
  ((topicWords.filter fun entry => contains msg entry.1).map Prod.snd) ++
    if contains msg "all" then topicWords.map Prod.snd else []

/-- What `on_read` calls. -/
inductive Call
  | registerAdapter
  | relay (complete : Bool)
  | broadcastAll
  | switchExchange (exchangeType : LiveSource.ExchangeType)
      (symbols : List String)
  | setClientMode (mode date : String)
  | commandAdapter (command : String)
  | startReplay (dateRange : String)
  | addClientTopics (topics : List String)
  | doRead
  deriving DecidableEq

/-- The globals that `on_read` tests, and the parser. -/
structure Config where
  parse : String → Option Json
  liveSource : Bool
  backtestSource : Bool

/-- `j.value("exchange", "BINANCE")`. -/
def exchangeMember (json : Json) : Option String :=
  match json.find? "exchange" with
  | some value => value.getString
  | none => some "BINANCE"

def switchType (exchange : String) : LiveSource.ExchangeType :=
  if exchange = "BIRDEYE" then .birdeye
  else if exchange = "JUPITER" then .jupiter
  else .binance

/-- The symbols of a `switch_exchange` request; none when one of them is not a
string. -/
def switchSymbols (exchangeType : LiveSource.ExchangeType) (json : Json) :
    Option (List String) :=
  match (json.find? "symbols").bind Json.nonemptyItems with
  | some items => items.mapM Json.getString
  | none =>
      if exchangeType = .binance then some ["BTCUSDT", "ETHUSDT", "SOLUSDT"]
      else some ["BTC", "ETH", "SOL"]

/-- The calls of the branch that the attempt takes, or none if it falls through
to the plain text.  `adapter` says whether the session is the registered
adapter. -/
def jsonCalls (config : Config) (adapter : Bool) (msg : String) :
    Option (List Call) :=
  (config.parse msg).bind fun json =>
    if json.has "type" "adapter" then some [.registerAdapter]
    else if adapter then some [.relay (json.has "topic" "backtest_complete")]
    else if json.has "type" "backtest_result" then some [.broadcastAll]
    else if json.has "type" "switch_exchange" then
      (exchangeMember json).bind fun exchange =>
        if config.liveSource then
          (switchSymbols (switchType exchange) json).map fun symbols =>
            [.switchExchange (switchType exchange) symbols]
        else some []
    else none

/-- What the mode commands send to the adapter. -/
def stopCommand : String := "\x7b\"command\":\"stop\"\x7d"

/-- The date range of a `_Backtest` message. -/
def dateRange (msg : String) : String :=
  match find "20" msg with
  | some datePos =>
      if datePos + 10 ≤ msg.toList.length then substr msg datePos 10
      else "2024-01-01,2024-01-01"
  | none => "2024-01-01,2024-01-01"

def modeCalls (config : Config) (msg : String) : List Call :=
  if contains msg "_Live" then
    [.setClientMode "_Live" "", .commandAdapter stopCommand]
  else if contains msg "_Backtest" then
    [.setClientMode "_Backtest" (dateRange msg), .commandAdapter startCommand] ++
      if config.backtestSource then [.startReplay (dateRange msg)] else []
  else []

def subscribeCalls (msg : String) : List Call :=
  if contains msg "subscribe" then [.addClientTopics (extractTopics msg)] else []

def plainCalls (config : Config) (msg : String) : List Call :=
  modeCalls config msg ++ subscribeCalls msg

/-- The calls of `on_read` for one message. -/
def onReadCalls (config : Config) (adapter : Bool) (msg : String) : List Call :=
  ((jsonCalls config adapter msg).getD (plainCalls config msg)) ++ [.doRead]

variable {Session : Type} [DecidableEq Session]

/-- The action of the sessions that a call is, if it is one. -/
def Call.action (session : Session) (msg : String) :
    Call → Option (Action Session)
  | .registerAdapter => some (.registerAdapter session)
  | .relay complete => some (.relay session msg complete)
  | .broadcastAll => some (.broadcastAll session msg)
  | .setClientMode mode date => some (.setClientMode session mode date)
  | .commandAdapter command => some (.commandAdapter session command)
  | .addClientTopics topics => some (.addClientTopics session topics)
  | .switchExchange _ _ | .startReplay _ | .doRead => none

/-- The actions that a message of the session leads to. -/
def onReadActions (config : Config) (state : State Session) (session : Session)
    (msg : String) : List (Action Session) :=
  (onReadCalls config (state.adapterSession = some session) msg).filterMap
    (Call.action session msg)

/-- The sessions after `on_read` has handled a message. -/
def onRead (config : Config) (session : Session) (msg : String)
    (state : State Session) : Option (State Session) :=
  if state.phase session = .reading then
    machine.run state (onReadActions config state session msg)
  else none

end Datafeed.Server
