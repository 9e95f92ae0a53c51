import Datafeed.Core.SqlEscape
import Datafeed.Storage.IntervalText
import Datafeed.Storage.TimestampCodec

/-!
# The statements that hold their values

The statements of `SAdapter` for clients, sessions and feed instances have their
values in their texts.  Whatever strings a record or a caller has, each is the
content of one literal, and it affects no other token of its statement: the
structure of what is executed does not depend on them.  The statements are those
that are executed when the database is connected and the key is not empty.
-/

namespace Datafeed.Storage

open SqlLexer

/-! ## Printed values -/

/-- The characters of a printed timestamp or interval. -/
def isPrintedChar (character : Char) : Bool :=
  character.isDigit ||
    ['-', ':', '.', ' ', 's', 'e', 'c', 'o', 'n', 'd'].contains character

theorem clean_of_printed {text : List Char}
    (hprinted : text.all isPrintedChar = true) :
    Clean (String.ofList text) := by
  have habsent {character : Char} (hother : isPrintedChar character = false) :
      character ∉ (String.ofList text).toList := by
    intro hmem
    rw [String.toList_ofList] at hmem
    rw [List.all_eq_true.mp hprinted character hmem] at hother
    cases hother
  exact ⟨habsent (by decide), habsent (by decide)⟩

theorem all_isPrintedChar_printed (width value : ℕ) :
    (printed width value).all isPrintedChar = true := by
  rw [List.all_eq_true]
  intro character hmem
  rw [isPrintedChar, isDigit_of_mem_printed hmem, Bool.true_or]

theorem all_isPrintedChar_integer (value : ℤ) :
    (toStringInteger value).all isPrintedChar = true := by
  rw [toStringInteger]
  split
  · rw [List.all_cons, all_isPrintedChar_printed]
    rfl
  · exact all_isPrintedChar_printed 1 _

theorem all_isPrintedChar_dateTime (tm : Tm) :
    tm.dateTime.all isPrintedChar = true := by
  have hdash : isPrintedChar '-' = true := by decide
  have hblank : isPrintedChar ' ' = true := by decide
  have hcolon : isPrintedChar ':' = true := by decide
  simp only [Tm.dateTime, List.all_append, List.all_cons,
    all_isPrintedChar_printed, hdash, hblank, hcolon, Bool.and_true]

theorem clean_timestampToString (ms : ℕ) : Clean (timestampToString ms) := by
  apply clean_of_printed
  rw [List.all_append, List.all_cons, all_isPrintedChar_dateTime,
    all_isPrintedChar_printed]
  decide

theorem clean_intervalToString (seconds : ℤ) :
    Clean (intervalToString seconds) := by
  apply clean_of_printed
  rw [List.all_append, all_isPrintedChar_integer]
  decide

theorem isBareChar_of_isDigit {character : Char}
    (hdigit : character.isDigit = true) : isBareChar character = true := by
  rw [isBareChar, Char.isAlphanum, hdigit, Bool.or_true, Bool.true_or]

theorem all_isBareChar_printed (width value : ℕ) :
    (printed width value).all isBareChar = true := by
  rw [List.all_eq_true]
  intro character hmem
  exact isBareChar_of_isDigit (isDigit_of_mem_printed hmem)

theorem isBare_of_all {text : List Char} (hall : text.all isBareChar = true) :
    IsBare text := by
  rw [IsBare]
  split
  · exact List.all_eq_true.mpr fun character hmem =>
      List.all_eq_true.mp hall character (List.mem_of_mem_tail hmem)
  · exact hall

theorem isBare_signed (isNegative : Prop) [Decidable isNegative]
    {text : List Char} (hall : text.all isBareChar = true) :
    IsBare (if isNegative then '-' :: text else text) := by
  split
  · exact hall
  · exact isBare_of_all hall

theorem isBare_toStringInteger (value : ℤ) : IsBare (toStringInteger value) :=
  isBare_signed _ (all_isBareChar_printed 1 _)

/-- `std::to_string` of a finite double: six decimals. -/
def toStringDouble (value : ℚ) : List Char :=
  let micros := (roundHalfEven (value * 1000000)).natAbs
  let digits :=
    printed 1 (micros / 1000000) ++ '.' :: printed 6 (micros % 1000000)
  if value < 0 then '-' :: digits else digits

theorem isBare_toStringDouble (value : ℚ) : IsBare (toStringDouble value) := by
  apply isBare_signed
  rw [List.all_append, List.all_cons, all_isBareChar_printed,
    all_isBareChar_printed]
  decide

def integerText (value : ℤ) : Slot :=
  .plain (String.ofList (toStringInteger value))
    (String.toList_ofList ▸ isBare_toStringInteger value)

def doubleText (value : ℚ) : Slot :=
  .plain (String.ofList (toStringDouble value))
    (String.toList_ofList ▸ isBare_toStringDouble value)

/-! ## The helpers for escaping -/

def null : Slot := .plain "NULL" (by decide)

def timestampText (ms : ℕ) : Slot :=
  .quoted (timestampToString ms) (clean_timestampToString ms)

def escapeOrNull (value : Option String) : Slot := value.elim null .escaped

def escapeTimestamp (value : Option ℕ) : Slot := value.elim null timestampText

def escapeInterval (value : Option ℤ) : Slot :=
  value.elim null fun seconds =>
    .quoted (intervalToString seconds) (clean_intervalToString seconds)

def escapeInt64 (value : Option ℤ) : Slot := value.elim null integerText

/-- `value ? std::to_string(*value) : "NULL"`. -/
def doubleOrNull (value : Option ℚ) : Slot := value.elim null doubleText

def boolOrNull (value : Option Bool) : Slot :=
  value.elim null fun flag =>
    if flag then .plain "TRUE" (by decide) else .plain "FALSE" (by decide)

/-! ## The statements -/

inductive TextStatement
  | createClient (c : Client)
  | getClientById (id : String)
  | updateClient (c : Client)
  | deleteClient (id : String)
  | createSession (s : Session)
  | getSessionById (id : String)
  | updateSession (s : Session)
  | deleteSession (id : String)
  | createFeedInstance (feed : FeedInstance)
  | getFeedInstanceById (id : String)
  | updateFeedInstance (feed : FeedInstance)
  | deleteFeedInstance (id : String)

def createClientText (c : Client) : Template where
  head := "INSERT INTO clients(client_name,plan,status,auth_subject,".toList ++
    "ip_address,user_agent) VALUES(".toList
  slots :=
    [(.escaped c.clientName, ","),
      (.escaped c.plan, ","),
      (.escaped c.status, ","),
      (escapeOrNull c.authSubject, ","),
      (escapeOrNull c.ipAddress, ","),
      (escapeOrNull c.userAgent,
        ") RETURNING tenant_id,created_at,updated_at")]

def getClientByIdText (id : String) : Template where
  head := "SELECT * FROM clients WHERE tenant_id=".toList
  slots := [(.escaped id, "")]

def updateClientText (c : Client) : Template where
  head := "UPDATE clients SET client_name=".toList
  slots :=
    [(.escaped c.clientName, ",plan="),
      (.escaped c.plan, ",status="),
      (.escaped c.status, ",auth_subject="),
      (escapeOrNull c.authSubject, ",ip_address="),
      (escapeOrNull c.ipAddress, ",user_agent="),
      (escapeOrNull c.userAgent, ",updated_at=NOW() WHERE tenant_id="),
      (.escaped c.tenantId, " RETURNING tenant_id")]

def deleteClientText (id : String) : Template where
  head := "DELETE FROM clients WHERE tenant_id=".toList
  slots := [(.escaped id, "")]

def createSessionText (s : Session) : Template where
  head := "INSERT INTO sessions(connection_id,connected_at,".toList ++
    "disconnected_at,disconnect_reason,auth_status,reconnect_count,".toList ++
    "heartbeat_interval,protocol,instance_id,tenant_id) VALUES(".toList
  slots :=
    [(escapeOrNull s.connectionId, ","),
      (timestampText s.connectedAt, ","),
      (escapeTimestamp s.disconnectedAt, ","),
      (escapeOrNull s.disconnectReason, ","),
      (escapeOrNull s.authStatus, ","),
      (escapeInt64 s.reconnectCount, ","),
      (escapeInterval s.heartbeatInterval, ","),
      (.escaped s.protocol, ","),
      (.escaped s.instanceId, ","),
      (escapeOrNull s.tenantId, ") RETURNING session_id")]

def getSessionByIdText (id : String) : Template where
  head := "SELECT * FROM sessions WHERE session_id=".toList
  slots := [(.escaped id, "")]

def updateSessionText (s : Session) : Template where
  head := "UPDATE sessions SET connection_id=".toList
  slots :=
    [(escapeOrNull s.connectionId, ",connected_at="),
      (timestampText s.connectedAt, ",disconnected_at="),
      (escapeTimestamp s.disconnectedAt, ",disconnect_reason="),
      (escapeOrNull s.disconnectReason, ",auth_status="),
      (escapeOrNull s.authStatus, ",reconnect_count="),
      (escapeInt64 s.reconnectCount, ",heartbeat_interval="),
      (escapeInterval s.heartbeatInterval, ",protocol="),
      (.escaped s.protocol, ",instance_id="),
      (.escaped s.instanceId, ",tenant_id="),
      (escapeOrNull s.tenantId, " WHERE session_id="),
      (.escaped s.sessionId, "")]

def deleteSessionText (id : String) : Template where
  head := "DELETE FROM sessions WHERE session_id=".toList
  slots := [(.escaped id, "")]

def createFeedInstanceText (feed : FeedInstance) : Template where
  head := "INSERT INTO feed_instances(instance_id,exchange,".toList ++
    "adapter_type,feed_status,last_tick_at,stale_seconds,".toList ++
    "reconnect_attempts,message_rate_in,message_rate_out,".toList ++
    "queue_depth,backpressure_active,".toList ++
    "serialization_ms,parse_error_count,gap_count,duplicate_count,".toList ++
    "out_of_order_count,tenant_id) VALUES(".toList
  slots :=
    [(.escaped feed.instanceId, ","),
      (.escaped feed.exchange, ","),
      (escapeOrNull feed.adapterType, ","),
      (.escaped feed.feedStatus, ","),
      (escapeTimestamp feed.lastTickAt, ","),
      (escapeInterval feed.staleSeconds, ","),
      (integerText feed.reconnectAttempts, ","),
      (doubleOrNull feed.messageRateIn, ","),
      (doubleOrNull feed.messageRateOut, ","),
      (escapeInt64 feed.queueDepth, ","),
      (boolOrNull feed.backpressureActive, ","),
      (doubleOrNull feed.serializationMs, ","),
      (escapeInt64 feed.parseErrorCount, ","),
      (escapeInt64 feed.gapCount, ","),
      (escapeInt64 feed.duplicateCount, ","),
      (escapeInt64 feed.outOfOrderCount, ","),
      (escapeOrNull feed.tenantId, ")")]

def getFeedInstanceByIdText (id : String) : Template where
  head := "SELECT * FROM feed_instances WHERE instance_id=".toList
  slots := [(.escaped id, "")]

/-- All columns but the tenant. -/
def updateFeedInstanceText (feed : FeedInstance) : Template where
  head := "UPDATE feed_instances SET exchange=".toList
  slots :=
    [(.escaped feed.exchange, ",adapter_type="),
      (escapeOrNull feed.adapterType, ",feed_status="),
      (.escaped feed.feedStatus, ",last_tick_at="),
      (escapeTimestamp feed.lastTickAt, ",stale_seconds="),
      (escapeInterval feed.staleSeconds, ",reconnect_attempts="),
      (integerText feed.reconnectAttempts, ",message_rate_in="),
      (doubleOrNull feed.messageRateIn, ",message_rate_out="),
      (doubleOrNull feed.messageRateOut, ",queue_depth="),
      (escapeInt64 feed.queueDepth, ",backpressure_active="),
      (boolOrNull feed.backpressureActive, ",serialization_ms="),
      (doubleOrNull feed.serializationMs, ",parse_error_count="),
      (escapeInt64 feed.parseErrorCount, ",gap_count="),
      (escapeInt64 feed.gapCount, ",duplicate_count="),
      (escapeInt64 feed.duplicateCount, ",out_of_order_count="),
      (escapeInt64 feed.outOfOrderCount, " WHERE instance_id="),
      (.escaped feed.instanceId, "")]

def deleteFeedInstanceText (id : String) : Template where
  head := "DELETE FROM feed_instances WHERE instance_id=".toList
  slots := [(.escaped id, "")]

def TextStatement.template : TextStatement → Template
  | .createClient c => createClientText c
  | .getClientById id => getClientByIdText id
  | .updateClient c => updateClientText c
  | .deleteClient id => deleteClientText id
  | .createSession s => createSessionText s
  | .getSessionById id => getSessionByIdText id
  | .updateSession s => updateSessionText s
  | .deleteSession id => deleteSessionText id
  | .createFeedInstance feed => createFeedInstanceText feed
  | .getFeedInstanceById id => getFeedInstanceByIdText id
  | .updateFeedInstance feed => updateFeedInstanceText feed
  | .deleteFeedInstance id => deleteFeedInstanceText id

/-! ## What the server reads -/

instance : Inhabited Client :=
  ⟨{ tenantId := "", clientName := "", plan := "", status := ""
     createdAt := 0, updatedAt := 0, lastSeenAt := none
     authSubject := none, ipAddress := none, userAgent := none }⟩

instance : Inhabited Session :=
  ⟨{ sessionId := "", connectionId := none, connectedAt := 0
     disconnectedAt := none, disconnectReason := none, authStatus := none
     reconnectCount := none, heartbeatInterval := none, protocol := ""
     instanceId := "", tenantId := none }⟩

instance : Inhabited FeedInstance :=
  ⟨{ instanceId := "", exchange := "", adapterType := none, feedStatus := ""
     lastTickAt := none, staleSeconds := none, reconnectAttempts := 0
     messageRateIn := none, messageRateOut := none, queueDepth := none
     backpressureActive := none, serializationMs := none
     parseErrorCount := none, gapCount := none, duplicateCount := none
     outOfOrderCount := none, tenantId := none }⟩

/-- A statement of the same kind, with other values. -/
def TextStatement.sample : TextStatement → TextStatement
  | .createClient _ => .createClient default
  | .getClientById _ => .getClientById ""
  | .updateClient _ => .updateClient default
  | .deleteClient _ => .deleteClient ""
  | .createSession _ => .createSession default
  | .getSessionById _ => .getSessionById ""
  | .updateSession _ => .updateSession default
  | .deleteSession _ => .deleteSession ""
  | .createFeedInstance _ => .createFeedInstance default
  | .getFeedInstanceById _ => .getFeedInstanceById ""
  | .updateFeedInstance _ => .updateFeedInstance default
  | .deleteFeedInstance _ => .deleteFeedInstance ""

def samples : List TextStatement :=
  [.createClient default, .getClientById "", .updateClient default,
    .deleteClient "", .createSession default, .getSessionById "",
    .updateSession default, .deleteSession "", .createFeedInstance default,
    .getFeedInstanceById "", .updateFeedInstance default,
    .deleteFeedInstance ""]

theorem sample_mem_samples (statement : TextStatement) :
    statement.sample ∈ samples := by
  cases statement <;> simp [TextStatement.sample, samples]

theorem sound_of_mem_samples :
    ∀ statement ∈ samples, statement.template.Sound := by
  decide +kernel

theorem texts_sample (statement : TextStatement) :
    statement.sample.template.head = statement.template.head ∧
      statement.sample.template.slots.map Prod.snd =
        statement.template.slots.map Prod.snd := by
  constructor
  · cases statement <;> rfl
  · cases statement <;>
      dsimp only [TextStatement.sample, TextStatement.template,
        createClientText, getClientByIdText, updateClientText,
        deleteClientText, createSessionText, getSessionByIdText,
        updateSessionText, deleteSessionText, createFeedInstanceText,
        getFeedInstanceByIdText, updateFeedInstanceText,
        deleteFeedInstanceText] <;>
      simp only [List.map_cons, List.map_nil]

/-- The fixed texts of a statement do not depend on its values. -/
theorem sound_template (statement : TextStatement) :
    statement.template.Sound := by
  have hsound := sound_of_mem_samples _ (sample_mem_samples statement)
  obtain ⟨hhead, htexts⟩ := texts_sample statement
  rw [Template.Sound, hhead, htexts] at hsound
  exact hsound

/-- The contents that the values of a statement should have, in the order of its
text; times are printed. -/
def TextStatement.strings : TextStatement → List String
  | .createClient c =>
      [c.clientName, c.plan, c.status] ++ c.authSubject.toList ++
        c.ipAddress.toList ++ c.userAgent.toList
  | .updateClient c =>
      [c.clientName, c.plan, c.status] ++ c.authSubject.toList ++
        c.ipAddress.toList ++ c.userAgent.toList ++ [c.tenantId]
  | .createSession s =>
      s.connectionId.toList ++ [timestampToString s.connectedAt] ++
        (s.disconnectedAt.map timestampToString).toList ++
        s.disconnectReason.toList ++ s.authStatus.toList ++
        (s.heartbeatInterval.map intervalToString).toList ++
        [s.protocol, s.instanceId] ++ s.tenantId.toList
  | .updateSession s =>
      s.connectionId.toList ++ [timestampToString s.connectedAt] ++
        (s.disconnectedAt.map timestampToString).toList ++
        s.disconnectReason.toList ++ s.authStatus.toList ++
        (s.heartbeatInterval.map intervalToString).toList ++
        [s.protocol, s.instanceId] ++ s.tenantId.toList ++ [s.sessionId]
  | .createFeedInstance feed =>
      [feed.instanceId, feed.exchange] ++
        feed.adapterType.toList ++ [feed.feedStatus] ++
        (feed.lastTickAt.map timestampToString).toList ++
        (feed.staleSeconds.map intervalToString).toList ++
        feed.tenantId.toList
  | .updateFeedInstance feed =>
      [feed.exchange] ++ feed.adapterType.toList ++
        [feed.feedStatus] ++
        (feed.lastTickAt.map timestampToString).toList ++
        (feed.staleSeconds.map intervalToString).toList ++
        [feed.instanceId]
  | .getClientById id | .deleteClient id | .getSessionById id
  | .deleteSession id | .getFeedInstanceById id | .deleteFeedInstance id => [id]

theorem cString_of_clean {text : String} (hclean : Clean text) :
    cString text.toList = text.toList := by
  rw [cString, List.takeWhile_eq_self_iff]
  intro character hmem
  have hne : character ≠ terminator := fun heq => hclean.2 (heq ▸ hmem)
  exact decide_eq_true hne

theorem content_escaped (text : String) :
    (Slot.escaped text).content.toList =
      [text].map fun value => cString value.toList := rfl

theorem content_escapeOrNull (value : Option String) :
    (escapeOrNull value).content.toList =
      value.toList.map fun text => cString text.toList := by
  cases value with
  | none => rfl
  | some text => rfl

theorem content_timestampText (ms : ℕ) :
    (timestampText ms).content.toList =
      [timestampToString ms].map fun text => cString text.toList := by
  rw [List.map_singleton, cString_of_clean (clean_timestampToString ms)]
  rfl

theorem content_escapeTimestamp (value : Option ℕ) :
    (escapeTimestamp value).content.toList =
      (value.map timestampToString).toList.map fun text =>
        cString text.toList := by
  cases value with
  | none => rfl
  | some ms => exact content_timestampText ms

theorem content_escapeInterval (value : Option ℤ) :
    (escapeInterval value).content.toList =
      (value.map intervalToString).toList.map fun text =>
        cString text.toList := by
  cases value with
  | none => rfl
  | some seconds =>
      rw [Option.map_some, Option.toList_some, List.map_singleton,
        cString_of_clean (clean_intervalToString seconds)]
      rfl

theorem content_escapeInt64 (value : Option ℤ) :
    (escapeInt64 value).content = none := by
  cases value with
  | none => rfl
  | some number => rfl

theorem content_doubleOrNull (value : Option ℚ) :
    (doubleOrNull value).content = none := by
  cases value with
  | none => rfl
  | some number => rfl

theorem content_boolOrNull (value : Option Bool) :
    (boolOrNull value).content = none := by
  rcases value with - | flag
  · rfl
  · cases flag with
    | false => rfl
    | true => rfl

theorem content_integerText (value : ℤ) :
    (integerText value).content = none := rfl

theorem contents_template (statement : TextStatement) :
    statement.template.contents =
      statement.strings.map fun text => cString text.toList := by
  rw [Template.contents, List.filterMap_eq_flatMap_toList]
  cases statement <;>
    dsimp only [TextStatement.template, createClientText,
      getClientByIdText, updateClientText,
      deleteClientText, createSessionText, getSessionByIdText,
      updateSessionText, deleteSessionText, createFeedInstanceText,
      getFeedInstanceByIdText, updateFeedInstanceText,
      deleteFeedInstanceText] <;>
    simp only [List.flatMap_cons, List.flatMap_nil, List.append_nil,
      TextStatement.strings, List.map_append, List.map_cons, List.map_nil,
      List.append_assoc, List.cons_append, List.nil_append, content_escaped,
      content_escapeOrNull, content_timestampText, content_escapeTimestamp,
      content_escapeInterval, content_escapeInt64, content_doubleOrNull,
      content_boolOrNull, content_integerText, Option.toList_none]

/-- The literals of a statement are the strings that it is composed of, up to
the end of a C string.  Statements of one kind with the same fields set and the
same numbers have the same other tokens. -/
theorem values_are_literals (escaping : Escaping) (statement : TextStatement) :
    literals (lex (statement.template.chars escaping)) =
        (statement.strings.map fun text => cString text.toList) ∧
      ∀ other : TextStatement,
        statement.template.shape = other.template.shape →
          skeleton (lex (statement.template.chars escaping)) =
            skeleton (lex (other.template.chars escaping)) := by
  have hsound := sound_template statement
  refine ⟨?_, fun other hshape => skeleton_lex_eq hsound hshape escaping⟩
  rw [literals_lex hsound, contents_template]

/-- Escaping as the server documents it. -/
def doubling : Escaping where
  escape text := String.ofList (double (cString text.toList))
  escape_eq _ := String.toList_ofList

/-- A name that would end its statement where it is not escaped. -/
def hostileClient : Client :=
  { (default : Client) with clientName := "'); DROP TABLE clients;--" }

theorem values_are_literals_hostileClient :
    literals (lex ((createClientText hostileClient).chars doubling)) =
        ["'); DROP TABLE clients;--".toList, [], []] ∧
      skeleton (lex ((createClientText hostileClient).chars doubling)) =
        skeleton (lex ((createClientText default).chars doubling)) := by
  obtain ⟨hliterals, hskeleton⟩ :=
    values_are_literals doubling (.createClient hostileClient)
  have hstrings : ((TextStatement.createClient hostileClient).strings.map
      fun text => cString text.toList) =
        ["'); DROP TABLE clients;--".toList, [], []] := by
    decide +kernel
  exact ⟨hliterals.trans hstrings, hskeleton (.createClient default) rfl⟩

end Datafeed.Storage
