import Datafeed.Api.ComposedStatements
import Datafeed.Core.Select

/-!
# The conditions of the services

Every text that a service passes to a `get_*_by_condition`.  A text may bring
its order and its limit along, and the adapter puts `WHERE` in front of whatever
is not empty.
-/

namespace Datafeed.Api

open Select SqlLexer

/-! ## Histories -/

/-- The histories of `MonitorService` that are read by the time of measurement,
by the names of their functions. -/
inductive HistoryKind
  | metrics
  | performance
  | throughput
  | feed
  | queues
  | network
  | database
  | system
  | sessions
  deriving DecidableEq

def HistoryKind.table : HistoryKind → String
  | .metrics | .performance | .throughput | .feed | .sessions =>
      "feed_metrics_snapshots"
  | .queues => "queue_history"
  | .network => "network_metrics_history"
  | .database => "database_metrics_history"
  | .system => "system_metrics_history"

def historyBounds (fromTime toTime : String) : String :=
  if fromTime ≠ "" ∧ toTime ≠ "" then
    "measured_at >= " ++ fromTime ++ " AND measured_at <= " ++ toTime
  else if fromTime ≠ "" then "measured_at >= " ++ fromTime
  else if toTime ≠ "" then "measured_at <= " ++ toTime
  else ""

def historyWhere (fromTime toTime : String) : String :=
  if historyBounds fromTime toTime ≠ "" then
    historyBounds fromTime toTime ++ " ORDER BY measured_at ASC"
  else historyBounds fromTime toTime

/-! ## Alerts -/

def alertsFilter (status : String) : String :=
  if status = "active" then "acknowledged = false AND resolved_at IS NULL"
  else if status = "acknowledged" then "acknowledged = true"
  else if status ≠ "" then "acknowledged = false"
  else ""

def alertsWhere (status : String) : String :=
  if alertsFilter status ≠ "" then
    alertsFilter status ++ " ORDER BY created_at DESC LIMIT 100"
  else "ORDER BY created_at DESC LIMIT 100"

/-! ## All of them -/

/-- What calls a `get_*_by_condition`, with the parameters it puts into the
condition. -/
inductive Caller
  /-- The route `/health`. -/
  | health
  | getFeedStatus
  | getFeedInstances
  | getClients
  | search (query : String)
  | processWeek (instanceId : String) (startMs endMs : ℕ)
  | getDashboard
  | getHistory (kind : HistoryKind) (fromTime toTime : String)
  | getExchangeHistory (exchange fromTime toTime : String)
  | getTimeline
  | getConfig
  | getThresholds
  | getAlerts (status : String)
  | getAudit (fromTime toTime actor action : String)

/-- The statements that a caller may have executed, by their pieces. -/
def Caller.statements : Caller → List (List Piece)
  | .health => [getByCondition "feed_instances" []]
  | .getFeedStatus =>
      [getByCondition "feed_instances" [.text "feed_status = 'connected'"],
        getByCondition "feed_instances" []]
  | .getFeedInstances => [getByCondition "feed_instances" []]
  | .getClients => [getByCondition "clients" []]
  | .search query => Api.search query
  | .processWeek instanceId startMs endMs =>
      [getByCondition "feed_metrics_snapshots"
        [.text "instance_id = ", .quoted instanceId,
          .text (" AND measured_at >= to_timestamp(" ++
            toString (startMs / 1000) ++ ") AND measured_at < to_timestamp(" ++
            toString (endMs / 1000) ++ ")")]]
  | .getDashboard =>
      [getByCondition "alerts"
        [.text "acknowledged = false ORDER BY created_at DESC LIMIT 20"]]
  | .getHistory kind fromTime toTime =>
      [getByCondition kind.table [.text (historyWhere fromTime toTime)]]
  | .getExchangeHistory exchange fromTime toTime =>
      [Api.getExchangeHistory exchange fromTime toTime]
  | .getTimeline =>
      [getByCondition "feed_events"
        [.text "ORDER BY occurred_at DESC LIMIT 100"]]
  | .getConfig =>
      [getByCondition "config_versions"
        [.text "ORDER BY applied_at DESC LIMIT 1"]]
  | .getThresholds =>
      [getByCondition "metric_thresholds" [.text "ORDER BY metric_name ASC"]]
  | .getAlerts status =>
      [getByCondition "alerts" [.text (alertsWhere status)]]
  | .getAudit fromTime toTime actor action =>
      [Api.getAudit fromTime toTime actor action]

/-- An absent bound or a decimal number. -/
def IsBound (text : String) : Prop := text = "" ∨ IsDecimal text.toList

/-- The texts of the parameters have no quotes, and the times are numbers. -/
def Caller.Plain : Caller → Prop
  | .search query => Clean query
  | .processWeek instanceId _ _ => Clean instanceId
  | .getHistory _ fromTime toTime => IsBound fromTime ∧ IsBound toTime
  | .getExchangeHistory exchange fromTime toTime =>
      Clean exchange ∧ IsBound fromTime ∧ IsBound toTime
  | .getAudit fromTime toTime actor action =>
      (IsBound fromTime ∧ IsBound toTime) ∧ Clean actor ∧ Clean action
  | _ => True

/-- The condition is an order only. -/
def Caller.sortsOnly : Caller → Bool
  | .getTimeline | .getConfig | .getThresholds => true
  | .getAlerts status => status = ""
  | _ => false

/-! ## Lexemes of the statements -/

/-- What a statement on a table begins with. -/
def selectFrom (table : String) : List Lexeme :=
  [.keyword .selectWord, .operator ['*'], .keyword .fromWord,
    .name table.toList]

/-- A name of a table or a column, in lower case. -/
def IsName (name : String) : Prop :=
  IsWord name.toList ∧ classify (.word name.toList) = .name name.toList

instance (name : String) : Decidable (IsName name) :=
  inferInstanceAs (Decidable (_ ∧ _))

theorem lexemes_select {table : String} (htable : IsName table)
    {rest : List Char} (hbreaks : Breaks rest) :
    lexemes ("SELECT * FROM ".toList ++ (table.toList ++ rest)) =
      selectFrom table ++ lexemes rest := by
  have hselect : lexemes "SELECT * FROM ".toList =
      [.keyword .selectWord, .operator ['*'], .keyword .fromWord] := by
    decide +kernel
  have hbetween : (start.run "SELECT * FROM ".toList).mode = .between := by
    decide +kernel
  rw [lexemes_word hbetween htable.1 hbreaks, hselect, htable.2]
  rfl

/-- The lexemes of a statement with a condition. -/
theorem lexemes_getByCondition {table text : String} (htable : IsName table)
    (hgiven : text.toList ≠ []) (pieces : List Piece) :
    lexemes (compose (getByCondition table (.text text :: pieces))) =
      selectFrom table ++
        lexemes (" WHERE ".toList ++ (text.toList ++ compose pieces)) := by
  have htext : compose (getByCondition table (.text text :: pieces)) =
      "SELECT * FROM ".toList ++ (table.toList ++
        (" WHERE ".toList ++ (text.toList ++ compose pieces))) := by
    rw [getByCondition_text hgiven]
    simp only [compose_cons, Piece.chars, String.toList_append,
      List.append_assoc]
  have hbreaks : Breaks " WHERE ".toList := breaks_of_blank (by decide)
  rw [htext, lexemes_select htable (hbreaks.append _)]

theorem HistoryKind.isName_table (kind : HistoryKind) : IsName kind.table := by
  cases kind <;> decide +kernel

/-- The comparison of a time with a bound. -/
def bounded (column : String) (operator : List Char) (bound : String) :
    Predicate (List Char) :=
  .compare (.column column.toList) operator (.number bound.toList)

/-- The comparisons that the bounds of a history give. -/
def boundsOf (column fromTime toTime : String) :
    List (Predicate (List Char)) :=
  (if fromTime ≠ "" then [bounded column ['>', '='] fromTime] else []) ++
    if toTime ≠ "" then [bounded column ['<', '='] toTime] else []

theorem ne_of_isDecimal {text : String} (hdecimal : IsDecimal text.toList) :
    text ≠ "" := by
  rintro rfl
  exact hdecimal.1 rfl

theorem lexemes_measuredOrder : lexemes " ORDER BY measured_at ASC".toList =
    [.keyword .orderWord, .keyword .byWord, .name "measured_at".toList,
      .keyword .ascWord] := by
  decide +kernel

/-- The statement of a history without bounds, which has no order. -/
theorem parse_history_unbounded (kind : HistoryKind) :
    parse (lexemes (compose (getByCondition kind.table
      [.text (historyWhere "" "")]))) =
        some ⟨kind.table.toList, none, none, none⟩ := by
  cases kind <;> decide +kernel

/-- An opening of a clause, after which a literal or a number can stand. -/
structure Opens (opening : String) (opened : List Lexeme) : Prop where
  lexemes_eq : lexemes opening.toList = opened
  between : (start.run opening.toList).mode = .between
  blank : opening.toList.head? = some ' '

theorem Opens.breaks {opening : String} {opened : List Lexeme}
    (hopens : Opens opening opened) : Breaks opening.toList :=
  breaks_of_blank hopens.blank

/-- A condition that begins with a bound. -/
theorem lexemes_boundFirst (kind : HistoryKind) {opening bound rest : String}
    {opened : List Lexeme} (hopens : Opens (" WHERE " ++ opening) opened)
    (hbound : IsDecimal bound.toList) (hrest : Breaks rest.toList) :
    lexemes (compose (getByCondition kind.table
        [.text (opening ++ (bound ++ rest))])) =
      selectFrom kind.table ++
        (opened ++ .number bound.toList :: lexemes rest.toList) := by
  have hgiven : (opening ++ (bound ++ rest)).toList ≠ [] := by
    simp [String.toList_append, hbound.1]
  have htext : " WHERE ".toList ++
      ((opening ++ (bound ++ rest)).toList ++ compose []) =
        (" WHERE " ++ opening).toList ++ (bound.toList ++ rest.toList) := by
    simp [compose, String.toList_append]
  rw [lexemes_getByCondition kind.isName_table hgiven, htext,
    lexemes_number hopens.between hbound hrest, hopens.lexemes_eq]

/-- The statement of a history with a bound. -/
theorem parse_history_bounded (kind : HistoryKind) {fromTime toTime : String}
    (hfrom : IsBound fromTime) (hto : IsBound toTime)
    (hgiven : fromTime ≠ "" ∨ toTime ≠ "") :
    parse (lexemes (compose (getByCondition kind.table
        [.text (historyWhere fromTime toTime)]))) =
      some ⟨kind.table.toList,
        some [boundsOf "measured_at" fromTime toTime],
        some ("measured_at".toList, false), none⟩ := by
  have hbreaks : Breaks " ORDER BY measured_at ASC".toList :=
    breaks_of_blank (by decide)
  have hlow : Opens (" WHERE " ++ "measured_at >= ")
      [.keyword .whereWord, .name "measured_at".toList,
        .operator ['>', '=']] :=
    ⟨by decide +kernel, by decide +kernel, by decide⟩
  rcases hto with rfl | hto
  · have hfrom := hfrom.resolve_left (by simpa using hgiven)
    have hne := ne_of_isDecimal hfrom
    have hwhere : historyWhere fromTime "" =
        "measured_at >= " ++ (fromTime ++ " ORDER BY measured_at ASC") := by
      simp [historyWhere, historyBounds, hne, String.append_assoc]
    rw [hwhere, lexemes_boundFirst kind hlow hfrom hbreaks,
      lexemes_measuredOrder, boundsOf, if_pos hne]
    rfl
  · have hneTo := ne_of_isDecimal hto
    rcases hfrom with rfl | hfrom
    · have hhigh : Opens (" WHERE " ++ "measured_at <= ")
          [.keyword .whereWord, .name "measured_at".toList,
            .operator ['<', '=']] :=
        ⟨by decide +kernel, by decide +kernel, by decide⟩
      have hwhere : historyWhere "" toTime =
          "measured_at <= " ++ (toTime ++ " ORDER BY measured_at ASC") := by
        simp [historyWhere, historyBounds, hneTo, String.append_assoc]
      rw [hwhere, lexemes_boundFirst kind hhigh hto hbreaks,
        lexemes_measuredOrder, boundsOf, if_pos hneTo]
      rfl
    · have hneFrom := ne_of_isDecimal hfrom
      have hupper : Opens " AND measured_at <= "
          [.keyword .andWord, .name "measured_at".toList,
            .operator ['<', '=']] :=
        ⟨by decide +kernel, by decide +kernel, by decide⟩
      have hwhere : historyWhere fromTime toTime =
          "measured_at >= " ++ (fromTime ++ (" AND measured_at <= " ++
            (toTime ++ " ORDER BY measured_at ASC"))) := by
        simp [historyWhere, historyBounds, hneFrom, hneTo,
          String.append_assoc]
      have hupperText : (" AND measured_at <= " ++
          (toTime ++ " ORDER BY measured_at ASC")).toList =
            " AND measured_at <= ".toList ++
              (toTime.toList ++ " ORDER BY measured_at ASC".toList) := by
        simp only [String.toList_append]
      have hupperBreaks : Breaks (" AND measured_at <= " ++
          (toTime ++ " ORDER BY measured_at ASC")).toList := by
        rw [hupperText]
        exact hupper.breaks.append _
      rw [hwhere, lexemes_boundFirst kind hlow hfrom hupperBreaks, hupperText,
        lexemes_number hupper.between hto hbreaks, hupper.lexemes_eq,
        lexemes_measuredOrder, boundsOf, if_pos hneFrom, if_pos hneTo]
      rfl

/-! ## Exchange histories -/

/-- A comparison that is there if its bound is. -/
def boundClause (opening bound : String) : List Char :=
  if bound ≠ "" then opening.toList ++ bound.toList else []

theorem breaks_boundClause {opening : String} {opened : List Lexeme}
    (hopens : Opens opening opened) (bound : String) {rest : List Char}
    (hrest : Breaks rest) :
    Breaks (boundClause opening bound ++ rest) := by
  rw [boundClause]
  split
  · rw [List.append_assoc]
    exact hopens.breaks.append _
  · exact hrest

theorem lexemes_boundClause {opening bound : String} {opened : List Lexeme}
    (hopens : Opens opening opened) (hbound : IsBound bound)
    {rest : List Char} (hrest : Breaks rest) :
    lexemes (boundClause opening bound ++ rest) =
      (if bound ≠ "" then opened ++ [.number bound.toList] else []) ++
        lexemes rest := by
  rcases hbound with rfl | hbound
  · rfl
  · have hne := ne_of_isDecimal hbound
    rw [boundClause, if_pos hne, if_pos hne, List.append_assoc,
      lexemes_number hopens.between hbound hrest, hopens.lexemes_eq,
      List.append_assoc]
    rfl

/-- What the bounds of an exchange history are composed to. -/
theorem compose_getExchangeHistory (exchange fromTime toTime : String) :
    compose (getExchangeHistory exchange fromTime toTime) =
      "SELECT * FROM ".toList ++ ("exchange_metrics_history".toList ++
        (" WHERE exchange_name = ".toList ++
          ((Piece.quoted exchange).chars ++
            (boundClause " AND snapshot_time >= " fromTime ++
              (boundClause " AND snapshot_time <= " toTime ++
                " ORDER BY snapshot_time ASC".toList))))) := by
  have hwhere : " WHERE exchange_name = ".toList =
      " WHERE ".toList ++ "exchange_name = ".toList := by decide +kernel
  have hselect : "SELECT * FROM exchange_metrics_history".toList =
      "SELECT * FROM ".toList ++ "exchange_metrics_history".toList := by
    decide +kernel
  rw [getExchangeHistory, List.append_assoc, List.cons_append,
    getByCondition_text (by decide), hwhere]
  by_cases hfrom : fromTime = ""
  · by_cases hto : toTime = ""
    · simp [boundClause, hfrom, hto, compose, Piece.chars]
    · simp [boundClause, hfrom, hto, compose, Piece.chars]
  · by_cases hto : toTime = ""
    · simp [boundClause, hfrom, hto, compose, Piece.chars]
    · simp [boundClause, hfrom, hto, compose, Piece.chars]

/-- The statement of the history of an exchange. -/
theorem parse_exchangeHistory {exchange fromTime toTime : String}
    (hclean : Clean exchange) (hfrom : IsBound fromTime)
    (hto : IsBound toTime) :
    parse (lexemes (compose (getExchangeHistory exchange fromTime toTime))) =
      some ⟨"exchange_metrics_history".toList,
        some [.compare (.column "exchange_name".toList) ['=']
            (.text exchange.toList) ::
          boundsOf "snapshot_time" fromTime toTime],
        some ("snapshot_time".toList, false), none⟩ := by
  have hname : IsName "exchange_metrics_history" := by decide +kernel
  have hwhere : Opens " WHERE exchange_name = "
      [.keyword .whereWord, .name "exchange_name".toList, .operator ['=']] :=
    ⟨by decide +kernel, by decide +kernel, by decide⟩
  have hlow : Opens " AND snapshot_time >= "
      [.keyword .andWord, .name "snapshot_time".toList, .operator ['>', '=']] :=
    ⟨by decide +kernel, by decide +kernel, by decide⟩
  have hhigh : Opens " AND snapshot_time <= "
      [.keyword .andWord, .name "snapshot_time".toList, .operator ['<', '=']] :=
    ⟨by decide +kernel, by decide +kernel, by decide⟩
  have hsorted : lexemes " ORDER BY snapshot_time ASC".toList =
      [.keyword .orderWord, .keyword .byWord, .name "snapshot_time".toList,
        .keyword .ascWord] := by
    decide +kernel
  have hsortedBreaks : Breaks " ORDER BY snapshot_time ASC".toList :=
    breaks_of_blank (by decide)
  have hhighBreaks := breaks_boundClause hhigh toTime hsortedBreaks
  rw [compose_getExchangeHistory, lexemes_select hname (hwhere.breaks.append _),
    lexemes_literal hwhere.between hclean
      (breaks_boundClause hlow fromTime hhighBreaks),
    hwhere.lexemes_eq, lexemes_boundClause hlow hfrom hhighBreaks,
    lexemes_boundClause hhigh hto hsortedBreaks, hsorted]
  simp only [boundsOf]
  split_ifs <;> rfl

/-! ## Audits -/

/-- A comparison with a literal that is there if its parameter is given. -/
def literalClause (opening parameter content : String) : List Char :=
  if parameter ≠ "" then opening.toList ++ (Piece.quoted content).chars else []

theorem breaks_literalClause {opening : String} {opened : List Lexeme}
    (hopens : Opens opening opened) (parameter content : String)
    {rest : List Char} (hrest : Breaks rest) :
    Breaks (literalClause opening parameter content ++ rest) := by
  rw [literalClause]
  split
  · rw [List.append_assoc]
    exact hopens.breaks.append _
  · exact hrest

theorem lexemes_literalClause {opening parameter content : String}
    {opened : List Lexeme} (hopens : Opens opening opened)
    (hclean : Clean content) {rest : List Char} (hrest : Breaks rest) :
    lexemes (literalClause opening parameter content ++ rest) =
      (if parameter ≠ "" then opened ++ [.literal content.toList] else []) ++
        lexemes rest := by
  rw [literalClause]
  split
  · rw [List.append_assoc, lexemes_literal hopens.between hclean hrest,
      hopens.lexemes_eq, List.append_assoc]
    rfl
  · rfl

theorem compose_bound (opening bound : String) :
    compose (if bound ≠ "" then [.text (opening ++ bound)] else []) =
      boundClause opening bound := by
  rw [boundClause]
  split
  · rw [compose_cons, Piece.chars, String.toList_append]
    exact List.append_nil _
  · rfl

theorem compose_literal (opening parameter content : String) :
    compose (if parameter ≠ "" then [.text opening, .quoted content] else []) =
      literalClause opening parameter content := by
  rw [literalClause]
  split
  · rw [compose_cons, compose_cons, Piece.chars]
    exact congrArg _ (List.append_nil _)
  · rfl

theorem compose_getAudit (fromTime toTime actor action : String) :
    compose (getAudit fromTime toTime actor action) =
      "SELECT * FROM ".toList ++ ("feed_events".toList ++
        (" WHERE 1=1".toList ++
          (boundClause " AND occurred_at >= " fromTime ++
            (boundClause " AND occurred_at <= " toTime ++
              (literalClause " AND actor_id LIKE " actor (like actor) ++
                (literalClause " AND action_type = " action action ++
                  " ORDER BY occurred_at DESC LIMIT 200".toList)))))) := by
  have hwhere : " WHERE 1=1".toList = " WHERE ".toList ++ "1=1".toList := by
    decide +kernel
  have hselect : "SELECT * FROM feed_events".toList =
      "SELECT * FROM ".toList ++ "feed_events".toList := by
    decide +kernel
  have hsorted : compose [.text " ORDER BY occurred_at DESC LIMIT 200"] =
      " ORDER BY occurred_at DESC LIMIT 200".toList := List.append_nil _
  rw [getAudit_eq, auditHead, auditTimes, auditClauses]
  simp only [List.cons_append, List.append_assoc, compose_cons, compose_append,
    compose_bound, compose_literal, hsorted, Piece.chars, hselect, hwhere]

/-- The statement of an audit with plain parameters. -/
theorem grammatical_getAudit {fromTime toTime actor action : String}
    (hfrom : IsBound fromTime) (hto : IsBound toTime) (hactor : Clean actor)
    (haction : Clean action) :
    Grammatical (compose (getAudit fromTime toTime actor action)) := by
  have hname : IsName "feed_events" := by decide +kernel
  have hlow : Opens " AND occurred_at >= "
      [.keyword .andWord, .name "occurred_at".toList, .operator ['>', '=']] :=
    ⟨by decide +kernel, by decide +kernel, by decide⟩
  have hhigh : Opens " AND occurred_at <= "
      [.keyword .andWord, .name "occurred_at".toList, .operator ['<', '=']] :=
    ⟨by decide +kernel, by decide +kernel, by decide⟩
  have hactorOpens : Opens " AND actor_id LIKE "
      [.keyword .andWord, .name "actor_id".toList, .keyword .likeWord] :=
    ⟨by decide +kernel, by decide +kernel, by decide⟩
  have hactionOpens : Opens " AND action_type = "
      [.keyword .andWord, .name "action_type".toList, .operator ['=']] :=
    ⟨by decide +kernel, by decide +kernel, by decide⟩
  have hsorted : Breaks " ORDER BY occurred_at DESC LIMIT 200".toList :=
    breaks_of_blank (by decide)
  have hactionBreaks := breaks_literalClause hactionOpens action action hsorted
  have hactorBreaks :=
    breaks_literalClause hactorOpens actor (like actor) hactionBreaks
  have hhighBreaks := breaks_boundClause hhigh toTime hactorBreaks
  have hlowBreaks := breaks_boundClause hlow fromTime hhighBreaks
  have hwhere : (start.run " WHERE 1=1".toList).mode = .word ['1'] := by
    decide +kernel
  have hwhereBreaks : Breaks " WHERE 1=1".toList := breaks_of_blank (by decide)
  have hwhereLexemes : lexemes " WHERE 1=1".toList =
      [.keyword .whereWord, .number ['1'], .operator ['='], .number ['1']] := by
    decide +kernel
  have hsortedLexemes :
      lexemes " ORDER BY occurred_at DESC LIMIT 200".toList =
        [.keyword .orderWord, .keyword .byWord, .name "occurred_at".toList,
          .keyword .descWord, .keyword .limitWord, .number "200".toList] := by
    decide +kernel
  rw [Grammatical, compose_getAudit,
    lexemes_select hname (hwhereBreaks.append _),
    lexemes_append_word hwhere hlowBreaks, hwhereLexemes,
    lexemes_boundClause hlow hfrom hhighBreaks,
    lexemes_boundClause hhigh hto hactorBreaks,
    lexemes_literalClause hactorOpens ((clean_like actor).mpr hactor)
      hactionBreaks,
    lexemes_literalClause hactionOpens haction hsorted, hsortedLexemes]
  split_ifs <;> rfl

/-! ## Searches and weeks -/

theorem compose_pieces (comparison : Comparison) (query : String) :
    compose (comparison.pieces query) =
      "SELECT * FROM ".toList ++ (comparison.table.toList ++
        ((" WHERE " ++ comparison.column).toList ++
          ((Piece.quoted (like query)).chars ++
            match comparison.other with
            | none => " LIMIT 10".toList
            | some other => other.toList ++
                ((Piece.quoted (like query)).chars ++ " LIMIT 10".toList)))) := by
  have hlimit : compose [.text " LIMIT 10"] = " LIMIT 10".toList :=
    List.append_nil _
  obtain ⟨table, column, other⟩ := comparison
  cases other with
  | none =>
      simp only [Comparison.pieces, compose_cons, Piece.chars, hlimit,
        String.toList_append, List.append_assoc]
  | some other =>
      simp only [Comparison.pieces, compose_cons, Piece.chars, hlimit,
        String.toList_append, List.append_assoc]

/-- The texts of a comparison compare columns with the query. -/
structure Comparison.Compares (comparison : Comparison) : Prop where
  isName_table : IsName comparison.table
  column_opens : ∃ name, Opens (" WHERE " ++ comparison.column)
    [.keyword .whereWord, .name name, .keyword .ilikeWord]
  other_opens : ∀ other ∈ comparison.other, ∃ name, Opens other
    [.keyword .orWord, .name name, .keyword .ilikeWord]

theorem compares_of_mem : ∀ comparison ∈ comparisons,
    comparison.Compares := by
  intro comparison hmem
  simp only [comparisons, List.mem_cons, List.not_mem_nil, or_false] at hmem
  rcases hmem with rfl | rfl | rfl | rfl | rfl
  · refine ⟨by decide +kernel, ⟨"exchange".toList, by decide +kernel,
      by decide +kernel, by decide +kernel⟩, ?_⟩
    rintro other ⟨⟩
  · refine ⟨by decide +kernel, ⟨"client_name".toList, by decide +kernel,
      by decide +kernel, by decide +kernel⟩, ?_⟩
    rintro other ⟨⟩
    exact ⟨"tenant_id".toList, by decide +kernel, by decide +kernel,
      by decide +kernel⟩
  · refine ⟨by decide +kernel, ⟨"session_id".toList, by decide +kernel,
      by decide +kernel, by decide +kernel⟩, ?_⟩
    rintro other ⟨⟩
  · refine ⟨by decide +kernel, ⟨"metric_name".toList, by decide +kernel,
      by decide +kernel, by decide +kernel⟩, ?_⟩
    rintro other ⟨⟩
    exact ⟨"message".toList, by decide +kernel, by decide +kernel,
      by decide +kernel⟩
  · refine ⟨by decide +kernel, ⟨"action_type".toList, by decide +kernel,
      by decide +kernel, by decide +kernel⟩, ?_⟩
    rintro other ⟨⟩
    exact ⟨"target_id".toList, by decide +kernel, by decide +kernel,
      by decide +kernel⟩

theorem Comparison.Compares.grammatical {comparison : Comparison}
    (hcompares : comparison.Compares) {query : String} (hclean : Clean query) :
    Grammatical (compose (comparison.pieces query)) := by
  obtain ⟨hname, ⟨name, hopens⟩, hother⟩ := hcompares
  have hlike := (clean_like query).mpr hclean
  have hlimit : lexemes " LIMIT 10".toList =
      [.keyword .limitWord, .number "10".toList] := by
    decide +kernel
  have hbreaks : Breaks " LIMIT 10".toList := breaks_of_blank (by decide)
  rw [Grammatical, compose_pieces, lexemes_select hname (hopens.breaks.append _)]
  cases hcase : comparison.other with
  | none =>
      rw [lexemes_literal hopens.between hlike hbreaks, hopens.lexemes_eq,
        hlimit]
      rfl
  | some other =>
      obtain ⟨otherName, hotherOpens⟩ := hother other hcase
      rw [lexemes_literal hopens.between hlike (hotherOpens.breaks.append _),
        hopens.lexemes_eq,
        lexemes_literal hotherOpens.between hlike hbreaks,
        hotherOpens.lexemes_eq, hlimit]
      rfl

theorem grammatical_search {query : String} (hclean : Clean query) :
    ∀ statement ∈ search query, Grammatical (compose statement) := by
  intro statement hmem
  obtain ⟨comparison, hcomparison, rfl⟩ := exists_of_mem_search hmem
  exact (compares_of_mem comparison hcomparison).grammatical hclean

theorem isDecimal_toString (number : ℕ) :
    IsDecimal (toString number).toList := by
  rw [Nat.toString_eq_repr, Nat.toList_repr]
  constructor
  · rw [← Nat.toList_repr]
    intro hempty
    exact Nat.repr_ne_empty (String.toList_injective hempty)
  · rw [List.all_eq_true]
    exact fun digit hdigit =>
      Nat.isDigit_of_mem_toDigits (by decide) (by decide) hdigit

/-- The statement of a week.  A second stands between brackets, so the bracket
behind it ends it. -/
theorem grammatical_processWeek {instanceId : String}
    (hclean : Clean instanceId) (startMs endMs : ℕ) :
    ∀ statement ∈ (Caller.processWeek instanceId startMs endMs).statements,
      Grammatical (compose statement) := by
  intro statement hmem
  obtain rfl := List.mem_singleton.mp hmem
  have hname : IsName "feed_metrics_snapshots" := by decide +kernel
  have hwhere : Opens " WHERE instance_id = "
      [.keyword .whereWord, .name "instance_id".toList, .operator ['=']] :=
    ⟨by decide +kernel, by decide +kernel, by decide⟩
  have hlow : Opens " AND measured_at >= to_timestamp("
      [.keyword .andWord, .name "measured_at".toList, .operator ['>', '='],
        .name "to_timestamp".toList, .punctuation '('] :=
    ⟨by decide +kernel, by decide +kernel, by decide⟩
  have hhigh : (start.run ") AND measured_at < to_timestamp(".toList).mode =
      .between := by
    decide +kernel
  have hhighLexemes : lexemes ") AND measured_at < to_timestamp(".toList =
      [.punctuation ')', .keyword .andWord, .name "measured_at".toList,
        .operator ['<'], .name "to_timestamp".toList, .punctuation '('] := by
    decide +kernel
  have hclosed : lexemes ")".toList = [.punctuation ')'] := by decide +kernel
  have hclosedBreaks : Breaks ")".toList := ⟨')', [], rfl, Or.inr rfl⟩
  have hhighBreaks : Breaks ") AND measured_at < to_timestamp(".toList :=
    ⟨')', _, rfl, Or.inr rfl⟩
  have htext : compose (getByCondition "feed_metrics_snapshots"
      [.text "instance_id = ", .quoted instanceId,
        .text (" AND measured_at >= to_timestamp(" ++
          toString (startMs / 1000) ++ ") AND measured_at < to_timestamp(" ++
          toString (endMs / 1000) ++ ")")]) =
      "SELECT * FROM ".toList ++ ("feed_metrics_snapshots".toList ++
        (" WHERE instance_id = ".toList ++
          ((Piece.quoted instanceId).chars ++
            (" AND measured_at >= to_timestamp(".toList ++
              ((toString (startMs / 1000)).toList ++
                (") AND measured_at < to_timestamp(".toList ++
                  ((toString (endMs / 1000)).toList ++ ")".toList))))))) := by
    have hopening : " WHERE instance_id = ".toList =
        " WHERE ".toList ++ "instance_id = ".toList := by decide +kernel
    have hnil : compose [] = [] := rfl
    rw [getByCondition_text (by decide), hopening]
    simp only [compose_cons, hnil, Piece.chars, String.toList_append,
      List.append_assoc, List.append_nil]
  rw [Grammatical, htext, lexemes_select hname (hwhere.breaks.append _),
    lexemes_literal hwhere.between hclean (hlow.breaks.append _),
    hwhere.lexemes_eq,
    lexemes_number hlow.between (isDecimal_toString _) (hhighBreaks.append _),
    hlow.lexemes_eq,
    lexemes_number hhigh (isDecimal_toString _) hclosedBreaks, hhighLexemes,
    hclosed]
  rfl

/-! ## Lists of alerts -/

/-- The comparison of `acknowledged` with a truth value. -/
def acknowledgedIs (value : Bool) : Predicate (List Char) :=
  .compare (.column "acknowledged".toList) ['='] (.boolean value)

/-- The comparisons of the filter of a status. -/
def alertsComparisons (status : String) : List (Predicate (List Char)) :=
  if status = "active" then
    [acknowledgedIs false, .isNull (.column "resolved_at".toList) false]
  else if status = "acknowledged" then [acknowledgedIs true]
  else [acknowledgedIs false]

theorem parse_getAlerts {status : String} (hstatus : status ≠ "") :
    parse (lexemes (compose
        (getByCondition "alerts" [.text (alertsWhere status)]))) =
      some ⟨"alerts".toList, some [alertsComparisons status],
        some ("created_at".toList, true), some 100⟩ := by
  rw [alertsWhere, alertsFilter, alertsComparisons]
  by_cases hactive : status = "active"
  · rw [if_pos hactive, if_pos hactive]
    decide +kernel
  · rw [if_neg hactive, if_neg hactive]
    by_cases hacknowledged : status = "acknowledged"
    · rw [if_pos hacknowledged, if_pos hacknowledged]
      decide +kernel
    · rw [if_neg hacknowledged, if_neg hacknowledged, if_pos hstatus]
      decide +kernel

/-- A condition that is an order only stands behind `WHERE`. -/
theorem not_grammatical_of_sortsOnly {caller : Caller}
    (hsorts : caller.sortsOnly = true) :
    ∀ statement ∈ caller.statements, ¬ Grammatical (compose statement) := by
  cases caller with
  | getTimeline | getConfig | getThresholds => decide +kernel
  | getAlerts status =>
      obtain rfl : status = "" := of_decide_eq_true hsorts
      decide +kernel
  | _ => cases hsorts

/-! ## Grammatical statements -/

theorem grammatical_of_parse {text : List Char} {statement : Statement (List Char)}
    (hparse : parse (lexemes text) = some statement) : Grammatical text := by
  rw [Grammatical, hparse]
  rfl

theorem grammatical_getHistory (kind : HistoryKind) {fromTime toTime : String}
    (hfrom : IsBound fromTime) (hto : IsBound toTime) :
    Grammatical (compose (getByCondition kind.table
      [.text (historyWhere fromTime toTime)])) := by
  by_cases hgiven : fromTime ≠ "" ∨ toTime ≠ ""
  · exact grammatical_of_parse (parse_history_bounded kind hfrom hto hgiven)
  · rw [not_or, not_not, not_not] at hgiven
    rw [hgiven.1, hgiven.2]
    exact grammatical_of_parse (parse_history_unbounded kind)

theorem grammatical_of_plain {caller : Caller} (hplain : caller.Plain)
    (hsorts : caller.sortsOnly = false) :
    ∀ statement ∈ caller.statements, Grammatical (compose statement) := by
  cases caller with
  | health | getFeedStatus | getFeedInstances | getClients | getDashboard =>
      decide +kernel
  | search query => exact grammatical_search hplain
  | processWeek instanceId startMs endMs =>
      exact grammatical_processWeek hplain startMs endMs
  | getHistory kind fromTime toTime =>
      intro statement hmem
      obtain rfl := List.mem_singleton.mp hmem
      exact grammatical_getHistory kind hplain.1 hplain.2
  | getExchangeHistory exchange fromTime toTime =>
      intro statement hmem
      obtain rfl := List.mem_singleton.mp hmem
      exact grammatical_of_parse
        (parse_exchangeHistory hplain.1 hplain.2.1 hplain.2.2)
  | getTimeline | getConfig | getThresholds => cases hsorts
  | getAlerts status =>
      intro statement hmem
      obtain rfl := List.mem_singleton.mp hmem
      exact grammatical_of_parse (parse_getAlerts (of_decide_eq_false hsorts))
  | getAudit fromTime toTime actor action =>
      intro statement hmem
      obtain rfl := List.mem_singleton.mp hmem
      exact grammatical_getAudit hplain.1.1 hplain.1.2 hplain.2.1 hplain.2.2

/-- With plain parameters the statements of a caller are grammatical exactly
where its condition is not an order only. -/
theorem grammatical_iff {caller : Caller} (hplain : caller.Plain) :
    (∀ statement ∈ caller.statements, Grammatical (compose statement)) ↔
      caller.sortsOnly = false := by
  constructor
  · intro hall
    by_contra hsorts
    rw [Bool.not_eq_false] at hsorts
    have hnot := not_grammatical_of_sortsOnly hsorts
    cases caller with
    | getTimeline | getConfig | getThresholds | getAlerts status =>
        exact hnot _ (List.mem_singleton_self _)
          (hall _ (List.mem_singleton_self _))
    | _ => cases hsorts
  · exact grammatical_of_plain hplain

end Datafeed.Api
