import Datafeed.Core.SqlLexer

/-!
# Statements composed from request parameters

The services of the API pass conditions to the readers of `SAdapter` as text,
into which they put the parameters of a request between quotes without escaping
them.  The statements are given by their pieces; the database is connected.
-/

namespace Datafeed.Api

open SqlLexer

/-- The text that a `get_*_by_condition` executes. -/
def getByCondition (table : String) (whereClause : List Piece) : List Piece :=
  if compose whereClause = [] then [.text ("SELECT * FROM " ++ table)]
  else .text ("SELECT * FROM " ++ table) :: .text " WHERE " :: whereClause

def like (query : String) : String := "%" ++ query ++ "%"

/-! ## `SearchService` -/

/-- The tables that `search` reads, with their conditions. -/
def searchConditions (query : String) : List (String × List Piece) :=
  [("feed_instances",
      [.text "exchange ILIKE ", .quoted (like query), .text " LIMIT 10"]),
    ("clients",
      [.text "client_name ILIKE ", .quoted (like query),
        .text " OR tenant_id ILIKE ", .quoted (like query),
        .text " LIMIT 10"]),
    ("sessions",
      [.text "session_id ILIKE ", .quoted (like query), .text " LIMIT 10"]),
    ("alerts",
      [.text "metric_name ILIKE ", .quoted (like query),
        .text " OR message ILIKE ", .quoted (like query),
        .text " LIMIT 10"]),
    ("feed_events",
      [.text "action_type ILIKE ", .quoted (like query),
        .text " OR target_id ILIKE ", .quoted (like query),
        .text " LIMIT 10"])]

/-- The statements of `search`, in its order; an empty query has none. -/
def search (query : String) : List (List Piece) :=
  if query = "" then []
  else (searchConditions query).map fun condition =>
    getByCondition condition.1 condition.2

/-! ## `MonitorService` -/

def getExchangeHistory (exchange fromTime toTime : String) : List Piece :=
  getByCondition "exchange_metrics_history"
    ([.text "exchange_name = ", .quoted exchange] ++
      (if fromTime ≠ "" ∧ toTime ≠ "" then
        [.text (" AND snapshot_time >= " ++ fromTime ++
          " AND snapshot_time <= " ++ toTime)]
      else if fromTime ≠ "" then
        [.text (" AND snapshot_time >= " ++ fromTime)]
      else if toTime ≠ "" then
        [.text (" AND snapshot_time <= " ++ toTime)]
      else []) ++
      [.text " ORDER BY snapshot_time ASC"])

/-! ## `AlertsService` -/

/-- The part of the condition of `getAudit` that its literals follow. -/
def auditTimes (fromTime toTime : String) : List Piece :=
  .text "1=1" ::
    (if fromTime ≠ "" then [.text (" AND occurred_at >= " ++ fromTime)]
      else []) ++
    (if toTime ≠ "" then [.text (" AND occurred_at <= " ++ toTime)] else [])

def auditClauses (actor action : String) : List Piece :=
  (if actor ≠ "" then [.text " AND actor_id LIKE ", .quoted (like actor)]
    else []) ++
  (if action ≠ "" then [.text " AND action_type = ", .quoted action]
    else []) ++
  [.text " ORDER BY occurred_at DESC LIMIT 200"]

/-- The parameters `exchange` and `client` are not used. -/
def getAudit (fromTime toTime actor action : String) : List Piece :=
  getByCondition "feed_events"
    (auditTimes fromTime toTime ++ auditClauses actor action)

/-! ## Searches -/

/-- The statements of two searches differ in the contents of literals only, and
each literal holds the query between percent signs. -/
structure SearchesDifferInContents (first second : String) : Prop where
  structure_eq : ∀ pair ∈ (search first).zip (search second),
    skeleton (lex (compose pair.1)) = skeleton (lex (compose pair.2))
  first_quotes : ∀ statement ∈ search first, Quotes start statement
  second_quotes : ∀ statement ∈ search second, Quotes start statement

theorem getByCondition_text {table text : String} (hnonempty : text.toList ≠ [])
    (pieces : List Piece) :
    getByCondition table (.text text :: pieces) =
      .text ("SELECT * FROM " ++ table) :: .text " WHERE " :: .text text ::
        pieces := by
  apply if_neg
  rw [compose_cons]
  exact fun hempty => hnonempty (List.append_eq_nil_iff.mp hempty).1

theorem clean_like (query : String) : Clean (like query) ↔ Clean query := by
  have hpercent : quote ∉ "%".toList ∧ terminator ∉ "%".toList := by decide
  simp only [Clean, like, String.toList_append, List.mem_append, hpercent,
    false_or, or_false]

/-- A statement of `search`: its table, the text before the query and, where it
compares another column, the text before the query there. -/
structure Comparison where
  table : String
  column : String
  other : Option String

def Comparison.pieces (comparison : Comparison) (query : String) :
    List Piece :=
  .text ("SELECT * FROM " ++ comparison.table) :: .text " WHERE " ::
    .text comparison.column :: .quoted (like query) ::
      match comparison.other with
      | none => [.text " LIMIT 10"]
      | some other => [.text other, .quoted (like query), .text " LIMIT 10"]

def comparisons : List Comparison :=
  [⟨"feed_instances", "exchange ILIKE ", none⟩,
    ⟨"clients", "client_name ILIKE ", some " OR tenant_id ILIKE "⟩,
    ⟨"sessions", "session_id ILIKE ", none⟩,
    ⟨"alerts", "metric_name ILIKE ", some " OR message ILIKE "⟩,
    ⟨"feed_events", "action_type ILIKE ", some " OR target_id ILIKE "⟩]

theorem search_eq {query : String} (hgiven : query ≠ "") :
    search query =
      comparisons.map fun comparison => comparison.pieces query := by
  rw [search, if_neg hgiven]
  simp only [searchConditions, comparisons, List.map_cons, List.map_nil]
  repeat rw [getByCondition_text (by decide)]
  rfl

theorem exists_of_mem_search {query : String} {statement : List Piece}
    (hstatement : statement ∈ search query) :
    ∃ comparison ∈ comparisons, comparison.pieces query = statement := by
  by_cases hgiven : query = ""
  · rw [search, if_pos hgiven] at hstatement
    cases hstatement
  · rw [search_eq hgiven] at hstatement
    exact List.mem_map.mp hstatement

/-- The statements of two searches are the same comparisons. -/
theorem exists_of_mem_zip_search {first second : String}
    {pair : List Piece × List Piece}
    (hpair : pair ∈ (search first).zip (search second)) :
    ∃ comparison ∈ comparisons,
      (comparison.pieces first, comparison.pieces second) = pair := by
  by_cases hfirst : first = ""
  · rw [search, if_pos hfirst] at hpair
    cases hpair
  by_cases hsecond : second = ""
  · rw [search, search, if_pos hsecond, List.zip_nil_right] at hpair
    cases hpair
  rw [search_eq hfirst, search_eq hsecond, List.zip_map'] at hpair
  exact List.mem_map.mp hpair

/-- Literals can begin where the query stands, and its literal ends. -/
structure Comparison.Separates (comparison : Comparison) : Prop where
  column_between : (((start.run ("SELECT * FROM " ++
    comparison.table).toList).run " WHERE ".toList).run
      comparison.column.toList).mode = .between
  other_blank : ∀ other ∈ comparison.other, other.toList.head? = some ' '
  other_between : ∀ other ∈ comparison.other,
    (start.run other.toList).mode = .between

theorem separates_of_mem : ∀ comparison ∈ comparisons,
    comparison.Separates := by
  have hcolumn : ∀ comparison ∈ comparisons, (((start.run ("SELECT * FROM " ++
      comparison.table).toList).run " WHERE ".toList).run
        comparison.column.toList).mode = .between := by
    decide +kernel
  have hblank : ∀ comparison ∈ comparisons, ∀ other ∈ comparison.other,
      other.toList.head? = some ' ' := by
    decide +kernel
  have hbetween : ∀ comparison ∈ comparisons, ∀ other ∈ comparison.other,
      (start.run other.toList).mode = .between := by
    decide +kernel
  intro comparison hmem
  exact ⟨hcolumn comparison hmem, hblank comparison hmem,
    hbetween comparison hmem⟩

theorem Comparison.Separates.admits {comparison : Comparison}
    (hseparates : comparison.Separates) (query : String) :
    Admits start (comparison.pieces query) ↔ Clean query := by
  obtain ⟨table, column, other⟩ := comparison
  have hcolumn := hseparates.column_between
  rw [← clean_like query, Comparison.pieces, Admits, Admits, Admits]
  cases other with
  | none =>
      rw [admits_quoted_text (by decide)]
      simp only [hcolumn, Admits, true_and, and_true]
  | some other =>
      have hbetween := hseparates.other_between other rfl
      rw [admits_quoted_text (hseparates.other_blank other rfl),
        admits_quoted_text (by decide)]
      simp only [hcolumn, hbetween, Admits, true_and, and_true, and_self]

theorem Comparison.Separates.spaced {comparison : Comparison}
    (hseparates : comparison.Separates) (query : String) :
    Spaced (comparison.pieces query) := by
  obtain ⟨table, column, other⟩ := comparison
  have hlimit : Spaced [.quoted (like query), .text " LIMIT 10"] :=
    ⟨⟨_, _, rfl, by decide⟩, trivial⟩
  cases other with
  | none => exact hlimit
  | some other =>
      exact ⟨⟨_, _, rfl, hseparates.other_blank other rfl⟩, hlimit⟩

theorem Comparison.sameShape (comparison : Comparison)
    (first second : String) :
    SameShape (comparison.pieces first) (comparison.pieces second) := by
  obtain ⟨table, column, other⟩ := comparison
  have hlimit : SameShape [.text " LIMIT 10"] [.text " LIMIT 10"] :=
    .text _ .nil
  cases other with
  | none => exact .text _ (.text _ (.text _ (.quoted _ _ hlimit)))
  | some other =>
      exact .text _ (.text _ (.text _ (.quoted _ _
        (.text _ (.quoted _ _ hlimit)))))

/-- Every statement of a search quotes its query exactly when it is clean. -/
theorem quotes_of_mem_search {query : String} {statement : List Piece}
    (hstatement : statement ∈ search query) :
    Quotes start statement ↔ Clean query := by
  obtain ⟨comparison, hmem, rfl⟩ := exists_of_mem_search hstatement
  have hseparates := separates_of_mem comparison hmem
  rw [quotes_iff_admits (hseparates.spaced query), hseparates.admits]

theorem forall_quotes_iff (query : String) :
    (∀ statement ∈ search query, Quotes start statement) ↔ Clean query := by
  constructor
  · intro hquotes
    by_cases hempty : query = ""
    · rw [hempty]
      decide
    · have hmem : (comparisons.head (by decide)).pieces query ∈
          search query := by
        rw [search_eq hempty]
        exact List.mem_map_of_mem (List.head_mem _)
      exact (quotes_of_mem_search hmem).mp (hquotes _ hmem)
  · intro hclean statement hmem
    exact (quotes_of_mem_search hmem).mpr hclean

/-- The statements of two searches differ in contents only exactly when both
queries are clean. -/
theorem searchesDifferInContents_iff (first second : String) :
    SearchesDifferInContents first second ↔ Clean first ∧ Clean second := by
  constructor
  · intro hdiffer
    exact ⟨(forall_quotes_iff first).mp hdiffer.first_quotes,
      (forall_quotes_iff second).mp hdiffer.second_quotes⟩
  · rintro ⟨hfirst, hsecond⟩
    refine ⟨?_, (forall_quotes_iff first).mpr hfirst,
      (forall_quotes_iff second).mpr hsecond⟩
    intro pair hpair
    obtain ⟨comparison, hmem, rfl⟩ := exists_of_mem_zip_search hpair
    have hseparates := separates_of_mem comparison hmem
    have hdiffer := differInContents_iff (comparison.sameShape first second)
      (hseparates.spaced first) (hseparates.spaced second)
    rw [hseparates.admits, hseparates.admits] at hdiffer
    exact (hdiffer.mpr ⟨hfirst, hsecond⟩).structure_eq

/-! ## Exchange histories -/

theorem head?_append_of_blank {text : String}
    (hblank : text.toList.head? = some ' ') (rest : String) :
    (text ++ rest).toList.head? = some ' ' := by
  rw [String.toList_append, List.head?_append, hblank]
  rfl

/-- Texts, the first of which begins with a blank. -/
def Trailing (texts : List Piece) : Prop :=
  ∃ text rest, texts = .text text :: rest ∧ text.toList.head? = some ' ' ∧
    ∀ piece ∈ rest, ∃ text, piece = .text text

/-- A history is its literal between texts. -/
theorem exists_getExchangeHistory_eq (fromTime toTime : String) :
    ∃ texts, Trailing texts ∧ ∀ exchange,
      getExchangeHistory exchange fromTime toTime =
        .text "SELECT * FROM exchange_metrics_history" :: .text " WHERE " ::
          .text "exchange_name = " :: .quoted exchange :: texts := by
  have hsorted : Trailing [.text " ORDER BY snapshot_time ASC"] :=
    ⟨_, _, rfl, by decide, List.forall_mem_nil _⟩
  have hbounded {text : String} (hblank : text.toList.head? = some ' ') :
      Trailing [.text text, .text " ORDER BY snapshot_time ASC"] :=
    ⟨_, _, rfl, hblank, List.forall_mem_singleton.mpr ⟨_, rfl⟩⟩
  have heq (texts : List Piece) (exchange : String) :
      getByCondition "exchange_metrics_history"
          (.text "exchange_name = " :: .quoted exchange :: texts) =
        .text "SELECT * FROM exchange_metrics_history" :: .text " WHERE " ::
          .text "exchange_name = " :: .quoted exchange :: texts :=
    getByCondition_text (by decide) _
  simp only [getExchangeHistory]
  split_ifs with hboth hfrom hto
  · refine ⟨_, hbounded ?_, heq _⟩
    rw [String.append_assoc, String.append_assoc]
    exact head?_append_of_blank (by decide) _
  · exact ⟨_, hbounded (head?_append_of_blank (by decide) _), heq _⟩
  · exact ⟨_, hbounded (head?_append_of_blank (by decide) _), heq _⟩
  · exact ⟨_, hsorted, heq _⟩

/-- The statements of two exchange histories differ in contents only exactly
when both names are clean. -/
theorem getExchangeHistory_differInContents_iff
    (first second fromTime toTime : String) :
    DifferInContents (getExchangeHistory first fromTime toTime)
        (getExchangeHistory second fromTime toTime) ↔
      Clean first ∧ Clean second := by
  obtain ⟨texts, ⟨text, rest, rfl, hblank, htexts⟩, heq⟩ :=
    exists_getExchangeHistory_eq fromTime toTime
  have hspaced (exchange : String) : Spaced
      (getExchangeHistory exchange fromTime toTime) := by
    have hrest : Spaced rest := spaced_texts htexts
    rw [heq]
    exact ⟨⟨_, _, rfl, hblank⟩, hrest⟩
  have hshape : SameShape (getExchangeHistory first fromTime toTime)
      (getExchangeHistory second fromTime toTime) := by
    rw [heq, heq]
    exact .text _ (.text _ (.text _ (.quoted _ _ (sameShape_refl _))))
  have hadmits (exchange : String) :
      Admits start (getExchangeHistory exchange fromTime toTime) ↔
        Clean exchange := by
    have hbetween : (((start.run
        "SELECT * FROM exchange_metrics_history".toList).run
          " WHERE ".toList).run "exchange_name = ".toList).mode = .between := by
      decide +kernel
    rw [heq, Admits, Admits, Admits, admits_quoted_text hblank]
    simp only [hbetween, admits_texts htexts, true_and, and_true]
  rw [differInContents_iff hshape (hspaced first) (hspaced second), hadmits,
    hadmits]

/-! ## Audits -/

/-- The statement of `getAudit` before the clauses with its literals. -/
def auditHead (fromTime toTime : String) : List Piece :=
  .text "SELECT * FROM feed_events" :: .text " WHERE " ::
    auditTimes fromTime toTime

/-- The texts of the times leave no literal, identifier or comment open. -/
def Outside (fromTime toTime : String) : Prop :=
  ((start.run (compose (auditHead fromTime toTime))).step ' ').mode = .between

/-- Two requests for the same times of which the statements of `getAudit` differ
in contents only. -/
structure AuditSafe (fromTime toTime actor action otherActor otherAction :
    String) : Prop where
  actor_given : actor = "" ↔ otherActor = ""
  action_given : action = "" ↔ otherAction = ""
  actor_clean : Clean actor
  action_clean : Clean action
  otherActor_clean : Clean otherActor
  otherAction_clean : Clean otherAction
  outside : actor ≠ "" ∨ action ≠ "" → Outside fromTime toTime

theorem getAudit_eq (fromTime toTime actor action : String) :
    getAudit fromTime toTime actor action =
      auditHead fromTime toTime ++ auditClauses actor action := by
  rw [getAudit, auditTimes, List.cons_append, List.cons_append,
    getByCondition_text (by decide)]
  rfl

theorem auditHead_texts (fromTime toTime : String) :
    ∀ piece ∈ auditHead fromTime toTime, ∃ text, piece = .text text := by
  rw [auditHead, auditTimes]
  split_ifs <;> simp

theorem spaced_auditClauses (actor action : String) :
    Spaced (auditClauses actor action) := by
  rw [auditClauses]
  split_ifs
  · exact ⟨⟨_, _, rfl, by decide⟩, ⟨_, _, rfl, by decide⟩, trivial⟩
  · exact ⟨⟨_, _, rfl, by decide⟩, trivial⟩
  · exact ⟨⟨_, _, rfl, by decide⟩, trivial⟩
  · trivial

theorem sameShape_auditClauses {actor action otherActor otherAction : String}
    (hactor : actor = "" ↔ otherActor = "")
    (haction : action = "" ↔ otherAction = "") :
    SameShape (auditClauses actor action)
      (auditClauses otherActor otherAction) := by
  have hsorted : SameShape [.text " ORDER BY occurred_at DESC LIMIT 200"]
      [.text " ORDER BY occurred_at DESC LIMIT 200"] := .text _ .nil
  simp only [auditClauses, ne_eq, hactor, haction]
  split_ifs
  · exact hsorted
  · exact .text _ (.quoted _ _ hsorted)
  · exact .text _ (.quoted _ _ hsorted)
  · exact .text _ (.quoted _ _ (.text _ (.quoted _ _ hsorted)))

/-- A quoted string after a plain text that begins with a blank. -/
theorem admits_blank_quoted {opening closing : String} {body : List Char}
    (hopening : opening.toList = ' ' :: body)
    (hplain : ∀ character ∈ body, IsPlain character)
    (hbetween : (start.run opening.toList).mode = .between)
    (hblank : closing.toList.head? = some ' ') (state : State)
    (content : String) (pieces : List Piece) :
    Admits state
        (.text opening :: .quoted content :: .text closing :: pieces) ↔
      (state.step ' ').mode = .between ∧ Clean content ∧
        Admits (start.run closing.toList) pieces := by
  rw [hopening] at hbetween
  rw [Admits, admits_quoted_text hblank, hopening,
    mode_run_blank_iff hplain hbetween]

theorem admits_auditClauses (state : State) (actor action : String) :
    Admits state (auditClauses actor action) ↔
      (actor ≠ "" ∨ action ≠ "" → (state.step ' ').mode = .between) ∧
        Clean actor ∧ Clean action := by
  have hempty : Clean "" := by decide
  have hactorText : " AND actor_id LIKE ".toList =
      ' ' :: "AND actor_id LIKE ".toList := by decide +kernel
  have hactionText : " AND action_type = ".toList =
      ' ' :: "AND action_type = ".toList := by decide +kernel
  have hactorPlain : ∀ character ∈ "AND actor_id LIKE ".toList,
      IsPlain character := forall_isPlain (by decide +kernel)
  have hactionPlain : ∀ character ∈ "AND action_type = ".toList,
      IsPlain character := forall_isPlain (by decide +kernel)
  have hactorBetween :
      (start.run " AND actor_id LIKE ".toList).mode = .between := by
    decide +kernel
  have hactionBetween :
      (start.run " AND action_type = ".toList).mode = .between := by
    decide +kernel
  rw [auditClauses]
  by_cases hactor : actor = ""
  · subst hactor
    by_cases haction : action = ""
    · subst haction
      have hgiven : ¬("" ≠ "" ∨ "" ≠ "") := by decide
      exact iff_of_true trivial
        ⟨fun hsome => absurd hsome hgiven, hempty, hempty⟩
    · simp only [ne_eq, not_true_eq_false, if_false, haction,
        not_false_eq_true, if_true, List.nil_append, List.cons_append]
      rw [admits_blank_quoted hactionText hactionPlain hactionBetween
        (by decide)]
      simp only [Admits, hempty, or_true, true_imp_iff, true_and, and_true]
  · by_cases haction : action = ""
    · subst haction
      simp only [ne_eq, not_true_eq_false, if_false, hactor,
        not_false_eq_true, if_true, List.nil_append, List.cons_append]
      rw [admits_blank_quoted hactorText hactorPlain hactorBetween
        (by decide), clean_like]
      simp only [Admits, hempty, or_false, true_imp_iff, and_true]
    · simp only [ne_eq, haction, hactor,
        not_false_eq_true, if_true, List.nil_append, List.cons_append]
      rw [admits_blank_quoted hactorText hactorPlain hactorBetween
        (by decide), clean_like, admits_quoted_text (by decide)]
      simp only [Admits, hactionBetween, or_self, true_imp_iff, true_and,
        and_true]

theorem admits_getAudit (fromTime toTime actor action : String) :
    Admits start (getAudit fromTime toTime actor action) ↔
      (actor ≠ "" ∨ action ≠ "" → Outside fromTime toTime) ∧
        Clean actor ∧ Clean action := by
  rw [getAudit_eq, admits_append (auditHead_texts fromTime toTime),
    admits_auditClauses]
  rfl

/-! ### Given parameters -/

/-- A string that stands for one that is given or not. -/
def canonical (given : Bool) : String := if given then "x" else ""

theorem canonical_eq (text : String) :
    text = "" ↔ canonical (decide (text ≠ "")) = "" := by
  by_cases hempty : text = "" <;> simp [hempty, canonical]

theorem clean_canonical (given : Bool) : Clean (canonical given) := by
  cases given <;> decide

theorem canonical_injective (actor action otherActor otherAction : Bool)
    (hskeleton : skeleton (lex (compose (auditClauses (canonical actor)
        (canonical action)))) =
      skeleton (lex (compose (auditClauses (canonical otherActor)
        (canonical otherAction))))) :
    actor = otherActor ∧ action = otherAction := by
  revert actor action otherActor otherAction
  decide +kernel

/-- Clean parameters affect the tokens only by whether they are given. -/
theorem skeleton_auditClauses {actor action : String} (hactor : Clean actor)
    (haction : Clean action) :
    skeleton (lex (compose (auditClauses actor action))) =
      skeleton (lex (compose (auditClauses (canonical (decide (actor ≠ "")))
        (canonical (decide (action ≠ "")))))) := by
  have hadmits {left right : String} (hleft : Clean left)
      (hright : Clean right) : Admits start (auditClauses left right) :=
    (admits_auditClauses start left right).mpr ⟨fun _ => rfl, hleft, hright⟩
  exact skeleton_eq_of_sameShape
    (sameShape_auditClauses (canonical_eq actor) (canonical_eq action))
    (spaced_auditClauses _ _) (spaced_auditClauses _ _)
    (hadmits hactor haction)
    (hadmits (clean_canonical _) (clean_canonical _)) ⟨rfl, Or.inl rfl⟩

theorem exists_compose_auditClauses (actor action : String) :
    ∃ body, compose (auditClauses actor action) = ' ' :: body := by
  rw [auditClauses]
  split_ifs <;> exact ⟨_, rfl⟩

/-- The clauses add their own tokens to those of the times. -/
theorem skeleton_getAudit {fromTime toTime : String}
    (houtside : Outside fromTime toTime) (actor action : String) :
    skeleton (lex (compose (getAudit fromTime toTime actor action))) =
      skeleton ((start.run (compose (auditHead fromTime toTime))).step
        ' ').tokens ++
        skeleton (lex (compose (auditClauses actor action))) := by
  obtain ⟨body, hbody⟩ := exists_compose_auditClauses actor action
  rw [getAudit_eq, compose_append, hbody, lex, run_append,
    finish_run_blank houtside, skeleton_append]

/-- The tokens of two requests for the same times tell which parameters are
given, if any is. -/
theorem given_of_skeleton_eq
    {fromTime toTime actor action otherActor otherAction : String}
    (houtside : Outside fromTime toTime) (hactor : Clean actor)
    (haction : Clean action) (hotherActor : Clean otherActor)
    (hotherAction : Clean otherAction)
    (hskeleton :
      skeleton (lex (compose (getAudit fromTime toTime actor action))) =
        skeleton (lex (compose
          (getAudit fromTime toTime otherActor otherAction)))) :
    (actor = "" ↔ otherActor = "") ∧ (action = "" ↔ otherAction = "") := by
  rw [skeleton_getAudit houtside, skeleton_getAudit houtside,
    List.append_cancel_left_eq, skeleton_auditClauses hactor haction,
    skeleton_auditClauses hotherActor hotherAction] at hskeleton
  obtain ⟨hactors, hactions⟩ := canonical_injective _ _ _ _ hskeleton
  rw [decide_eq_decide] at hactors hactions
  exact ⟨not_iff_not.mp hactors, not_iff_not.mp hactions⟩

theorem spaced_getAudit (fromTime toTime actor action : String) :
    Spaced (getAudit fromTime toTime actor action) := by
  rw [getAudit_eq]
  exact spaced_append (auditHead_texts fromTime toTime)
    (spaced_auditClauses actor action)

/-- The statements of two requests for the same times differ in contents only
exactly when they are safe. -/
theorem getAudit_differInContents_iff
    (fromTime toTime actor action otherActor otherAction : String) :
    DifferInContents (getAudit fromTime toTime actor action)
        (getAudit fromTime toTime otherActor otherAction) ↔
      AuditSafe fromTime toTime actor action otherActor otherAction := by
  constructor
  · intro hdiffer
    have hfirst := hdiffer.first_quotes
    have hsecond := hdiffer.second_quotes
    rw [quotes_iff_admits (spaced_getAudit _ _ _ _), admits_getAudit]
      at hfirst hsecond
    obtain ⟨hfirstOutside, hactor, haction⟩ := hfirst
    obtain ⟨hsecondOutside, hotherActor, hotherAction⟩ := hsecond
    have hgiven : (actor = "" ↔ otherActor = "") ∧
        (action = "" ↔ otherAction = "") := by
      by_cases houtside : Outside fromTime toTime
      · exact given_of_skeleton_eq houtside hactor haction hotherActor
          hotherAction hdiffer.structure_eq
      · -- Where no literal can begin, neither request has a parameter.
        have hfirst := mt hfirstOutside houtside
        have hsecond := mt hsecondOutside houtside
        simp only [ne_eq, not_or, not_not] at hfirst hsecond
        exact ⟨iff_of_true hfirst.1 hsecond.1, iff_of_true hfirst.2 hsecond.2⟩
    exact ⟨hgiven.1, hgiven.2, hactor, haction, hotherActor, hotherAction,
      hfirstOutside⟩
  · intro hsafe
    have hshape : SameShape (getAudit fromTime toTime actor action)
        (getAudit fromTime toTime otherActor otherAction) := by
      rw [getAudit_eq, getAudit_eq]
      exact sameShape_append _
        (sameShape_auditClauses hsafe.actor_given hsafe.action_given)
    have hother : otherActor ≠ "" ∨ otherAction ≠ "" →
        Outside fromTime toTime := by
      rw [ne_eq, ne_eq, ← hsafe.actor_given, ← hsafe.action_given]
      exact hsafe.outside
    rw [differInContents_iff hshape (spaced_getAudit _ _ _ _)
      (spaced_getAudit _ _ _ _), admits_getAudit, admits_getAudit]
    exact ⟨⟨hsafe.outside, hsafe.actor_clean, hsafe.action_clean⟩,
      hother, hsafe.otherActor_clean, hsafe.otherAction_clean⟩

/-! ## All composed statements -/

end Datafeed.Api
