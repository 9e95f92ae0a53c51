import Datafeed.Api.Router

/-!
# The server's routes

The table that the server registers.  Its routes are told apart by their
segments alone, so that their order does not matter.
-/

namespace Datafeed.Routing

/-- The functions that answer requests. -/
inductive Endpoint
  | handleGetStatus
  | getClients
  | getClientById
  | createClient
  | deleteClient
  | handleGetDashboard
  | handleGetLiveMetrics
  | handleGetHistoryMetrics
  | handleGetLivePerformance
  | handleGetHistoryPerformance
  | handleGetLiveThroughput
  | handleGetHistoryThroughput
  | handleGetLiveFeed
  | handleGetHistoryFeed
  | handleGetExchanges
  | handleGetExchange
  | handleGetExchangeHistory
  | handleGetLiveQueues
  | handleGetHistoryQueues
  | handleGetLiveNetwork
  | handleGetHistoryNetwork
  | handleGetLiveDatabase
  | handleGetHistoryDatabase
  | handleGetLiveSystem
  | handleGetHistorySystem
  | handleGetLiveSessions
  | handleGetHistorySessions
  | handleGetAnalytics
  | handleGetTimeline
  | handleGetDependencies
  | handleGetTopology
  | handleGetAlerts
  | handleAcknowledgeAlert
  | handleGetAlertHistory
  | handleGetAudit
  | handleGetConfig
  | handlePutConfig
  | handleGetThresholds
  | handlePutThresholds
  | handleSearch
  | health
  deriving DecidableEq

def routeTable : List (String × String × Endpoint) :=
  [("GET", "/api/v1/feed/status", .handleGetStatus),
   ("GET", "/api/v1/clients", .getClients),
   ("GET", "/api/v1/clients/:id", .getClientById),
   ("POST", "/api/v1/clients", .createClient),
   ("DELETE", "/api/v1/clients/:id", .deleteClient),
   ("GET", "/api/v1/dashboard", .handleGetDashboard),
   ("GET", "/api/v1/metrics/live", .handleGetLiveMetrics),
   ("GET", "/api/v1/metrics/history", .handleGetHistoryMetrics),
   ("GET", "/api/v1/performance/live", .handleGetLivePerformance),
   ("GET", "/api/v1/performance/history", .handleGetHistoryPerformance),
   ("GET", "/api/v1/throughput/live", .handleGetLiveThroughput),
   ("GET", "/api/v1/throughput/history", .handleGetHistoryThroughput),
   ("GET", "/api/v1/feed/live", .handleGetLiveFeed),
   ("GET", "/api/v1/feed/history", .handleGetHistoryFeed),
   ("GET", "/api/v1/exchanges", .handleGetExchanges),
   ("GET", "/api/v1/exchange/:exchange", .handleGetExchange),
   ("GET", "/api/v1/exchange/:exchange/history", .handleGetExchangeHistory),
   ("GET", "/api/v1/queues/live", .handleGetLiveQueues),
   ("GET", "/api/v1/queues/history", .handleGetHistoryQueues),
   ("GET", "/api/v1/network/live", .handleGetLiveNetwork),
   ("GET", "/api/v1/network/history", .handleGetHistoryNetwork),
   ("GET", "/api/v1/database/live", .handleGetLiveDatabase),
   ("GET", "/api/v1/database/history", .handleGetHistoryDatabase),
   ("GET", "/api/v1/system/live", .handleGetLiveSystem),
   ("GET", "/api/v1/system/history", .handleGetHistorySystem),
   ("GET", "/api/v1/sessions/live", .handleGetLiveSessions),
   ("GET", "/api/v1/sessions/history", .handleGetHistorySessions),
   ("GET", "/api/v1/analytics", .handleGetAnalytics),
   ("GET", "/api/v1/timeline", .handleGetTimeline),
   ("GET", "/api/v1/dependencies", .handleGetDependencies),
   ("GET", "/api/v1/topology", .handleGetTopology),
   ("GET", "/api/v1/alerts", .handleGetAlerts),
   ("POST", "/api/v1/alerts/:id/ack", .handleAcknowledgeAlert),
   ("GET", "/api/v1/alerts/history", .handleGetAlertHistory),
   ("GET", "/api/v1/audit", .handleGetAudit),
   ("GET", "/api/v1/config", .handleGetConfig),
   ("PUT", "/api/v1/config", .handlePutConfig),
   ("GET", "/api/v1/thresholds", .handleGetThresholds),
   ("PUT", "/api/v1/thresholds", .handlePutThresholds),
   ("GET", "/api/v1/search", .handleSearch),
   ("GET", "/health", .health)]

section Table

variable {Message Response : Type*}

def registrations (handlers : Endpoint → Handler Message Response) :
    List (Registration Message Response) :=
  routeTable.map fun entry => ⟨entry.1, entry.2.1, handlers entry.2.2⟩

def buildRouter (handlers : Endpoint → Handler Message Response) :
    Option (Router Message Response) :=
  addRoutes (registrations handlers)

end Table

/-! ## Patterns apart -/

/-- The patterns differ in their number of segments, or in two segments
without a parameter. -/
def apart : List (List Char) → List (List Char) → Bool
  | [], [] => false
  | left :: lefts, right :: rights =>
      decide (':' ∉ left ∧ ':' ∉ right ∧ left ≠ right) || apart lefts rights
  | _, _ => true

theorem SegmentsMatch.exists_cons {segment : List Char}
    {patterns path captures : List (List Char)}
    (hmatch : SegmentsMatch patterns (segment :: path) captures) :
    ∃ head tail later, patterns = head :: tail ∧
      (':' ∉ head → head = segment) ∧ SegmentsMatch tail path later := by
  generalize hpath : segment :: path = path' at hmatch
  cases hmatch with
  | nil => cases hpath
  | literal _ hrest =>
      obtain ⟨rfl, rfl⟩ := List.cons.inj hpath
      exact ⟨segment, _, _, rfl, fun _ => rfl, hrest⟩
  | parameter _ _ hrest =>
      obtain ⟨rfl, rfl⟩ := List.cons.inj hpath
      exact ⟨_, _, _, rfl, fun hcolon => absurd (by simp) hcolon, hrest⟩

/-- Two patterns that are apart have no path in common. -/
theorem SegmentsMatch.apart_eq_false
    {left right path leftCaptures rightCaptures : List (List Char)}
    (hleft : SegmentsMatch left path leftCaptures)
    (hright : SegmentsMatch right path rightCaptures) :
    apart left right = false := by
  induction path generalizing left right leftCaptures rightCaptures with
  | nil =>
      cases hleft
      cases hright
      rfl
  | cons segment path ih =>
      obtain ⟨leftHead, lefts, _, rfl, hleftHead, hlefts⟩ := hleft.exists_cons
      obtain ⟨rightHead, rights, _, rfl, hrightHead, hrights⟩ :=
        hright.exists_cons
      rw [apart, ih hlefts hrights, Bool.or_false, decide_eq_false_iff_not]
      rintro ⟨hleftColon, hrightColon, hne⟩
      exact hne ((hleftHead hleftColon).trans (hrightHead hrightColon).symm)

theorem routeTable_apart : (routeTable.map fun entry =>
    (entry.1, segments entry.2.1.toList)).Pairwise fun left right =>
      left.1 = right.1 → apart left.2 right.2 = true := by
  decide +kernel

theorem routeTable_plain : routeTable.all (fun entry =>
    entry.2.1.toList.all fun c => decide (PatternCharacter c)) = true := by
  decide +kernel

section Build

variable {Message Response : Type*}

theorem registrations_plain (handlers : Endpoint → Handler Message Response) :
    ∀ entry ∈ registrations handlers, entry.Plain := by
  intro entry hentry c hc
  obtain ⟨row, hrow, rfl⟩ := List.mem_map.mp hentry
  exact of_decide_eq_true
    (List.all_eq_true.mp (List.all_eq_true.mp routeTable_plain row hrow) c hc)

/-- The routes of a router that registers the table exclude each other. -/
theorem exclusive_of_registrations
    (handlers : Endpoint → Handler Message Response)
    {router : Router Message Response}
    (hrouter : router.routes.map Route.registration = registrations handlers) :
    router.Exclusive := by
  have hrows : (router.routes.map fun route =>
      (route.method, segments route.pattern.toList)) =
        routeTable.map fun entry => (entry.1, segments entry.2.1.toList) := by
    have hmapped := congrArg (List.map fun entry =>
      (entry.method, segments entry.path.toList)) hrouter
    rw [List.map_map, registrations, List.map_map] at hmapped
    exact hmapped
  have hapart := routeTable_apart
  rw [← hrows, List.pairwise_map] at hapart
  refine hapart.imp fun {left right} hpair => ?_
  intro hmethod target leftCaptures rightCaptures hleft hright
  have hdistinct := hpair hmethod
  rw [hleft.apart_eq_false hright] at hdistinct
  cases hdistinct

/-- Any table of patterns becomes a router whose routes are compared segment by
segment, and in the server's table the order of the routes does not matter. -/
theorem router_spec {table : List (Registration Message Response)}
    (htable : ∀ entry ∈ table, entry.Plain)
    (handlers : Endpoint → Handler Message Response) :
    (∃ router, addRoutes table = some router ∧
      router.routes.map Route.registration = table ∧
      ∀ route ∈ router.routes, route.Faithful) ∧
    ∃ router, buildRouter handlers = some router ∧
      router.routes.map Route.registration = registrations handlers ∧
      router.OrderFree := by
  have hempty : ∀ route ∈ (Router.mk [] : Router Message Response).routes,
      route.Faithful := by
    simp
  constructor
  · exact exists_addRoutes htable ⟨[]⟩ hempty
  · obtain ⟨router, hrouter, hroutes, hfaithful⟩ :=
      exists_addRoutes (registrations_plain handlers) ⟨[]⟩ hempty
    exact ⟨router, hrouter, hroutes,
      (exclusive_of_registrations handlers hroutes).orderFree hfaithful⟩

end Build

theorem router_spec_version : ∃ router,
    addRoutes [(⟨"GET", "/feed/v:version/raw.txt", fun _ captures => captures⟩ :
      Registration Unit (List (List Char)))] = some router ∧
    router.routes.map Route.registration =
      [⟨"GET", "/feed/v:version/raw.txt", fun _ captures => captures⟩] ∧
    ∀ route ∈ router.routes, route.Faithful := by
  have hplain : ("/feed/v:version/raw.txt".toList.all fun c =>
      decide (PatternCharacter c)) = true := by
    decide +kernel
  refine (router_spec ?_ fun _ _ captures => captures).1
  rw [List.forall_mem_singleton]
  exact fun c hc => of_decide_eq_true (List.all_eq_true.mp hplain c hc)

end Datafeed.Routing
