import Datafeed.Core.Machine
import Datafeed.Metrics.Monitors
import Mathlib.Algebra.BigOperators.Group.Finset.Basic
import Mathlib.Data.List.Perm.Subperm

/-!
# Connections per client

`SessionMonitor` counts connections and disconnections of all clients together,
and keeps a map of the connections of each client with an id.  The map is only
ever added to: `onClientDisconnected` ignores the id that it is given.  Beside
the monitor the model keeps what has really been called since the last reset.
-/

namespace Datafeed.SessionMonitor

/-! ## Statistics -/

def getConnectionsPerClient (monitor : SessionMonitor) :
    AList fun _ : String => UInt64 :=
  monitor.connectionsPerClient

structure SessionStats where
  activeClients : UInt64 := 0
  activeSessions : UInt64 := 0
  activeSubscriptions : UInt64 := 0
  totalConnections : UInt64 := 0
  totalDisconnections : UInt64 := 0
  authenticationFailures : UInt64 := 0
  reconnectCount : UInt64 := 0
  averageSessionDurationMs : ℚ := 0
  longestSessionDurationMs : ℚ := 0
  connectionsPerClient : UInt64 := 0

def getStats (monitor : SessionMonitor) : SessionStats :=
  let totalClientConnections : UInt64 :=
    monitor.connectionsPerClient.entries.foldl
      (fun total pair => total + pair.2) 0
  let numClients := UInt64.ofNat monitor.connectionsPerClient.entries.length
  { activeClients := monitor.activeClients
    activeSessions := monitor.activeSessions
    activeSubscriptions := monitor.activeSubscriptions
    totalConnections := monitor.totalConnections
    totalDisconnections := monitor.totalDisconnections
    authenticationFailures := monitor.authenticationFailures
    reconnectCount := monitor.reconnectCount
    averageSessionDurationMs := monitor.averageSessionDurationMs
    longestSessionDurationMs := monitor.longestSessionDurationMs
    connectionsPerClient :=
      if numClients > 0 then totalClientConnections / numClients else 0 }

/-! ## What has been called -/

/-- The monitor, and the ids given to the two operations since the last reset. -/
structure Counted where
  monitor : SessionMonitor := {}
  connected : List String := []
  disconnected : List String := []

def Counted.apply (state : Counted) (operation : Operation) : Counted :=
  let monitor := state.monitor.apply operation
  match operation with
  | .onClientConnected clientId =>
      { state with monitor, connected := clientId :: state.connected }
  | .onClientDisconnected clientId =>
      { state with monitor, disconnected := clientId :: state.disconnected }
  | .reset => { monitor }
  | _ => { state with monitor }

/-- The public interface, one call after the other. -/
def counted : Machine Counted Operation where
  initial := {}
  step state operation := some (state.apply operation)

namespace Counted

/-- How often a client is connected. -/
def connections (state : Counted) (clientId : String) : ℕ :=
  state.connected.count clientId - state.disconnected.count clientId

/-- The clients with an id that are connected. -/
def current (state : Counted) : Finset String :=
  state.connected.toFinset.filter fun clientId =>
    clientId ≠ "" ∧ 0 < state.connections clientId

/-- What `getConnectionsPerClient` has for a client, zero for one without an
entry. -/
def entry (state : Counted) (clientId : String) : UInt64 :=
  ((getConnectionsPerClient state.monitor).lookup clientId).getD 0

/-- The connections of the clients that are connected, divided by their number. -/
def average (state : Counted) : UInt64 :=
  if UInt64.ofNat state.current.card > 0 then
    UInt64.ofNat (∑ clientId ∈ state.current, state.connections clientId) /
      UInt64.ofNat state.current.card
  else 0

/-- The counters agree with the calls, in the arithmetic of their type. -/
structure Right (state : Counted) : Prop where
  activeClients : (getStats state.monitor).activeClients =
    (getStats state.monitor).totalConnections -
      (getStats state.monitor).totalDisconnections
  entries : ∀ clientId, clientId ≠ "" → state.entry clientId =
    UInt64.ofNat (state.connected.count clientId) -
      UInt64.ofNat (state.disconnected.count clientId)
  average :
    (getStats state.monitor).connectionsPerClient = state.average

/-! ## The map -/

/-- The counters of all calls, and the map, which holds the connections of every
client with an id, disconnected or not. -/
structure Tallied (state : Counted) : Prop where
  connections : state.monitor.totalConnections =
    UInt64.ofNat state.connected.length
  disconnections : state.monitor.totalDisconnections =
    UInt64.ofNat state.disconnected.length
  entry : ∀ clientId, clientId ≠ "" →
    state.entry clientId = UInt64.ofNat (state.connected.count clientId)
  mem : ∀ clientId, clientId ∈ state.monitor.connectionsPerClient ↔
    clientId ≠ "" ∧ clientId ∈ state.connected

theorem tallied_initial : Tallied counted.initial where
  connections := rfl
  disconnections := rfl
  entry clientId _ := by
    rw [Counted.entry, getConnectionsPerClient]
    exact congrArg (Option.getD · 0) (AList.lookup_empty clientId)
  mem clientId :=
    iff_of_false (AList.notMem_empty clientId) fun h => List.not_mem_nil h.2

theorem Tallied.connect {state : Counted} (htallied : Tallied state)
    (clientId : String) : Tallied (state.apply (.onClientConnected clientId)) := by
  refine ⟨?_, htallied.disconnections, ?_, ?_⟩
  · rw [Counted.apply, List.length_cons, UInt64.ofNat_add,
      ← htallied.connections]
    rfl
  · intro other hother
    have hbefore := htallied.entry other hother
    simp only [Counted.entry, getConnectionsPerClient, Counted.apply,
      SessionMonitor.apply, onClientConnected] at hbefore ⊢
    by_cases hsame : other = clientId
    · subst hsame
      rw [if_neg hother, AList.lookup_insert, Option.getD_some, hbefore,
        List.count_cons_self, UInt64.ofNat_add]
      rfl
    · rw [List.count_cons_of_ne (Ne.symm hsame)]
      split
      · exact hbefore
      · rw [AList.lookup_insert_ne hsame]
        exact hbefore
  · intro other
    have hbefore := htallied.mem other
    simp only [Counted.apply, SessionMonitor.apply, onClientConnected,
      List.mem_cons]
    split
    · next hempty =>
        rw [hbefore, hempty]
        exact and_congr_right fun hother => (or_iff_right hother).symm
    · next hnamed =>
        rw [AList.mem_insert, hbefore]
        by_cases hsame : other = clientId
        · subst hsame
          exact iff_of_true (Or.inl rfl) ⟨hnamed, Or.inl rfl⟩
        · simp [hsame]

theorem Tallied.apply {state : Counted} (htallied : Tallied state)
    (operation : Operation) : Tallied (state.apply operation) := by
  cases operation with
  | onClientConnected clientId => exact htallied.connect clientId
  | onClientDisconnected clientId =>
      refine ⟨htallied.connections, ?_, htallied.entry, htallied.mem⟩
      rw [Counted.apply, List.length_cons, UInt64.ofNat_add,
        ← htallied.disconnections]
      rfl
  | reset => exact tallied_initial
  | _ =>
      exact ⟨htallied.connections, htallied.disconnections, htallied.entry,
        htallied.mem⟩

/-! ## The average -/

theorem foldl_entries {entries : List (Sigma fun _ : String => UInt64)}
    {number : String → ℕ} (start : ℕ)
    (hentries : ∀ pair ∈ entries, pair.2 = UInt64.ofNat (number pair.1)) :
    entries.foldl (fun total pair => total + pair.2) (UInt64.ofNat start) =
      UInt64.ofNat (start + (entries.keys.map number).sum) := by
  induction entries generalizing start with
  | nil => rfl
  | cons pair entries ih =>
      have hpair := hentries pair List.mem_cons_self
      rw [List.foldl_cons, hpair, ← UInt64.ofNat_add,
        ih _ fun other hother => hentries other (List.mem_cons_of_mem _ hother),
        List.keys_cons, List.map_cons, List.sum_cons, Nat.add_assoc]

/-- Only clients without an id have disconnected. -/
def OnlyUnnamed (state : Counted) : Prop :=
  ∀ clientId, clientId ≠ "" → clientId ∉ state.disconnected

theorem OnlyUnnamed.connections_eq {state : Counted}
    (hunnamed : OnlyUnnamed state) {clientId : String}
    (hnamed : clientId ≠ "") :
    state.connections clientId = state.connected.count clientId := by
  rw [connections, List.count_eq_zero.mpr (hunnamed clientId hnamed),
    Nat.sub_zero]

/-- The clients of the map are the connected ones as long as none of them has
disconnected. -/
theorem Tallied.current_eq {state : Counted} (htallied : Tallied state)
    (hunnamed : OnlyUnnamed state) :
    state.monitor.connectionsPerClient.keys.toFinset = state.current := by
  ext clientId
  rw [List.mem_toFinset, ← AList.mem_keys, htallied.mem, current,
    Finset.mem_filter, List.mem_toFinset]
  constructor
  · rintro ⟨hnamed, hmem⟩
    rw [hunnamed.connections_eq hnamed]
    exact ⟨hmem, hnamed, List.count_pos_iff.mpr hmem⟩
  · rintro ⟨hmem, hnamed, -⟩
    exact ⟨hnamed, hmem⟩

theorem Tallied.average {state : Counted} (htallied : Tallied state)
    (hunnamed : OnlyUnnamed state) :
    (getStats state.monitor).connectionsPerClient = state.average := by
  have hcurrent := htallied.current_eq hunnamed
  have hnodup := state.monitor.connectionsPerClient.keys_nodup
  have hlength : state.monitor.connectionsPerClient.entries.length =
      state.current.card := by
    rw [← hcurrent, List.toFinset_card_of_nodup hnodup]
    exact (List.length_map _).symm
  have hentries : ∀ pair ∈ state.monitor.connectionsPerClient.entries,
      pair.2 = UInt64.ofNat (state.connections pair.1) := by
    rintro ⟨clientId, number⟩ hpair
    have hlookup := AList.mem_lookup_iff.mpr hpair
    have hmem : clientId ∈ state.monitor.connectionsPerClient :=
      AList.lookup_isSome.mp (Option.isSome_of_mem hlookup)
    have hnamed := ((htallied.mem clientId).mp hmem).1
    rw [hunnamed.connections_eq hnamed, ← htallied.entry clientId hnamed,
      Counted.entry, getConnectionsPerClient, Option.mem_def.mp hlookup,
      Option.getD_some]
  have hsum : state.monitor.connectionsPerClient.entries.foldl
      (fun total pair => total + pair.2) 0 =
        UInt64.ofNat (∑ clientId ∈ state.current, state.connections clientId) := by
    rw [← hcurrent, List.sum_toFinset _ hnodup, ← Nat.zero_add (List.sum _)]
    exact foldl_entries 0 hentries
  simp only [getStats, hsum, hlength, Counted.average]

/-! ## Runs -/

/-- A client that disconnects has no id, and finds a client counted. -/
def Kept (state : Counted) (operation : Operation) : Prop :=
  ∀ clientId, operation = .onClientDisconnected clientId →
    clientId = "" ∧ state.monitor.activeClients ≠ 0

/-- A client that disconnects is connected. -/
def Matched (state : Counted) (operation : Operation) : Prop :=
  ∀ clientId, operation = .onClientDisconnected clientId →
    state.disconnected.count clientId < state.connected.count clientId

/-- What the monitor of a run along `Kept` satisfies. -/
structure Exact (state : Counted) : Prop extends Tallied state where
  onlyUnnamed : OnlyUnnamed state
  activeClients : state.monitor.activeClients =
    state.monitor.totalConnections - state.monitor.totalDisconnections

theorem Exact.right {state : Counted} (hexact : Exact state) : Right state where
  activeClients := hexact.activeClients
  entries clientId hnamed := by
    rw [hexact.entry clientId hnamed,
      List.count_eq_zero.mpr (hexact.onlyUnnamed clientId hnamed)]
    exact (UInt64.sub_zero _).symm
  average := hexact.toTallied.average hexact.onlyUnnamed

theorem exact_initial : Exact counted.initial where
  toTallied := tallied_initial
  onlyUnnamed _ _ := List.not_mem_nil
  activeClients := rfl

theorem Exact.apply {state : Counted} (hexact : Exact state)
    {operation : Operation} (hkept : Kept state operation) :
    Exact (state.apply operation) := by
  have htallied := hexact.toTallied.apply operation
  have hactive := hexact.activeClients
  cases operation with
  | onClientConnected clientId =>
      refine ⟨htallied, hexact.onlyUnnamed, ?_⟩
      simp only [Counted.apply, SessionMonitor.apply, onClientConnected, hactive]
      grind
  | onClientDisconnected clientId =>
      obtain ⟨rfl, hcounted⟩ := hkept clientId rfl
      refine ⟨htallied, fun other hnamed => ?_, ?_⟩
      · exact List.not_mem_cons_of_ne_of_not_mem hnamed
          (hexact.onlyUnnamed other hnamed)
      · have hdecrement : decrement state.monitor.activeClients =
            state.monitor.activeClients - 1 :=
          if_pos (UInt64.pos_iff_ne_zero.mpr hcounted)
        simp only [Counted.apply, SessionMonitor.apply, onClientDisconnected,
          hdecrement]
        rw [hactive]
        grind
  | reset => exact exact_initial
  | _ => exact ⟨htallied, hexact.onlyUnnamed, hactive⟩

/-- A step that breaks `Kept` breaks the counters. -/
theorem kept_of_right {state : Counted} {operation : Operation}
    (hright : Right state) (hnext : Right (state.apply operation)) :
    Kept state operation := by
  rintro clientId rfl
  constructor
  · by_contra hnamed
    have hbefore := hright.entries clientId hnamed
    have hafter := hnext.entries clientId hnamed
    have hentry : (state.apply (.onClientDisconnected clientId)).entry clientId =
        state.entry clientId := rfl
    rw [hentry, hbefore] at hafter
    simp only [Counted.apply, List.count_cons_self, UInt64.ofNat_add] at hafter
    grind
  · intro hzero
    have hbefore := hright.activeClients
    have hafter := hnext.activeClients
    simp only [getStats, Counted.apply, SessionMonitor.apply,
      onClientDisconnected, decrement, hzero] at hbefore hafter
    grind

/-- The counters are right throughout a run exactly if no client with an id
disconnects in it and no client does while none is counted. -/
theorem throughout_right_iff (operations : List Operation) :
    counted.Throughout Right counted.initial operations ↔
      counted.Along Kept counted.initial operations := by
  constructor
  · have hany : counted.Along (fun _ _ => True) counted.initial operations :=
      Machine.along_of_forall (fun _ _ _ => trivial) _
    refine Machine.along_of_throughout (fun state operation hright _ hnext => ?_)
      hany
    exact kept_of_right hright (hnext _ rfl)
  · refine Machine.throughout_of_along ?_ (fun _ => Exact.right) exact_initial
    rintro state operation next hexact hkept ⟨⟩
    exact hexact.apply hkept

/-! ## Clients that are connected -/

/-- What a client has disconnected it has connected. -/
def Paired (state : Counted) : Prop :=
  ∀ clientId, state.disconnected.count clientId ≤
    state.connected.count clientId

theorem Paired.apply {state : Counted} (hpaired : Paired state)
    {operation : Operation} (hmatched : Matched state operation) :
    Paired (state.apply operation) := by
  intro other
  have hbefore := hpaired other
  cases operation with
  | onClientConnected clientId =>
      exact hbefore.trans ((List.sublist_cons_self _ _).count_le other)
  | onClientDisconnected clientId =>
      have hless := hmatched clientId rfl
      simp only [Counted.apply, List.count_cons, beq_iff_eq]
      split
      · next hsame =>
          rw [hsame] at hless
          exact hless
      · exact hbefore
  | reset => exact le_rfl
  | _ => exact hbefore

/-- A client that is to disconnect is one more than have disconnected. -/
theorem Paired.length_lt {state : Counted} (hpaired : Paired state)
    {clientId : String} (hless : state.disconnected.count clientId <
      state.connected.count clientId) :
    state.disconnected.length < state.connected.length := by
  have hcounts : (clientId :: state.disconnected).Subperm state.connected := by
    refine List.subperm_ext_iff.mpr fun other _ => ?_
    rw [List.count_cons]
    split
    · next hsame =>
        rw [← beq_iff_eq.mp hsame]
        exact hless
    · exact hpaired other
  exact hcounts.length_le

/-- Below the range of the counters a client that is connected is counted. -/
theorem Exact.activeClients_ne_zero {state : Counted} (hexact : Exact state)
    (hshort : state.connected.length < UInt64.size)
    (hless : state.disconnected.length < state.connected.length) :
    state.monitor.activeClients ≠ 0 := by
  rw [hexact.activeClients, hexact.connections, hexact.disconnections,
    ← UInt64.ofNat_sub hless.le]
  intro hzero
  have hnumber := congrArg UInt64.toNat hzero
  rw [UInt64.toNat_ofNat_of_lt' ((Nat.sub_le _ _).trans_lt hshort)] at hnumber
  exact Nat.sub_ne_zero_of_lt hless hnumber

theorem along_short {operations : List Operation} {state : Counted}
    (hshort : state.connected.length + operations.length < UInt64.size) :
    counted.Along (fun other _ => other.connected.length < UInt64.size) state
      operations := by
  induction operations generalizing state with
  | nil => trivial
  | cons operation operations ih =>
      rw [List.length_cons] at hshort
      refine ⟨by omega, ?_⟩
      rintro next ⟨⟩
      apply ih
      have hlength : (state.apply operation).connected.length ≤
          state.connected.length + 1 := by
        cases operation with
        | reset => exact Nat.zero_le _
        | onClientConnected clientId => exact le_rfl
        | _ => exact Nat.le_succ _
      omega

theorem unnamed_of_along {operations : List Operation} {state : Counted}
    (halong : counted.Along Kept state operations) {clientId : String}
    (hnamed : clientId ≠ "") :
    .onClientDisconnected clientId ∉ operations := by
  induction operations generalizing state with
  | nil => exact List.not_mem_nil
  | cons operation operations ih =>
      refine List.not_mem_cons_of_ne_of_not_mem ?_ (ih (halong.2 _ rfl))
      intro hsame
      exact hnamed (halong.1 clientId hsame.symm).1

/-- In a run whose clients disconnect only while they are connected, no client
disconnects while none is counted. -/
theorem along_kept_iff {operations : List Operation}
    (hmatched : counted.Along Matched counted.initial operations)
    (hshort : operations.length < UInt64.size) :
    counted.Along Kept counted.initial operations ↔
      ∀ clientId, clientId ≠ "" →
        .onClientDisconnected clientId ∉ operations := by
  constructor
  · exact fun halong _ hnamed => unnamed_of_along halong hnamed
  · intro hunnamed
    have halong : counted.Along
        (fun _ operation => ∀ clientId,
          operation = .onClientDisconnected clientId → clientId = "")
        counted.initial operations := by
      refine Machine.along_of_forall ?_ _
      rintro operation hmem - clientId rfl
      by_contra hnamed
      exact hunnamed clientId hnamed hmem
    have hlength : counted.initial.connected.length + operations.length <
        UInt64.size := by
      rw [show counted.initial.connected.length = 0 from rfl, Nat.zero_add]
      exact hshort
    have hkept : ∀ (state : Counted) operation, Exact state ∧ Paired state →
        (Matched state operation ∧
          state.connected.length < UInt64.size) ∧
          (∀ clientId, operation = .onClientDisconnected clientId →
            clientId = "") → Kept state operation := by
      rintro state operation ⟨hexact, hpaired⟩ ⟨⟨hmatch, hfew⟩, hempty⟩ clientId
        hcall
      exact ⟨hempty clientId hcall, hexact.activeClients_ne_zero hfew
        (hpaired.length_lt (hmatch clientId hcall))⟩
    refine Machine.Along.of_invariant ?_ hkept
      ⟨exact_initial, fun _ => le_rfl⟩
      ((hmatched.and (along_short hlength)).and halong)
    rintro state operation next hstate hstep ⟨⟩
    exact ⟨hstate.1.apply (hkept state operation hstate hstep),
      hstate.2.apply hstep.1.1⟩

/-- When the counters of a run are right throughout it: for every run, and for
the runs in which clients disconnect only while they are connected. -/
theorem counters_right_iff (operations : List Operation) :
    (counted.Throughout Right counted.initial operations ↔
      counted.Along Kept counted.initial operations) ∧
    (counted.Along Matched counted.initial operations →
      operations.length < UInt64.size →
        (counted.Throughout Right counted.initial operations ↔
          ∀ clientId, clientId ≠ "" →
            .onClientDisconnected clientId ∉ operations)) :=
  ⟨throughout_right_iff operations, fun hmatched hshort =>
    (throughout_right_iff operations).trans (along_kept_iff hmatched hshort)⟩

/-- A client with an id connects, one without connects and disconnects. -/
theorem counters_right_iff_visitor :
    counted.Throughout Right counted.initial
      [.onClientConnected "dashboard", .onClientConnected "",
        .onClientDisconnected ""] := by
  refine ((counters_right_iff _).2 ?_ (by decide)).mpr ?_
  · refine ⟨by rintro _ ⟨⟩, ?_⟩
    rintro _ ⟨⟩
    refine ⟨by rintro _ ⟨⟩, ?_⟩
    rintro _ ⟨⟩
    refine ⟨?_, fun _ _ => trivial⟩
    rintro _ ⟨⟩
    decide
  · intro clientId hnamed hmem
    simp [hnamed] at hmem

/-- The monitor after one client has come and gone. -/
def visited : Counted :=
  Counted.apply
    (Counted.apply {} (.onClientConnected "dashboard"))
    (.onClientDisconnected "dashboard")

/-- It still has a connection, and is part of the average. -/
theorem visitor_stays_counted :
    counted.run counted.initial
        [.onClientConnected "dashboard", .onClientDisconnected "dashboard"] =
      some visited ∧
    visited.monitor.activeClients = 0 ∧ visited.entry "dashboard" = 1 ∧
    (getStats visited.monitor).connectionsPerClient = 1 ∧
    visited.current = ∅ ∧ ¬ Right visited := by
  have hentry : visited.entry "dashboard" = 1 := by decide
  refine ⟨rfl, by decide, hentry, by decide, by decide, fun hright => ?_⟩
  have hnone := hright.entries "dashboard" (by decide)
  rw [hentry] at hnone
  exact absurd hnone (by decide)

end Counted

end Datafeed.SessionMonitor
