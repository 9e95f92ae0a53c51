import Mathlib.Data.List.Basic

/-!
# Connecting the adapter

`connect` stores the new connection before it prepares the monitoring statements
on it one after another, and reports whether all of them were prepared;
`is_connected` looks only at the connection that is stored.  The constructor of
the connection and each preparation can fail, and a preparation that fails can
leave the connection open or lose it.
-/

namespace Datafeed.Storage

/-- What the preparation of one statement comes to. -/
inductive Preparation
  | prepared
  /-- An exception on a connection that stays open. -/
  | refused
  /-- An exception because the connection is lost. -/
  | lost
  deriving DecidableEq

structure Connection where
  isOpen : Bool
  /-- The names that statements have been prepared under. -/
  prepared : List String
  deriving DecidableEq

/-- A connection that has just been opened. -/
def Connection.fresh : Connection := { isOpen := true, prepared := [] }

structure SAdapter where
  conn : Option Connection
  deriving DecidableEq

/-- The constructor of the connection: it throws, leaves a connection that is
not open, or opens one, on which every statement has an outcome. -/
inductive Attempt
  | throws
  | notOpen
  | opened (prepare : String → Preparation)

def monitoringStatements : List String :=
  ["insert_snapshot", "insert_exchange_metrics", "insert_queue_entry",
   "insert_system_metrics", "insert_network_metrics",
   "insert_database_metrics", "insert_alert", "get_alert_by_id",
   "get_alerts_by_condition", "update_alert", "delete_alert",
   "insert_metric_threshold", "get_metric_threshold_by_id",
   "update_metric_threshold", "delete_metric_threshold",
   "insert_weekly_summary", "delete_weekly_summary", "insert_subscription",
   "get_subscription_by_id", "delete_subscription", "update_subscription",
   "insert_feed_event", "get_feed_event_by_id", "delete_feed_event",
   "insert_api_request", "get_api_request_by_id", "delete_api_request",
   "insert_exchange_health", "get_exchange_health_by_id",
   "delete_exchange_health", "insert_backtest_job", "get_backtest_job_by_id",
   "delete_backtest_job", "insert_config_version",
   "get_config_version_by_id", "delete_config_version"]

/-- The calls of `prepare`, up to the first exception. -/
def Connection.prepareAll (prepare : String → Preparation) :
    List String → Connection → Bool × Connection
  | [], conn => (true, conn)
  | name :: names, conn =>
      match prepare name with
      | .prepared =>
          prepareAll prepare names
            { conn with prepared := conn.prepared ++ [name] }
      | .refused => (false, conn)
      | .lost => (false, { conn with isOpen := false })

def Connection.prepareMonitoringStatements (prepare : String → Preparation)
    (conn : Connection) : Bool × Connection :=
  conn.prepareAll prepare monitoringStatements

namespace SAdapter

def connect (attempt : Attempt) (adapter : SAdapter) : Bool × SAdapter :=
  match attempt with
  -- the exception leaves the previous connection where it was
  | .throws => (false, adapter)
  | .notOpen => (false, { conn := some { isOpen := false, prepared := [] } })
  | .opened prepare =>
      let prepared := Connection.fresh.prepareMonitoringStatements prepare
      (prepared.1, { conn := some prepared.2 })

def disconnect (_ : SAdapter) : SAdapter := { conn := none }

def isConnected (adapter : SAdapter) : Bool :=
  match adapter.conn with
  | none => false
  | some conn => conn.isOpen

@[simp]
theorem isConnected_some (conn : Connection) :
    isConnected { conn := some conn } = conn.isOpen := rfl

end SAdapter

/-! ## The first statement that fails -/

def firstFailure (prepare : String → Preparation) (names : List String) :
    Option String :=
  names.find? fun name => prepare name ≠ .prepared

section PrepareAll

variable {prepare : String → Preparation} {names : List String}

theorem firstFailure_cons_prepared {name : String}
    (hprepared : prepare name = .prepared) :
    firstFailure prepare (name :: names) = firstFailure prepare names := by
  simp [firstFailure, hprepared]

theorem firstFailure_cons_failed {name : String}
    (hfailed : prepare name ≠ .prepared) :
    firstFailure prepare (name :: names) = some name := by
  simp [firstFailure, hfailed]

theorem prepareAll_of_none (hnone : firstFailure prepare names = none)
    (conn : Connection) :
    conn.prepareAll prepare names =
      (true, { conn with prepared := conn.prepared ++ names }) := by
  induction names generalizing conn with
  | nil => simp [Connection.prepareAll]
  | cons name names ih =>
      by_cases hprepared : prepare name = .prepared
      · rw [firstFailure_cons_prepared hprepared] at hnone
        rw [Connection.prepareAll, hprepared, ih hnone]
        simp
      · rw [firstFailure_cons_failed hprepared] at hnone
        cases hnone

theorem prepareAll_of_some {failing : String}
    (hsome : firstFailure prepare names = some failing) {conn : Connection}
    (hopen : conn.isOpen = true) :
    (conn.prepareAll prepare names).1 = false ∧
      ((conn.prepareAll prepare names).2.isOpen = true ↔
        prepare failing = .refused) := by
  induction names generalizing conn with
  | nil => cases hsome
  | cons name names ih =>
      cases hprepare : prepare name with
      | prepared =>
          rw [firstFailure_cons_prepared hprepare] at hsome
          rw [Connection.prepareAll, hprepare]
          exact ih hsome hopen
      | refused =>
          rw [firstFailure_cons_failed (by simp [hprepare])] at hsome
          obtain rfl := Option.some.inj hsome
          simp [Connection.prepareAll, hprepare, hopen]
      | lost =>
          rw [firstFailure_cons_failed (by simp [hprepare])] at hsome
          obtain rfl := Option.some.inj hsome
          simp [Connection.prepareAll, hprepare]

end PrepareAll

/-! ## What the services see -/

/-- `is_connected` says what `connect` returned, and a connected adapter has all
its statements. -/
structure Settled (returned : Bool) (adapter : SAdapter) : Prop where
  returned : adapter.isConnected = returned
  prepared : adapter.isConnected = true →
    ∃ conn, adapter.conn = some conn ∧ conn.prepared = monitoringStatements

/-- The constructor throws only while no connection is open, and the first
statement that fails takes the connection with it. -/
def Attempt.Clean (adapter : SAdapter) : Attempt → Prop
  | .throws => adapter.isConnected = false
  | .notOpen => True
  | .opened prepare =>
      ∀ failing, firstFailure prepare monitoringStatements = some failing →
        prepare failing = .lost

theorem settled_of_not_connected {adapter : SAdapter}
    (hclosed : adapter.isConnected = false) : Settled false adapter where
  returned := hclosed
  prepared hopen := by simp [hclosed] at hopen

theorem lost_iff_not_refused {prepare : String → Preparation}
    {failing : String}
    (hfirst : firstFailure prepare monitoringStatements = some failing) :
    prepare failing = .lost ↔ ¬ prepare failing = .refused := by
  have hfailed : prepare failing ≠ .prepared := by
    simpa using List.find?_some hfirst
  cases hprepare : prepare failing with
  | prepared => exact absurd hprepare hfailed
  | refused => simp
  | lost => simp

/-- After `connect`, `is_connected` is what it returned just when the attempt
was clean. -/
theorem settled_connect_iff (attempt : Attempt) (adapter : SAdapter) :
    Settled (adapter.connect attempt).1 (adapter.connect attempt).2 ↔
      attempt.Clean adapter := by
  cases attempt with
  | throws => exact ⟨Settled.returned, settled_of_not_connected⟩
  | notOpen => exact iff_of_true (settled_of_not_connected rfl) trivial
  | opened prepare =>
      cases hfirst : firstFailure prepare monitoringStatements with
      | none =>
          have hall : Connection.fresh.prepareMonitoringStatements prepare =
              (true, { isOpen := true, prepared := monitoringStatements }) :=
            prepareAll_of_none hfirst _
          refine iff_of_true ?_ fun failing hfailing => ?_
          · rw [SAdapter.connect, hall]
            exact ⟨rfl, fun _ => ⟨_, rfl, rfl⟩⟩
          · rw [hfirst] at hfailing
            cases hfailing
      | some failing =>
          obtain ⟨hreturned, hopen⟩ :
              (Connection.fresh.prepareMonitoringStatements prepare).1 = false ∧
                ((Connection.fresh.prepareMonitoringStatements
                    prepare).2.isOpen = true ↔ prepare failing = .refused) :=
            prepareAll_of_some hfirst rfl
          have hclean : Attempt.Clean adapter (.opened prepare) ↔
              ¬ prepare failing = .refused := by
            simp only [Attempt.Clean, hfirst, Option.some.injEq, forall_eq',
              lost_iff_not_refused hfirst]
          rw [hclean, ← hopen, Bool.not_eq_true, SAdapter.connect, hreturned]
          refine ⟨Settled.returned, fun hclosed => ?_⟩
          exact settled_of_not_connected
            ((SAdapter.isConnected_some _).trans hclosed)

/-- The first statement is refused on a connection that stays open. -/
theorem not_settled_refused :
    ¬ Settled (SAdapter.connect (.opened fun _ => .refused) ⟨none⟩).1
      (SAdapter.connect (.opened fun _ => .refused) ⟨none⟩).2 :=
  fun hsettled => Bool.noConfusion hsettled.returned

end Datafeed.Storage
