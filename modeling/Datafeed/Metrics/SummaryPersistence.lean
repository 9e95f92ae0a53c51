import Datafeed.Core.Machine
import Datafeed.Metrics.SnapshotConverter

/-!
# The rows of a summary

The callback of the state manager writes a summary to six tables, one `create_*`
after the other and each with a transaction of its own, and returns early where
the first of them fails.  Between two of them the weekly rollup can delete old
rows of all six tables.  The first statement has more placeholders than columns,
so in no run does a summary leave a row in any of the tables.
-/

namespace Datafeed.SummaryPersistence

open MetricAggregator SnapshotConverter Storage Sql

/-! ## The tables -/

/-- The six tables; all of them refer to feed instances. -/
structure Database (Json : Type) (isInstance : Datum Json → Bool) where
  snapshots : Table Json feedMetricsSnapshots fun _ => isInstance
  exchanges : Table Json exchangeMetricsHistory fun _ => isInstance
  queues : Table Json queueHistory fun _ => isInstance
  system : Table Json systemMetricsHistory fun _ => isInstance
  network : Table Json networkMetricsHistory fun _ => isInstance
  database : Table Json databaseMetricsHistory fun _ => isInstance

/-- What a `create_*` finds: the connection, its prepared statements and what
the server makes up. -/
structure Link where
  isConnected : Bool
  prepared : Bool
  supply : Supply

/-- A summary, with the order in which its exchanges are iterated over. -/
structure Summary where
  snapshot : MetricAggregator.FeedMetricsSnapshot
  exchanges : List String
  nodup : exchanges.Nodup
  mem_iff : ∀ name,
    name ∈ exchanges ↔ (snapshot.exchangeStats name).isSome = true

/-- The rows that are written after that of the snapshot. -/
inductive Child
  | exchange (name : String)
  | queue
  | system
  | network
  | database
  deriving DecidableEq

def Summary.children (summary : Summary) : List Child :=
  summary.exchanges.map .exchange ++ [.queue, .system, .network, .database]

/-- A `create_*` that the callback has still to call. -/
structure Write where
  child : Child
  summary : Summary
  now : ℕ

structure State (Json : Type) (isInstance : Datum Json → Bool) where
  tables : Database Json isInstance
  pending : List Write

inductive Action
  | summarize (summary : Summary) (now : ℕ) (link : Link)
  | create (link : Link)
  | deleteOldSnapshots (beforeMs : ℕ) (isConnected : Bool)

variable {Json : Type} {isInstance : Datum Json → Bool}

section Steps

variable [DecidableEq Json] (codec : Codec Json)
  (dump : List (String × LatencyStats) → String)

def liveInstance : String := "live-1"

def Link.store {Column : Type} {schema : Schema Column}
    {referenced : Column → Datum Json → Bool} (link : Link)
    (table : Table Json schema referenced) : Store Json schema referenced where
  table := table
  isConnected := link.isConnected
  prepared := link.prepared

/-- The callback up to its first `create_*`: whether that failed, and the
table. -/
def createSnapshot (link : Link) (summary : Summary) (now : ℕ)
    (tables : Database Json isInstance) : Bool × Database Json isInstance :=
  let (created, store) := createFeedMetricsSnapshot codec
    (link.store tables.snapshots) link.supply
    (toDbSnapshot dump summary.snapshot liveInstance now)
  (created.isNone, { tables with snapshots := store.table })

/-- One of the other `create_*`, whose result the callback does not look at. -/
def createChild (link : Link) (write : Write)
    (tables : Database Json isInstance) : Bool × Database Json isInstance :=
  match write.child with
  | .exchange name =>
      match write.summary.snapshot.exchangeStats name with
      | none => (true, tables)
      | some stats =>
          let (created, store) := createExchangeMetricsEntry codec
            (link.store tables.exchanges) link.supply
            (toExchangeEntry liveInstance write.now name stats)
          (created.isNone, { tables with exchanges := store.table })
  | .queue =>
      let (created, store) := createQueueEntry codec
        (link.store tables.queues) link.supply
        (toQueueEntry write.summary.snapshot liveInstance write.now)
      (created.isNone, { tables with queues := store.table })
  | .system =>
      let (created, store) := createSystemMetricsEntry codec
        (link.store tables.system) link.supply
        (toSystemEntry write.summary.snapshot liveInstance write.now)
      (created.isNone, { tables with system := store.table })
  | .network =>
      let (created, store) := createNetworkMetricsEntry codec
        (link.store tables.network) link.supply
        (toNetworkEntry write.summary.snapshot liveInstance write.now)
      (created.isNone, { tables with network := store.table })
  | .database =>
      let (created, store) := createDatabaseMetricsEntry codec
        (link.store tables.database) link.supply
        (toDatabaseEntry write.summary.snapshot liveInstance write.now)
      (created.isNone, { tables with database := store.table })

/-- The time that a column of a row holds. -/
def timeOf : Datum Json → Option ℕ
  | .timestamp ms => some ms
  | _ => none

/-- `DELETE FROM .. WHERE column < before`. -/
def deleteBefore {Column : Type} {schema : Schema Column}
    {referenced : Column → Datum Json → Bool} (column : Column)
    (beforeMs : ℕ) (table : Table Json schema referenced) :
    Table Json schema referenced where
  rows := table.rows.filter fun row =>
    !(timeOf (row column)).any fun ms => ms < beforeMs
  valid row hrow := table.valid row (List.mem_filter.mp hrow).1

/-- `delete_old_snapshots`: one transaction over the six tables. -/
def deleteOldSnapshots (beforeMs : ℕ) (tables : Database Json isInstance) :
    Database Json isInstance where
  snapshots := deleteBefore .measuredAt beforeMs tables.snapshots
  exchanges := deleteBefore .snapshotTime beforeMs tables.exchanges
  queues := deleteBefore .measuredAt beforeMs tables.queues
  system := deleteBefore .measuredAt beforeMs tables.system
  network := deleteBefore .measuredAt beforeMs tables.network
  database := deleteBefore .measuredAt beforeMs tables.database

/-- The callback runs on one thread, under a mutex of its own. -/
def step (state : State Json isInstance) :
    Action → Option (State Json isInstance)
  | .summarize summary now link =>
      if state.pending.isEmpty then
        match createSnapshot codec dump link summary now state.tables with
        | (true, tables) => some { state with tables := tables }
        | (false, tables) =>
            some
              { tables := tables
                pending := summary.children.map fun child =>
                  ⟨child, summary, now⟩ }
      else none
  | .create link =>
      match state.pending with
      | [] => none
      | write :: rest =>
          some
            { state with
              tables := (createChild codec link write state.tables).2
              pending := rest }
  | .deleteOldSnapshots beforeMs isConnected =>
      some
        (if isConnected then
          { state with tables := deleteOldSnapshots beforeMs state.tables }
        else state)

def machine (tables : Database Json isInstance) :
    Machine (State Json isInstance) Action where
  initial := ⟨tables, []⟩
  step := step codec dump

end Steps

/-! ## Runs -/

/-- The bounds of the deletions that were executed. -/
def cutoffs : List Action → List ℕ
  | [] => []
  | .deleteOldSnapshots beforeMs true :: actions => beforeMs :: cutoffs actions
  | _ :: actions => cutoffs actions

/-- A row that no deletion reaches. -/
def isRetained (bounds : List ℕ) (datum : Datum Json) : Bool :=
  bounds.all fun beforeMs => !(timeOf datum).any fun ms => ms < beforeMs

/-- What is left of the tables of a server: the rows that no deletion
reaches. -/
structure OnlyRetained (bounds : List ℕ)
    (tables final : Database Json isInstance) : Prop where
  snapshots : final.snapshots.rows =
    tables.snapshots.rows.filter fun row => isRetained bounds (row .measuredAt)
  exchanges : final.exchanges.rows =
    tables.exchanges.rows.filter fun row =>
      isRetained bounds (row .snapshotTime)
  queues : final.queues.rows =
    tables.queues.rows.filter fun row => isRetained bounds (row .measuredAt)
  system : final.system.rows =
    tables.system.rows.filter fun row => isRetained bounds (row .measuredAt)
  network : final.network.rows =
    tables.network.rows.filter fun row => isRetained bounds (row .measuredAt)
  database : final.database.rows =
    tables.database.rows.filter fun row => isRetained bounds (row .measuredAt)

theorem filter_isRetained_nil {Row : Type} (rows : List Row)
    (datum : Row → Datum Json) :
    rows = rows.filter fun row => isRetained [] (datum row) :=
  (List.filter_eq_self.mpr fun _ _ => rfl).symm

theorem filter_isRetained_cons {Row : Type} (beforeMs : ℕ) (bounds : List ℕ)
    (rows : List Row) (datum : Row → Datum Json) :
    ((rows.filter fun row =>
        !(timeOf (datum row)).any fun ms => ms < beforeMs).filter fun row =>
      isRetained bounds (datum row)) =
    rows.filter fun row => isRetained (beforeMs :: bounds) (datum row) := by
  rw [List.filter_filter]
  apply List.filter_congr
  intro row _
  rw [isRetained, isRetained, List.all_cons, Bool.and_comm]

theorem onlyRetained_nil (tables : Database Json isInstance) :
    OnlyRetained [] tables tables where
  snapshots := filter_isRetained_nil _ _
  exchanges := filter_isRetained_nil _ _
  queues := filter_isRetained_nil _ _
  system := filter_isRetained_nil _ _
  network := filter_isRetained_nil _ _
  database := filter_isRetained_nil _ _

/-- A deletion before the others. -/
theorem OnlyRetained.cons {bounds : List ℕ} {beforeMs : ℕ}
    {tables final : Database Json isInstance}
    (hretained :
      OnlyRetained bounds (deleteOldSnapshots beforeMs tables) final) :
    OnlyRetained (beforeMs :: bounds) tables final where
  snapshots := hretained.snapshots.trans (filter_isRetained_cons _ _ _ _)
  exchanges := hretained.exchanges.trans (filter_isRetained_cons _ _ _ _)
  queues := hretained.queues.trans (filter_isRetained_cons _ _ _ _)
  system := hretained.system.trans (filter_isRetained_cons _ _ _ _)
  network := hretained.network.trans (filter_isRetained_cons _ _ _ _)
  database := hretained.database.trans (filter_isRetained_cons _ _ _ _)

section Steps

variable [DecidableEq Json] {codec : Codec Json}
  {dump : List (String × LatencyStats) → String}

/-- The statement for snapshots is rejected, whatever its parameters. -/
theorem createSnapshot_fails (link : Link) (summary : Summary) (now : ℕ)
    (tables : Database Json isInstance) :
    createSnapshot codec dump link summary now tables = (true, tables) := by
  rw [createSnapshot, createFeedMetricsSnapshot_eq]
  rfl

/-- While nothing is pending only a deletion changes the tables. -/
theorem step_eq {state next : State Json isInstance} {action : Action}
    (hdone : state.pending = [])
    (hstep : step codec dump state action = some next) :
    next.pending = [] ∧
      (next.tables = state.tables ∧ cutoffs [action] = [] ∨
        ∃ beforeMs, cutoffs [action] = [beforeMs] ∧
          next.tables = deleteOldSnapshots beforeMs state.tables) := by
  cases action with
  | summarize summary now link =>
      simp only [step, createSnapshot_fails, Option.ite_none_right_eq_some]
        at hstep
      obtain ⟨-, hnext⟩ := hstep
      obtain rfl := Option.some.inj hnext
      exact ⟨hdone, Or.inl ⟨rfl, rfl⟩⟩
  | create link =>
      simp only [step, hdone] at hstep
      cases hstep
  | deleteOldSnapshots beforeMs isConnected =>
      obtain rfl := Option.some.inj hstep
      cases isConnected with
      | false => exact ⟨hdone, Or.inl ⟨rfl, rfl⟩⟩
      | true => exact ⟨hdone, Or.inr ⟨beforeMs, rfl, rfl⟩⟩

theorem cutoffs_cons (action : Action) (actions : List Action) :
    cutoffs (action :: actions) = cutoffs [action] ++ cutoffs actions := by
  cases action with
  | deleteOldSnapshots beforeMs isConnected =>
      cases isConnected with
      | false => rfl
      | true => rfl
  | _ => rfl

theorem onlyRetained_of_run {state final : State Json isInstance}
    {actions : List Action} {start : Database Json isInstance}
    (hdone : state.pending = [])
    (hrun : (machine codec dump start).run state actions = some final) :
    final.pending = [] ∧
      OnlyRetained (cutoffs actions) state.tables final.tables := by
  induction actions generalizing state with
  | nil =>
      obtain rfl : state = final := by simpa using hrun
      exact ⟨hdone, onlyRetained_nil _⟩
  | cons action actions ih =>
      obtain ⟨next, hstep, hrest⟩ := Machine.exists_of_run_cons hrun
      obtain ⟨hnext, htables⟩ := step_eq hdone hstep
      obtain ⟨hfinal, hretained⟩ := ih hnext hrest
      refine ⟨hfinal, ?_⟩
      rw [cutoffs_cons]
      rcases htables with ⟨hsame, hnone⟩ | ⟨beforeMs, hcutoff, hdeleted⟩
      · rw [hnone, ← hsame]
        exact hretained
      · rw [hcutoff]
        rw [hdeleted] at hretained
        exact hretained.cons

/-- Whatever summaries are passed to the callback and whenever old rows are
deleted: no row is ever added to one of the six tables. -/
theorem summaries_leaveNoRows {tables : Database Json isInstance}
    {actions : List Action} {final : State Json isInstance}
    (hrun : (machine codec dump tables).run (machine codec dump tables).initial
      actions = some final) :
    final.pending = [] ∧ OnlyRetained (cutoffs actions) tables final.tables :=
  onlyRetained_of_run rfl hrun

end Steps

def Database.empty (isInstance : Datum Json → Bool) :
    Database Json isInstance where
  snapshots := { rows := [], valid := by simp }
  exchanges := { rows := [], valid := by simp }
  queues := { rows := [], valid := by simp }
  system := { rows := [], valid := by simp }
  network := { rows := [], valid := by simp }
  database := { rows := [], valid := by simp }

def openLink : Link := ⟨true, true, .first⟩

def quietSummary : Summary where
  snapshot := {}
  exchanges := []
  nodup := List.nodup_nil
  mem_iff name := by simp

/-- A row of the queue history from before. -/
def oneQueueRow : Database String fun _ => true :=
  (createChild plainCodec openLink ⟨.queue, quietSummary, 1000⟩
    (Database.empty _)).2

theorem summaries_leaveNoRows_oneQueueRow :
    ∃ final,
      (machine plainCodec (fun _ => "{}") oneQueueRow).run
          (machine plainCodec (fun _ => "{}") oneQueueRow).initial
          [.summarize quietSummary 2000 openLink,
            .deleteOldSnapshots 500 true] = some final ∧
        final.tables.queues.rows.length = 1 ∧ final.pending = [] ∧
        OnlyRetained [500] oneQueueRow final.tables := by
  have hrun : (machine plainCodec (fun _ => "{}") oneQueueRow).run
      (machine plainCodec (fun _ => "{}") oneQueueRow).initial
        [.summarize quietSummary 2000 openLink,
          .deleteOldSnapshots 500 true] =
      some ⟨deleteOldSnapshots 500 oneQueueRow, []⟩ := by
    simp [machine, step, createSnapshot_fails]
  obtain ⟨hdone, hretained⟩ := summaries_leaveNoRows hrun
  exact ⟨_, hrun, by decide +kernel, hdone, hretained⟩

end Datafeed.SummaryPersistence
