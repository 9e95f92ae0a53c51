import Datafeed.Storage.FeedMetrics
import Mathlib.Data.List.Forall2

/-!
# The contents of `feed_metrics_snapshots`

A table of snapshots next to the records its rows hold.  The operations of the
rollup work on the rows; the records say what the rows mean, so that what a
query returns and what a deletion removes can be stated without the encoding.
-/

namespace Datafeed.Storage

open Sql

variable {Json : Type} (codec : Codec Json)
  (referenced : SnapshotColumn → Datum Json → Bool)

/-- A row holds a snapshot, key and all. -/
def HoldsSnapshot (row : Row SnapshotColumn Json) (s : FeedMetricsSnapshot) :
    Prop :=
  ∀ column, Holds codec feedMetricsSnapshots row s.field column

structure SnapshotTable where
  table : Table Json feedMetricsSnapshots referenced
  snapshots : List FeedMetricsSnapshot
  holds : List.Forall₂ (HoldsSnapshot codec) table.rows snapshots

/-- A snapshot whose values fit the columns. -/
structure StorableSnapshot where
  snapshot : FeedMetricsSnapshot
  admissible : Admissible codec feedMetricsSnapshots referenced
    feedMetricsSnapshots.columns snapshot.field

variable {codec referenced}

theorem mem_metricColumns (column : MetricColumn) : column ∈ metricColumns := by
  cases column <;> decide

theorem mem_feedMetricsSnapshots_columns (column : SnapshotColumn) :
    column ∈ feedMetricsSnapshots.columns := by
  cases column with
  | metric column => simp [feedMetricsSnapshots, mem_metricColumns]
  | _ => simp [feedMetricsSnapshots]

theorem feedMetricsSnapshot_fillsNotNull (s : FeedMetricsSnapshot)
    (columns : List SnapshotColumn) :
    FillsNotNull feedMetricsSnapshots columns s.field := by
  intro column _ hnotNull
  cases column <;> simp_all [feedMetricsSnapshots, FeedMetricsSnapshot.field]

namespace SnapshotTable

/-- The row that holds a snapshot. -/
def rowOf (codec : Codec Json) (s : FeedMetricsSnapshot) :
    Row SnapshotColumn Json :=
  namedRow codec feedMetricsSnapshots feedMetricsSnapshots.columns s.field
    fun _ => .null

theorem holds_rowOf (storable : StorableSnapshot codec referenced) :
    HoldsSnapshot codec (rowOf codec storable.snapshot) storable.snapshot :=
  fun column => holds_namedRow storable.admissible _
    (mem_feedMetricsSnapshots_columns column)

theorem respects_rowOf (storable : StorableSnapshot codec referenced) :
    Respects feedMetricsSnapshots referenced
      (rowOf codec storable.snapshot) :=
  storable.admissible.respects_namedRow
    (feedMetricsSnapshot_fillsNotNull _ _)
    fun column _ homitted =>
      absurd (mem_feedMetricsSnapshots_columns column) homitted

def empty (codec : Codec Json)
    (referenced : SnapshotColumn → Datum Json → Bool) :
    SnapshotTable codec referenced where
  table := { rows := [], valid := by simp }
  snapshots := []
  holds := .nil

/-- A persisted snapshot. -/
def add (table : SnapshotTable codec referenced)
    (storable : StorableSnapshot codec referenced) :
    SnapshotTable codec referenced where
  table :=
    { rows := table.table.rows ++ [rowOf codec storable.snapshot]
      valid := by
        intro row hrow
        rcases List.mem_append.mp hrow with hmem | hnew
        · exact table.table.valid row hmem
        · rw [List.mem_singleton.mp hnew]
          exact respects_rowOf storable }
  snapshots := table.snapshots ++ [storable.snapshot]
  holds := List.rel_append table.holds (.cons (holds_rowOf storable) .nil)

@[simp]
theorem snapshots_empty : (empty codec referenced).snapshots = [] := rfl

@[simp]
theorem snapshots_add (table : SnapshotTable codec referenced)
    (storable : StorableSnapshot codec referenced) :
    (table.add storable).snapshots = table.snapshots ++ [storable.snapshot] :=
  rfl

/-- The table as the adapter sees it over an open connection. -/
def store (table : SnapshotTable codec referenced) :
    Store Json feedMetricsSnapshots referenced where
  table := table.table
  isConnected := true
  prepared := true

/-- `measured_at < before`. -/
def measuredBefore (before : ℕ) (row : Row SnapshotColumn Json) : Bool :=
  match row .measuredAt with
  | .timestamp measuredAt => measuredAt < before
  | _ => false

theorem measuredAt_of_holds {row : Row SnapshotColumn Json}
    {s : FeedMetricsSnapshot} (hholds : HoldsSnapshot codec row s) :
    row .measuredAt = .timestamp s.measuredAt :=
  (hholds .measuredAt).row_eq

theorem instanceId_of_holds {row : Row SnapshotColumn Json}
    {s : FeedMetricsSnapshot} (hholds : HoldsSnapshot codec row s) :
    row .instanceId = .text s.instanceId := by
  have hfits := (hholds .instanceId).fits
  rw [(hholds .instanceId).row_eq]
  exact stored_text trivial hfits

/-- What `delete_old_snapshots` does to the snapshots: the rows of every
instance measured before a time are deleted.  The five history tables it also
deletes from are left out. -/
def deleteOldSnapshots (table : SnapshotTable codec referenced)
    (beforeMs : ℕ) : SnapshotTable codec referenced where
  table :=
    { rows := table.table.rows.filter fun row => !measuredBefore beforeMs row
      valid := fun row hrow =>
        table.table.valid row (List.mem_filter.mp hrow).1 }
  snapshots :=
    table.snapshots.filter fun s => !decide (s.measuredAt < beforeMs)
  holds := by
    apply List.rel_filter _ table.holds
    intro row s hholds
    simp [measuredBefore, measuredAt_of_holds hholds]

end SnapshotTable

/-- A snapshot as the reader gives it back: without its metrics. -/
def FeedMetricsSnapshot.asRead (s : FeedMetricsSnapshot) :
    FeedMetricsSnapshot :=
  { s with metrics := fun _ => none }

theorem decodeFeedMetricsSnapshot_of_holds {row : Row SnapshotColumn Json}
    {s : FeedMetricsSnapshot} (hholds : HoldsSnapshot codec row s) :
    decodeFeedMetricsSnapshot codec row = some s.asRead := by
  have hid := (hholds .id).integer trivial rfl
  have hinstanceId := (hholds .instanceId).text trivial rfl
  have hmeasuredAt := (hholds .measuredAt).timestamp rfl rfl
  simp [decodeFeedMetricsSnapshot, hid, hinstanceId, hmeasuredAt,
    FeedMetricsSnapshot.asRead]

theorem decodeRows_of_holds {rows : List (Row SnapshotColumn Json)}
    {snapshots : List FeedMetricsSnapshot}
    (hholds : List.Forall₂ (HoldsSnapshot codec) rows snapshots) :
    decodeRows (decodeFeedMetricsSnapshot codec) rows =
      snapshots.map FeedMetricsSnapshot.asRead := by
  induction hholds with
  | nil => rfl
  | cons hhead _ ih =>
      simp [decodeRows, decodeFeedMetricsSnapshot_of_holds hhead, ih]

/-- A query returns the selected snapshots in table order, without their
metrics. -/
theorem getFeedMetricsSnapshotsByCondition_eq
    (table : SnapshotTable codec referenced)
    {condition : Row SnapshotColumn Json → Bool}
    {selects : FeedMetricsSnapshot → Bool}
    (hselects : ∀ row s, HoldsSnapshot codec row s →
      condition row = selects s) :
    getFeedMetricsSnapshotsByCondition codec table.store condition =
      (table.snapshots.filter selects).map FeedMetricsSnapshot.asRead := by
  apply decodeRows_of_holds
  apply List.rel_filter _ table.holds
  intro row s hholds
  simp only [hselects row s hholds]

end Datafeed.Storage
