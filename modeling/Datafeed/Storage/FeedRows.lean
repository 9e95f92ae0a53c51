import Datafeed.Storage.ClientRows

/-!
# The rows of feed instances

What the adapter does with the table of feed instances.  The sources of the
server give a feed instance four texts and a time and leave its other fields
unset; such an announcement is taken by the server as a whole or not at all, and
it is the whole of a row whether it made the row or changed it.
-/

namespace Datafeed.Storage

open Sql

/-- The values that the statements on a feed instance hold. -/
def FeedInstance.escaped (f : FeedInstance) : FeedInstance :=
  { f with
    instanceId := escapedText f.instanceId
    exchange := escapedText f.exchange
    adapterType := f.adapterType.map escapedText
    feedStatus := escapedText f.feedStatus
    tenantId := f.tenantId.map escapedText }

/-- The columns that `update_feed_instance` assigns; the tenant is left. -/
def updatedFeedInstanceColumns : List FeedInstanceColumn :=
  [.exchange, .adapterType, .feedStatus, .lastTickAt, .staleSeconds,
    .reconnectAttempts, .messageRateIn, .messageRateOut, .queueDepth,
    .backpressureActive, .serializationMs, .parseErrorCount, .gapCount,
    .duplicateCount, .outOfOrderCount]

def updateFeedInstanceStatement : UpdateStatement FeedInstanceColumn where
  assignments := updatedFeedInstanceColumns.zip (placeholdersUpTo 15)
  key := .instanceId
  keyPlaceholder := 16

def updateFeedInstanceParams (feed : FeedInstance) : List Param :=
  [.text feed.exchange,
    appendOpt .text feed.adapterType,
    .text feed.feedStatus,
    appendOpt .timestamp feed.lastTickAt,
    appendOpt intervalParam feed.staleSeconds,
    .integer feed.reconnectAttempts,
    appendOpt toStringParam feed.messageRateIn,
    appendOpt toStringParam feed.messageRateOut,
    appendOpt .integer feed.queueDepth,
    appendOpt appendBool feed.backpressureActive,
    appendOpt toStringParam feed.serializationMs,
    appendOpt .integer feed.parseErrorCount,
    appendOpt .integer feed.gapCount,
    appendOpt .integer feed.duplicateCount,
    appendOpt .integer feed.outOfOrderCount,
    .text feed.instanceId]

section Adapter

variable {Json : Type} [DecidableEq Json] (codec : Codec Json)
  (unset : ℤ) (mktime : Tm → ℤ) (printTime : ℕ → PrintedTime)
  {referenced : FeedInstanceColumn → Datum Json → Bool}

namespace SAdapter

def createFeedInstance (store : Store Json feedInstances referenced)
    (supply : Supply) (f : FeedInstance) :
    Option FeedInstance × Store Json feedInstances referenced :=
  let (created, store) := Storage.createFeedInstance codec store supply
    f.escaped
  (created.map fun _ => f, store)

def getFeedInstanceById (store : Store Json feedInstances referenced)
    (id : String) : Option FeedInstance :=
  Storage.getFeedInstanceById codec unset mktime printTime store
    (escapedText id)

/-- `get_feed_instances_by_condition`, with the condition as a predicate and the
rows in the order that the server sends them in. -/
def getFeedInstances (store : Store Json feedInstances referenced)
    (condition : Row FeedInstanceColumn Json → Bool)
    (rows : List (Row FeedInstanceColumn Json)) : List FeedInstance :=
  if store.isConnected = false then []
  else
    decodeRows (decodeFeedInstance codec unset mktime printTime)
      (rows.filter condition)

def updateFeedInstance (store : Store Json feedInstances referenced)
    (f : FeedInstance) : Bool × Store Json feedInstances referenced :=
  if store.isConnected = false ∨ f.instanceId = "" then (false, store)
  else
    match store.table.execUpdate codec updateFeedInstanceStatement
        (updateFeedInstanceParams f.escaped) with
    | .error _ => (false, store)
    | .ok (table, changed) => (0 < changed, { store with table := table })

end SAdapter

end Adapter

/-! ## Announcements -/

/-- What a source says of its feed. -/
structure Announcement where
  instanceId : String
  exchange : String
  adapterType : String
  feedStatus : String
  lastTickAt : ℕ

/-- The record that a source fills in. -/
def Announcement.feedInstance (a : Announcement) : FeedInstance where
  instanceId := a.instanceId
  exchange := a.exchange
  adapterType := some a.adapterType
  feedStatus := a.feedStatus
  lastTickAt := some a.lastTickAt
  staleSeconds := none
  reconnectAttempts := 0
  messageRateIn := none
  messageRateOut := none
  queueDepth := none
  backpressureActive := none
  serializationMs := none
  parseErrorCount := none
  gapCount := none
  duplicateCount := none
  outOfOrderCount := none
  tenantId := none

/-- The columns take the texts. -/
structure Announcement.Storable (a : Announcement) : Prop where
  instanceId : (escapedText a.instanceId).length ≤ 50
  exchange : (escapedText a.exchange).length ≤ 20
  adapterType : (escapedText a.adapterType).length ≤ 20
  feedStatus : (escapedText a.feedStatus).length ≤ 20

instance (a : Announcement) : Decidable a.Storable :=
  decidable_of_iff
    ((escapedText a.instanceId).length ≤ 50 ∧
      (escapedText a.exchange).length ≤ 20 ∧
      (escapedText a.adapterType).length ≤ 20 ∧
      (escapedText a.feedStatus).length ≤ 20)
    ⟨fun ⟨hid, hexchange, htype, hstatus⟩ =>
      ⟨hid, hexchange, htype, hstatus⟩,
      fun ⟨hid, hexchange, htype, hstatus⟩ =>
        ⟨hid, hexchange, htype, hstatus⟩⟩

abbrev Announcement.field (a : Announcement) : FeedInstanceColumn → Param :=
  a.feedInstance.escaped.field

/-- The row of an announcement. -/
def announcedRow {Json : Type} (codec : Codec Json) (a : Announcement) :
    Row FeedInstanceColumn Json :=
  fun column => stored codec (feedInstances.sqlType column) (a.field column)

section Rows

variable {Json : Type} {codec : Codec Json}
  {referenced : FeedInstanceColumn → Datum Json → Bool} {a : Announcement}

theorem Announcement.Storable.fits (hstorable : a.Storable)
    (column : FeedInstanceColumn) :
    Fits codec (feedInstances.sqlType column) (a.field column) := by
  cases column with
  | instanceId => exact fits_varchar hstorable.instanceId
  | exchange => exact fits_varchar hstorable.exchange
  | adapterType => exact fits_varchar hstorable.adapterType
  | feedStatus => exact fits_varchar hstorable.feedStatus
  | reconnectAttempts =>
      have hrange : inInt4Range 0 = true := by decide
      exact hrange
  | _ => trivial

theorem Announcement.Storable.admissible (hstorable : a.Storable)
    (columns : List FeedInstanceColumn) :
    Admissible codec feedInstances referenced columns a.field where
  fits column _ := hstorable.fits column
  checks column _ := rfl
  references column _ hreferences := by
    cases column with
    | tenantId => exact Or.inl rfl
    | _ => cases hreferences

theorem Announcement.fillsNotNull (a : Announcement)
    (columns : List FeedInstanceColumn) :
    FillsNotNull feedInstances columns a.field := by
  intro column _ hnotNull
  cases column with
  | instanceId | exchange => exact fun hnull => by cases hnull
  | _ => cases hnotNull

theorem insertFeedInstance_aligned (a : Announcement) :
    insertFeedInstance.Aligned
      (createFeedInstanceParams a.feedInstance.escaped) a.field :=
  ⟨rfl, rfl⟩

theorem updateFeedInstance_aligned (a : Announcement) :
    updateFeedInstanceStatement.Aligned updatedFeedInstanceColumns
      (updateFeedInstanceParams a.feedInstance.escaped) a.field
      (a.field .instanceId) :=
  ⟨rfl, rfl, by decide, rfl⟩

theorem namedRow_insertFeedInstance (a : Announcement)
    (row : Row FeedInstanceColumn Json) :
    namedRow codec feedInstances insertFeedInstance.columns a.field row =
      announcedRow codec a := by
  funext column
  rw [namedRow, if_pos (mem_insertFeedInstance_columns column), announcedRow]

theorem announcedRow_instanceId (hstorable : a.Storable) :
    announcedRow codec a .instanceId = .text (escapedText a.instanceId) :=
  stored_text trivial (fits_varchar hstorable.instanceId)

/-- An update of a row of the same instance leaves nothing of it. -/
theorem namedRow_updateFeedInstance {old : Announcement}
    (hsame : announcedRow codec old .instanceId =
      announcedRow codec a .instanceId) :
    namedRow codec feedInstances updatedFeedInstanceColumns a.field
        (announcedRow codec old) = announcedRow codec a := by
  funext column
  cases column with
  | instanceId => exact hsame
  | tenantId => rfl
  | _ => exact if_pos (by decide)

/-- An announcement is read as it was written. -/
theorem decodeFeedInstance_announcedRow {unset : ℤ} {mktime : Tm → ℤ}
    {printTime : ℕ → PrintedTime} (hstorable : a.Storable) {ms : ℕ}
    (hread : stringToTimestamp mktime (printTime a.lastTickAt).text =
      some ms) :
    decodeFeedInstance codec unset mktime printTime (announcedRow codec a) =
      some { a.feedInstance.escaped with lastTickAt := some ms } := by
  have htext {column : FeedInstanceColumn} {text : String}
      (htextual : (feedInstances.sqlType column).IsTextual)
      (hfield : a.field column = .text text) :
      announcedRow codec a column = .text text := by
    rw [announcedRow, hfield]
    exact stored_text htextual (hfield ▸ hstorable.fits column)
  have hid : announcedRow codec a .instanceId =
      .text (escapedText a.instanceId) := htext trivial rfl
  have hexchange : announcedRow codec a .exchange =
      .text (escapedText a.exchange) := htext trivial rfl
  have htype : announcedRow codec a .adapterType =
      .text (escapedText a.adapterType) := htext trivial rfl
  have hstatus : announcedRow codec a .feedStatus =
      .text (escapedText a.feedStatus) := htext trivial rfl
  have htick : (announcedRow codec a .lastTickAt).optional
      (readTimestamp mktime printTime) = some (some ms) := by
    have htime : announcedRow codec a .lastTickAt =
        .timestamp a.lastTickAt := rfl
    rw [htime, Datum.optional, readTimestamp, hread]
    rfl
  have hattempts : (announcedRow codec a .reconnectAttempts).asInt64 =
      some 0 := rfl
  rw [decodeFeedInstance, hid, hexchange, htype, hstatus, htick, hattempts]
  rfl

end Rows

/-! ## The statements on an announcement -/

section Statements

variable {Json : Type} [DecidableEq Json] {codec : Codec Json}
  {referenced : FeedInstanceColumn → Datum Json → Bool}
  {store : Store Json feedInstances referenced} {a : Announcement}

omit [DecidableEq Json] in
theorem Announcement.storable_of_store (codec : Codec Json)
    (hstore : ∀ column, ∃ datum,
      Sql.store codec (feedInstances.sqlType column) (a.field column) =
        some datum) : a.Storable where
  instanceId := length_of_store_varchar (hstore .instanceId).choose_spec
  exchange := length_of_store_varchar (hstore .exchange).choose_spec
  adapterType := length_of_store_varchar (hstore .adapterType).choose_spec
  feedStatus := length_of_store_varchar (hstore .feedStatus).choose_spec

namespace SAdapter

theorem createFeedInstance_of_storable {supply : Supply}
    (hopen : store.isConnected = true) (hstorable : a.Storable)
    (hfresh : ∀ row ∈ store.table.rows,
      row .instanceId ≠ .text (escapedText a.instanceId)) :
    ∃ next, createFeedInstance codec store supply a.feedInstance =
        (some a.feedInstance, next) ∧
      next.isConnected = true ∧
      next.table.rows = store.table.rows ++ [announcedRow codec a] := by
  have hkey : announcedRow codec a .instanceId =
      .text (escapedText a.instanceId) := announcedRow_instanceId hstorable
  have hunique : RespectsUnique feedInstances store.table.rows
      (namedRow codec feedInstances insertFeedInstance.columns a.field
        (defaultDatum feedInstances supply)) := by
    rw [namedRow_insertFeedInstance,
      respectsUnique_iff rfl (by rw [hkey]; rfl), hkey]
    exact hfresh
  have homits : OmitsGenerated feedInstances insertFeedInstance.columns :=
    fun column _ homitted =>
      absurd (mem_insertFeedInstance_columns column) homitted
  obtain ⟨next, hexec, hrows⟩ := store.table.execInsert_of_aligned
    (insertFeedInstance_aligned a) homits (a.fillsNotNull _)
    (hstorable.admissible _) hunique
  rw [namedRow_insertFeedInstance] at hrows
  refine ⟨{ store with table := next }, ?_, hopen, hrows⟩
  rw [createFeedInstance, Storage.createFeedInstance, createByText,
    if_neg (by rw [hopen]; decide), hexec]
  rfl

/-- What `create_feed_instance` leaves alone. -/
theorem createFeedInstance_of_refused {supply : Supply}
    (hrefused : store.isConnected = false ∨ ¬ a.Storable ∨
      ∃ row ∈ store.table.rows,
        row .instanceId = .text (escapedText a.instanceId)) :
    createFeedInstance codec store supply a.feedInstance =
      (none, store) := by
  have hcreated : Storage.createFeedInstance codec store supply
      a.feedInstance.escaped = (none, store) := by
    rw [Storage.createFeedInstance, createByText]
    split
    · rfl
    · next hopen =>
        split
        · rfl
        · next row table hexec =>
            have haligned := insertFeedInstance_aligned a
            have hstored (column : FeedInstanceColumn) :=
              Table.store_of_execInsert_ok haligned hexec
                (mem_insertFeedInstance_columns column)
            have hstorable : a.Storable :=
              Announcement.storable_of_store codec fun column =>
                ⟨_, hstored column⟩
            have hkey : row .instanceId =
                .text (escapedText a.instanceId) := by
              have hsame := hstored .instanceId
              rw [store_eq_stored (hstorable.fits .instanceId),
                Option.some.injEq] at hsame
              rw [← hsame]
              exact announcedRow_instanceId hstorable
            obtain ⟨-, hunique⟩ := Table.checks_of_execInsert_ok hexec
            rw [respectsUnique_iff rfl (by rw [hkey]; rfl), hkey] at hunique
            rcases hrefused with
              hclosed | hunstorable | ⟨other, hother, hsame⟩
            · exact absurd hclosed hopen
            · exact absurd hstorable hunstorable
            · exact absurd hsame (hunique other hother)
  rw [createFeedInstance, hcreated]
  rfl

theorem updateFeedInstance_of_storable (hopen : store.isConnected = true)
    (hnamed : a.instanceId ≠ "") (hstorable : a.Storable) :
    ∃ next, updateFeedInstance codec store a.feedInstance =
        (store.table.rows.any fun row =>
          row .instanceId = .text (escapedText a.instanceId), next) ∧
      next.isConnected = true ∧
      next.table.rows = store.table.rows.map fun row =>
        if row .instanceId = .text (escapedText a.instanceId) then
          namedRow codec feedInstances updatedFeedInstanceColumns a.field row
        else row := by
  have hclosed : ¬(store.isConnected = false ∨
      a.feedInstance.instanceId = "") := by
    rw [hopen]
    simpa [Announcement.feedInstance] using hnamed
  have hkey : stored codec (feedInstances.sqlType .instanceId)
      (a.field .instanceId) = .text (escapedText a.instanceId) :=
    announcedRow_instanceId hstorable
  obtain ⟨next, hexec, hrows⟩ : ∃ next,
      store.table.execUpdate codec updateFeedInstanceStatement
          (updateFeedInstanceParams a.feedInstance.escaped) =
        .ok (next, (store.table.rows.filter fun row => row .instanceId =
          stored codec (feedInstances.sqlType .instanceId)
            (a.field .instanceId)).length) ∧
      next.rows = store.table.rows.map fun row =>
        if row .instanceId = stored codec (feedInstances.sqlType .instanceId)
            (a.field .instanceId) then
          namedRow codec feedInstances updatedFeedInstanceColumns a.field row
        else row :=
    store.table.execUpdate_of_aligned (updateFeedInstance_aligned a)
      (a.fillsNotNull _) (hstorable.admissible _) (hstorable.fits .instanceId)
  rw [hkey] at hexec hrows
  refine ⟨{ store with table := next }, ?_, hopen, hrows⟩
  rw [updateFeedInstance, if_neg hclosed, hexec]
  simp only [Prod.mk.injEq, and_true]
  rw [Bool.eq_iff_iff, decide_eq_true_eq, List.length_pos_iff_exists_mem,
    List.any_eq_true]
  simp only [List.mem_filter]

/-- What `update_feed_instance` leaves alone. -/
theorem updateFeedInstance_of_refused
    (hrefused : store.isConnected = false ∨ ¬ a.Storable) :
    updateFeedInstance codec store a.feedInstance = (false, store) := by
  rw [updateFeedInstance]
  split
  · rfl
  · next hopen =>
      split
      · rfl
      · next table changed hexec =>
          have haligned := updateFeedInstance_aligned a
          obtain ⟨hkey, haccepted, -, -⟩ :=
            Table.of_execUpdate_ok haligned hexec
          have hstorable : a.Storable := by
            refine Announcement.storable_of_store codec fun column => ?_
            by_cases hlisted : column ∈ updatedFeedInstanceColumns
            · exact ⟨_, store_eq_of_accepted haccepted hlisted⟩
            · cases column with
              | instanceId => exact ⟨_, hkey⟩
              | tenantId => exact ⟨.null, rfl⟩
              | _ => exact absurd (by decide) hlisted
          rcases hrefused with hclosed | hunstorable
          · exact absurd (Or.inl hclosed) hopen
          · exact absurd hstorable hunstorable

end SAdapter

end Statements

end Datafeed.Storage
