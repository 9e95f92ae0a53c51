import Datafeed.Api.PutThresholds
import Datafeed.Core.Simulation
import Datafeed.LiveSource.SwitchExchange
import Datafeed.Storage.FeedRows

/-!
# The status of the feed

The live source and the backtest source each keep one row of the table of feed
instances, which `GET /api/v1/feed/status` and `GET /health` answer from.  A
source writes under a mutex of its own, with several calls of the adapter; a
request may come between them, and so may the loss of the connection.  The
answers are those of a registry of the sources, and a source that was written
as connected is not replaced by one that was not.
-/

namespace Datafeed.Api.FeedStatus

open PutThresholds (Moment)
open Sql Storage

/-! ## What the sources write -/

inductive Source
  | live
  | backtest
  deriving DecidableEq

def Source.instanceId : Source → String
  | .live => "live-1"
  | .backtest => "backtest-1"

def Source.adapterType : Source → String
  | .live => "exchange"
  | .backtest => "database"

def Source.announcement (source : Source) (exchange status : String)
    (time : Moment) : Announcement where
  instanceId := source.instanceId
  exchange := exchange
  adapterType := source.adapterType
  feedStatus := status
  lastTickAt := time.1

/-- Where the holder of the mutex of a source stands. -/
inductive Phase
  | idle
  /-- Before `get_feed_instance_by_id`. -/
  | looking (a : Announcement)
  /-- Before `update_feed_instance`. -/
  | updating (a : Announcement)
  /-- Before `create_feed_instance`. -/
  | creating (a : Announcement)

def Phase.isIdle : Phase → Bool
  | .idle => true
  | _ => false

/-! ## What is answered -/

structure FeedStatusResponse where
  instanceId : String
  exchange : String
  status : String
  uptime : ℕ
  deriving DecidableEq

inductive Body
  | feed (response : FeedStatusResponse)
  | degraded (response : FeedStatusResponse) (database : String)
      (feedInstances : ℕ) (reason : String)
  | error (text : String)
  | health (status db : String) (feedInstances : ℕ)
  deriving DecidableEq

structure Reply where
  status : ℕ
  body : Body
  deriving DecidableEq

/-- Where a request stands. -/
inductive Request
  /-- In `getFeedStatus`, before the query for what is connected. -/
  | preferring
  /-- In `getFeedStatus`, before the query for everything. -/
  | fallingBack
  /-- In the handler of `/health`, before its query. -/
  | counting
  | answered (reply : Reply)
  deriving DecidableEq

/-- What `getFeedStatus` returns without a connection. -/
def degraded : FeedStatusResponse := ⟨"", "", "degraded", 0⟩

def handleGetStatus : Option FeedStatusResponse → Reply
  | none => ⟨500, .error "Unable to get feed status"⟩
  | some status =>
      ⟨200, if status.status = "degraded" then
        .degraded status "disconnected" 0 "database unavailable"
      else .feed status⟩

def statusOf (instances : List FeedInstance) : Option FeedStatusResponse :=
  instances.head?.map fun feed =>
    ⟨feed.instanceId, feed.exchange, feed.feedStatus, 0⟩

/-! ## The sources and the requests -/

structure State (Json : Type)
    (referenced : FeedInstanceColumn → Datum Json → Bool) where
  store : Store Json feedInstances referenced
  phases : Source → Phase
  started : Bool
  currentExchange : String
  /-- Calls that have set the exchange and are still to register it. -/
  registrations : ℕ
  tickCount : ℕ
  requests : List Request

inductive Action
  /-- `live_source::start` up to its registration, with `EXCHANGE`. -/
  | start (exchange : Option String)
  /-- `switch_exchange` up to its registration. -/
  | switchExchange (exchangeType : LiveSource.ExchangeType)
  /-- `register_feed_instance` takes the mutex. -/
  | register (now : Moment)
  /-- `touch_feed_instance` takes the mutex, with a time that the clock can
  hold. -/
  | touch (tick : Moment)
  /-- `set_feed_status` takes the mutex, at the start or the end of a replay. -/
  | setFeedStatus (isReplaying : Bool) (now : Moment)
  /-- The next call of the holder of the mutex. -/
  | proceed (source : Source) (supply : Supply)
  | getStatus
  | health
  /-- The next query of a request, with the places of the rows in the order
  they are sent in. -/
  | query (request : ℕ) (order : List ℕ)
  /-- The connection to the database is lost, or there again. -/
  | setConnected (isConnected : Bool)
  /-- The server ends and is started again; the table is kept. -/
  | restart

def replayStatus (isReplaying : Bool) : String :=
  if isReplaying then "connected" else "disconnected"

section Steps

variable {Json : Type} [DecidableEq Json] (codec : Codec Json)
  (unset : ℤ) (mktime : Tm → ℤ) (printTime : ℕ → PrintedTime)
  {referenced : FeedInstanceColumn → Datum Json → Bool}

/-- What a source does with its mutex, unless it finds no connection. -/
def State.hold (state : State Json referenced) (source : Source)
    (phase : Phase) : State Json referenced :=
  if state.store.isConnected then
    { state with phases := Function.update state.phases source phase }
  else state

/-- The tick counter has 64 bits. -/
def State.touch (state : State Json referenced) (tick : Moment) :
    State Json referenced :=
  if state.store.isConnected = false then state
  else
    let tickCount := (state.tickCount + 1) % 2 ^ 64
    let state := { state with tickCount := tickCount }
    if tickCount % 50 ≠ 0 then state
    else
      state.hold .live (.updating
        (Source.live.announcement state.currentExchange "connected" tick))

/-- The calls of the adapter that the sources make. -/
def proceed (store : Store Json feedInstances referenced) (supply : Supply) :
    Phase → Phase × Store Json feedInstances referenced
  | .idle => (.idle, store)
  | .looking a =>
      match SAdapter.getFeedInstanceById codec unset mktime printTime store
          a.instanceId with
      | some _ => (.updating a, store)
      | none => (.creating a, store)
  | .updating a =>
      (.idle, (SAdapter.updateFeedInstance codec store a.feedInstance).2)
  | .creating a =>
      (.idle,
        (SAdapter.createFeedInstance codec store supply a.feedInstance).2)

/-- `feed_status = 'connected'`. -/
def isConnectedRow (row : Row FeedInstanceColumn Json) : Bool :=
  row .feedStatus = .text "connected"

/-- The queries of the requests. -/
def answer (store : Store Json feedInstances referenced)
    (rows : List (Row FeedInstanceColumn Json)) : Request → Request
  | .preferring =>
      let instances := SAdapter.getFeedInstances codec unset mktime printTime
        store isConnectedRow rows
      if instances.isEmpty then .fallingBack
      else .answered (handleGetStatus (statusOf instances))
  | .fallingBack =>
      .answered (handleGetStatus (statusOf (SAdapter.getFeedInstances codec
        unset mktime printTime store (fun _ => true) rows)))
  | .counting =>
      .answered ⟨200, .health "ok" "connected" (SAdapter.getFeedInstances codec
        unset mktime printTime store (fun _ => true) rows).length⟩
  | .answered reply => .answered reply

/-- The server before `live_source::start`. -/
def State.fresh (store : Store Json feedInstances referenced) :
    State Json referenced where
  store := store
  phases _ := .idle
  started := false
  currentExchange := "BINANCE"
  registrations := 0
  tickCount := 0
  requests := []

def step (state : State Json referenced) :
    Action → Option (State Json referenced)
  | .start exchange =>
      if state.started then none
      else
        some { state with
          started := true
          currentExchange := LiveSource.startExchange exchange
          registrations := state.registrations + 1 }
  | .switchExchange exchangeType =>
      if state.started then
        some { state with
          currentExchange := exchangeType.name
          registrations := state.registrations + 1 }
      else none
  | .register now =>
      if state.registrations = 0 ∨ (state.phases .live).isIdle = false then
        none
      else
        -- The parameter refers to the member, as it is by now.
        let next := { state with registrations := state.registrations - 1 }
        some (next.hold .live (.looking
          (Source.live.announcement state.currentExchange "connected" now)))
  | .touch tick =>
      if state.started = false ∨ (state.phases .live).isIdle = false then none
      else some (state.touch tick)
  | .setFeedStatus isReplaying now =>
      if (state.phases .backtest).isIdle then
        some (state.hold .backtest (.looking (Source.backtest.announcement
          "DATABASE" (replayStatus isReplaying) now)))
      else none
  | .proceed source supply =>
      if (state.phases source).isIdle then none
      else
        let next := proceed codec unset mktime printTime state.store supply
          (state.phases source)
        some { state with
          phases := Function.update state.phases source next.1
          store := next.2 }
  | .getStatus =>
      some { state with requests := state.requests ++
        [if state.store.isConnected then .preferring
        else .answered (handleGetStatus (some degraded))] }
  | .health =>
      some { state with requests := state.requests ++
        [if state.store.isConnected then .counting
        else .answered ⟨200, .health "degraded" "disconnected" 0⟩] }
  | .query request order =>
      match state.requests[request]? with
      | none | some (.answered _) => none
      | some asked =>
          let rows := state.store.table.rows
          if order.Perm (List.range rows.length) then
            let next := answer codec unset mktime printTime state.store
              (Registry.inOrder rows order) asked
            some { state with requests := state.requests.set request next }
          else none
  | .setConnected isConnected =>
      some { state with
        store := { state.store with isConnected := isConnected } }
  | .restart => some (.fresh state.store)

def machine (referenced : FeedInstanceColumn → Datum Json → Bool) :
    Machine (State Json referenced) Action where
  initial := .fresh (Store.empty Json feedInstances referenced)
  step := step codec unset mktime printTime

/-! ## The answers as a history -/

def instanceOf (row : Row FeedInstanceColumn Json) : String :=
  match row .instanceId with
  | .text id => id
  | _ => ""

/-- The exchange and the status of a row. -/
def readRow (row : Row FeedInstanceColumn Json) : Option (String × String) :=
  (decodeFeedInstance codec unset mktime printTime row).map fun feed =>
    (feed.exchange, feed.feedStatus)

/-- The sources of a table. -/
def entriesOf (store : Store Json feedInstances referenced) :
    String → Option (String × String) :=
  Registry.entries instanceOf (readRow codec unset mktime printTime)
    store.table.rows

/-- What is stored of an announcement. -/
def shown (a : Announcement) : String × String :=
  (escapedText a.exchange, escapedText a.feedStatus)

/-- What a call of a source finds and does. -/
def written (store : Store Json feedInstances referenced) (supply : Supply) :
    Phase → List (Registry.Event String (String × String))
  | .idle => []
  | .looking a =>
      match SAdapter.getFeedInstanceById codec unset mktime printTime store
          a.instanceId with
      | some feed => [.found feed.instanceId (feed.exchange, feed.feedStatus)]
      | none => [.missing (escapedText a.instanceId)]
  | .updating a =>
      if (SAdapter.updateFeedInstance codec store a.feedInstance).1 then
        [.remove (escapedText a.instanceId),
          .insert (escapedText a.instanceId) (shown a)]
      else if a.Storable then [.missing (escapedText a.instanceId)]
      else []
  | .creating a =>
      if (SAdapter.createFeedInstance codec store supply
          a.feedInstance).1.isSome then
        [.insert (escapedText a.instanceId) (shown a)]
      else if a.Storable then [.taken (escapedText a.instanceId)]
      else []

/-- What an answer says of the sources. -/
def observed : Request → List (Registry.Event String (String × String))
  | .answered ⟨200, .feed response⟩ =>
      [.found response.instanceId (response.exchange, response.status)]
  | .answered ⟨500, _⟩ => [.listed []]
  | _ => []

/-- What a query says of the sources; `/health` counts what it lists. -/
def queried (store : Store Json feedInstances referenced)
    (rows : List (Row FeedInstanceColumn Json)) :
    Request → List (Registry.Event String (String × String))
  | .counting =>
      [.listed ((SAdapter.getFeedInstances codec unset mktime printTime store
        (fun _ => true) rows).map fun feed =>
          (feed.instanceId, feed.exchange, feed.feedStatus))]
  | asked => observed (answer codec unset mktime printTime store rows asked)

def events (state : State Json referenced) (action : Action) :
    List (Registry.Event String (String × String)) :=
  if state.store.isConnected = false then []
  else
    match action with
    | .proceed source supply =>
        written codec unset mktime printTime state.store supply
          (state.phases source)
    | .query request order =>
        match state.requests[request]? with
        | none => []
        | some asked =>
            queried codec unset mktime printTime state.store
              (Registry.inOrder state.store.table.rows order) asked
    | _ => []

end Steps

/-! ## The rows of the sources -/

/-- What a source announces. -/
inductive Says : Source → Announcement → Prop
  | live (exchange : String) (time : Moment) :
      Says .live (Source.live.announcement exchange "connected" time)
  | backtest (isReplaying : Bool) (time : Moment) :
      Says .backtest (Source.backtest.announcement "DATABASE"
        (replayStatus isReplaying) time)

theorem Says.instanceId {source : Source} {a : Announcement}
    (htold : Says source a) : a.instanceId = source.instanceId := by
  cases htold with
  | live => rfl
  | backtest => rfl

theorem Says.lastTickAt {source : Source} {a : Announcement}
    (htold : Says source a) : a.lastTickAt < clockLimit := by
  cases htold with
  | live exchange time => exact time.2
  | backtest isReplaying time => exact time.2

theorem escapedText_instanceId (source : Source) :
    escapedText source.instanceId = source.instanceId := by
  cases source with
  | live => decide
  | backtest => decide

theorem Says.escaped {source : Source} {a : Announcement}
    (htold : Says source a) :
    escapedText a.instanceId = source.instanceId := by
  rw [htold.instanceId, escapedText_instanceId]

section Rows

variable {Json : Type} [DecidableEq Json] {codec : Codec Json}
  {unset : ℤ} {mktime : Tm → ℤ} {printTime : ℕ → PrintedTime}
  {referenced : FeedInstanceColumn → Datum Json → Bool}
  {store : Store Json feedInstances referenced} {source : Source}
  {a : Announcement}

/-- Every row was announced by a source, which has no other. -/
structure Kept (codec : Codec Json)
    (store : Store Json feedInstances referenced) : Prop where
  announced : ∀ row ∈ store.table.rows, ∃ source a, Says source a ∧
    a.Storable ∧ row = announcedRow codec a
  distinct : (store.table.rows.map instanceOf).Nodup

omit [DecidableEq Json] in
theorem instanceOf_announcedRow (hstorable : a.Storable) :
    instanceOf (announcedRow codec a) = escapedText a.instanceId := by
  rw [instanceOf, announcedRow_instanceId hstorable]

omit [DecidableEq Json] in
theorem decode_announcedRow (hiso : PrintsIso printTime)
    (htold : Says source a) (hstorable : a.Storable) :
    ∃ feed, decodeFeedInstance codec unset mktime printTime
        (announcedRow codec a) = some feed ∧
      feed.instanceId = escapedText a.instanceId ∧
      (feed.exchange, feed.feedStatus) = shown a := by
  obtain ⟨ms, hread⟩ := Option.isSome_iff_exists.mp
    ((isSome_stringToTimestamp_iff mktime _).mpr
      (hiso a.lastTickAt htold.lastTickAt))
  exact ⟨_, decodeFeedInstance_announcedRow hstorable hread, rfl, rfl⟩

omit [DecidableEq Json] in
theorem readRow_announcedRow (hiso : PrintsIso printTime)
    (htold : Says source a) (hstorable : a.Storable) :
    readRow codec unset mktime printTime (announcedRow codec a) =
      some (shown a) := by
  obtain ⟨feed, hdecode, -, hshown⟩ :=
    decode_announcedRow hiso htold hstorable
  rw [readRow, hdecode, Option.map_some, hshown]

theorem isConnectedRow_announcedRow (hstorable : a.Storable) :
    isConnectedRow (announcedRow codec a) = true ↔
      escapedText a.feedStatus = "connected" := by
  have hstored : announcedRow codec a .feedStatus =
      .text (escapedText a.feedStatus) :=
    stored_text trivial (hstorable.fits .feedStatus)
  rw [isConnectedRow, decide_eq_true_eq, hstored, Datum.text.injEq]

namespace Kept

omit [DecidableEq Json] in
theorem legible (hkept : Kept codec store) (hiso : PrintsIso printTime) :
    Registry.Legible instanceOf (readRow codec unset mktime printTime)
      store.table.rows where
  reads row hrow := by
    obtain ⟨source, a, htold, hstorable, rfl⟩ := hkept.announced row hrow
    rw [readRow_announcedRow hiso htold hstorable]
    rfl
  distinct := hkept.distinct

omit [DecidableEq Json] in
theorem instanceId_eq_iff (hkept : Kept codec store)
    {row : Row FeedInstanceColumn Json} (hrow : row ∈ store.table.rows)
    (id : String) : row .instanceId = .text id ↔ instanceOf row = id := by
  obtain ⟨source, a, -, hstorable, rfl⟩ := hkept.announced row hrow
  rw [announcedRow_instanceId hstorable, instanceOf_announcedRow hstorable,
    Datum.text.injEq]

theorem any_eq (hkept : Kept codec store) (hiso : PrintsIso printTime)
    (id : String) :
    (store.table.rows.any fun row => row .instanceId = .text id) =
      (entriesOf codec unset mktime printTime store id).isSome := by
  rw [Bool.eq_iff_iff, List.any_eq_true, entriesOf,
    (hkept.legible hiso).isSome_entries_iff]
  apply exists_congr
  intro row
  apply and_congr_right
  intro hrow
  rw [decide_eq_true_eq, hkept.instanceId_eq_iff hrow]

omit [DecidableEq Json] in
/-- A row is found as its entry. -/
theorem decode (hkept : Kept codec store) (hiso : PrintsIso printTime)
    {row : Row FeedInstanceColumn Json} (hrow : row ∈ store.table.rows) :
    ∃ feed, decodeFeedInstance codec unset mktime printTime row = some feed ∧
      feed.instanceId = instanceOf row ∧
      entriesOf codec unset mktime printTime store feed.instanceId =
        some (feed.exchange, feed.feedStatus) := by
  have hentry : entriesOf codec unset mktime printTime store
      (instanceOf row) = readRow codec unset mktime printTime row :=
    (hkept.legible hiso).entries_keyOf hrow
  obtain ⟨source, a, htold, hstorable, rfl⟩ := hkept.announced row hrow
  obtain ⟨feed, hdecode, hid, hshown⟩ :=
    decode_announcedRow hiso htold hstorable
  refine ⟨feed, hdecode, ?_, ?_⟩
  · rw [hid, instanceOf_announcedRow hstorable]
  · rw [hid, ← instanceOf_announcedRow hstorable, hentry,
      readRow_announcedRow hiso htold hstorable, hshown]

theorem find?_of_get (hopen : store.isConnected = true) {id : String}
    (hlength : (escapedText id).length ≤ 50) :
    SAdapter.getFeedInstanceById codec unset mktime printTime store id =
      (store.table.rows.find? fun row =>
        row .instanceId = .text (escapedText id)).bind
          (decodeFeedInstance codec unset mktime printTime) := by
  have hfits : Fits codec (feedInstances.sqlType .instanceId)
      (.text (escapedText id)) := fits_varchar hlength
  have hstore : Sql.store codec (feedInstances.sqlType .instanceId)
      (.text (escapedText id)) = some (.text (escapedText id)) := by
    rw [store_eq_stored hfits]
    exact congrArg some (stored_text trivial hfits)
  rw [SAdapter.getFeedInstanceById, Storage.getFeedInstanceById, getByText,
    if_neg (by rw [hopen]; decide), hstore, Option.bind_some]

/-- What is found is the entry of the key that was looked for. -/
theorem getFeedInstanceById (hkept : Kept codec store)
    (hiso : PrintsIso printTime) (hopen : store.isConnected = true)
    {id : String} (hlength : (escapedText id).length ≤ 50) :
    (SAdapter.getFeedInstanceById codec unset mktime printTime store id).map
        (fun feed => (feed.instanceId, feed.exchange, feed.feedStatus)) =
      (entriesOf codec unset mktime printTime store (escapedText id)).map
        fun value => (escapedText id, value) := by
  rw [find?_of_get hopen hlength]
  cases hfind : store.table.rows.find? fun row =>
      row .instanceId = .text (escapedText id) with
  | none =>
      have habsent : (store.table.rows.any fun row =>
          row .instanceId = .text (escapedText id)) = false :=
        List.any_eq_false.mpr fun row hrow =>
          List.find?_eq_none.mp hfind row hrow
      rw [hkept.any_eq hiso, Option.isSome_eq_false_iff,
        Option.isNone_iff_eq_none] at habsent
      rw [habsent]
      rfl
  | some row =>
      have hrow := List.mem_of_find?_eq_some hfind
      have hkey : instanceOf row = escapedText id := by
        have hfound := List.find?_some hfind
        rw [decide_eq_true_eq, hkept.instanceId_eq_iff hrow] at hfound
        exact hfound
      obtain ⟨feed, hdecode, hid, hentry⟩ := hkept.decode hiso hrow
      rw [hid, hkey] at hentry
      rw [Option.bind_some, hdecode, hentry, Option.map_some, Option.map_some,
        hid, hkey]

theorem updateFeedInstance (hkept : Kept codec store)
    (hiso : PrintsIso printTime) (hopen : store.isConnected = true)
    (htold : Says source a) (hstorable : a.Storable) :
    ∃ next, SAdapter.updateFeedInstance codec store a.feedInstance =
        ((entriesOf codec unset mktime printTime store
          (escapedText a.instanceId)).isSome, next) ∧
      next.isConnected = true ∧ Kept codec next ∧
      entriesOf codec unset mktime printTime next =
        if (entriesOf codec unset mktime printTime store
            (escapedText a.instanceId)).isSome then
          Function.update (entriesOf codec unset mktime printTime store)
            (escapedText a.instanceId) (some (shown a))
        else entriesOf codec unset mktime printTime store := by
  have hnamed : a.instanceId ≠ "" := by
    rw [htold.instanceId]
    cases source with
    | live => decide
    | backtest => decide
  obtain ⟨next, hupdate, hnext, hrows⟩ :=
    SAdapter.updateFeedInstance_of_storable hopen hnamed hstorable
  have hreplace : next.table.rows =
      Registry.replace instanceOf store.table.rows (announcedRow codec a) := by
    rw [hrows, Registry.replace]
    apply List.map_congr_left
    intro row hrow
    rw [instanceOf_announcedRow hstorable]
    simp only [hkept.instanceId_eq_iff hrow]
    split
    · next hsame =>
        obtain ⟨source, old, -, hold, rfl⟩ := hkept.announced row hrow
        apply namedRow_updateFeedInstance
        rw [announcedRow_instanceId hold, announcedRow_instanceId hstorable,
          ← hsame, instanceOf_announcedRow hold]
    · rfl
  have hread : readRow codec unset mktime printTime (announcedRow codec a) =
      some (shown a) := readRow_announcedRow hiso htold hstorable
  refine ⟨next, ?_, hnext, ⟨?_, ?_⟩, ?_⟩
  · rw [hupdate, hkept.any_eq hiso]
  · intro row hrow
    rw [hreplace] at hrow
    rcases Registry.mem_replace hrow with hmem | rfl
    · exact hkept.announced row hmem
    · exact ⟨source, a, htold, hstorable, rfl⟩
  · rw [hreplace, Registry.map_keyOf_replace]
    exact hkept.distinct
  · have hentries := (hkept.legible hiso).entries_replace hread
    rw [instanceOf_announcedRow hstorable, ← hreplace] at hentries
    exact hentries

/-- A source that is new to the table is its entry. -/
theorem createFeedInstance (hkept : Kept codec store)
    (hiso : PrintsIso printTime) (hopen : store.isConnected = true)
    (htold : Says source a) (hstorable : a.Storable)
    (hnew : entriesOf codec unset mktime printTime store
      (escapedText a.instanceId) = none) (supply : Supply) :
    ∃ next, SAdapter.createFeedInstance codec store supply a.feedInstance =
        (some a.feedInstance, next) ∧
      next.isConnected = true ∧ Kept codec next ∧
      entriesOf codec unset mktime printTime next =
        Function.update (entriesOf codec unset mktime printTime store)
          (escapedText a.instanceId) (some (shown a)) := by
  have habsent : ∀ row ∈ store.table.rows,
      instanceOf row ≠ escapedText a.instanceId :=
    (hkept.legible hiso).keyOf_ne hnew
  obtain ⟨next, hcreate, hnext, hrows⟩ :=
    SAdapter.createFeedInstance_of_storable hopen hstorable
      fun row hrow hsame =>
        habsent row hrow ((hkept.instanceId_eq_iff hrow _).mp hsame)
  have hread : readRow codec unset mktime printTime (announcedRow codec a) =
      some (shown a) := readRow_announcedRow hiso htold hstorable
  have hkey : instanceOf (announcedRow codec a) =
      escapedText a.instanceId := instanceOf_announcedRow hstorable
  rw [← hkey] at habsent
  refine ⟨next, hcreate, hnext, ⟨?_, ?_⟩, ?_⟩
  · intro row hrow
    rw [hrows] at hrow
    rcases List.mem_append.mp hrow with hmem | hnew
    · exact hkept.announced row hmem
    · exact ⟨source, a, htold, hstorable, List.mem_singleton.mp hnew⟩
  · have hlegible := Registry.legible_append (hkept.legible hiso)
      (Option.isSome_of_eq_some hread) habsent
    rw [hrows]
    exact hlegible.distinct
  · rw [entriesOf, hrows, ← hkey]
    exact Registry.entries_append hread habsent

theorem createFeedInstance_of_present (hkept : Kept codec store)
    (hiso : PrintsIso printTime)
    (hpresent : (entriesOf codec unset mktime printTime store
      (escapedText a.instanceId)).isSome = true) (supply : Supply) :
    SAdapter.createFeedInstance codec store supply a.feedInstance =
      (none, store) := by
  rw [← hkept.any_eq hiso, List.any_eq_true] at hpresent
  obtain ⟨row, hrow, hkey⟩ := hpresent
  exact SAdapter.createFeedInstance_of_refused
    (Or.inr (Or.inr ⟨row, hrow, of_decide_eq_true hkey⟩))

section Queries

variable {rows : List (Row FeedInstanceColumn Json)}

omit [DecidableEq Json] in
theorem getFeedInstances (hkept : Kept codec store)
    (hiso : PrintsIso printTime) (hopen : store.isConnected = true)
    (hrows : ∀ row ∈ rows, row ∈ store.table.rows)
    (condition : Row FeedInstanceColumn Json → Bool) :
    SAdapter.getFeedInstances codec unset mktime printTime store condition
        rows =
      (rows.filter condition).filterMap
        (decodeFeedInstance codec unset mktime printTime) := by
  rw [SAdapter.getFeedInstances, if_neg (by rw [hopen]; decide)]
  apply decodeRows_eq_filterMap
  intro row hrow
  have hlegible : Registry.Legible instanceOf
      (readRow codec unset mktime printTime) store.table.rows :=
    hkept.legible hiso
  have hread := hlegible.reads row (hrows row (List.mem_filter.mp hrow).1)
  rw [readRow, Option.isSome_map] at hread
  exact hread

omit [DecidableEq Json] in
/-- Whatever is read is an entry. -/
theorem entry_of_mem (hkept : Kept codec store) (hiso : PrintsIso printTime)
    (hopen : store.isConnected = true)
    (hrows : ∀ row ∈ rows, row ∈ store.table.rows)
    {condition : Row FeedInstanceColumn Json → Bool} {feed : FeedInstance}
    (hmem : feed ∈ SAdapter.getFeedInstances codec unset mktime printTime
      store condition rows) :
    entriesOf codec unset mktime printTime store feed.instanceId =
      some (feed.exchange, feed.feedStatus) := by
  rw [hkept.getFeedInstances hiso hopen hrows, List.mem_filterMap] at hmem
  obtain ⟨row, hrow, hread⟩ := hmem
  obtain ⟨other, hdecode, -, hentry⟩ :=
    hkept.decode hiso (hrows row (List.mem_filter.mp hrow).1)
  rw [hread, Option.some.injEq] at hdecode
  rw [hdecode]
  exact hentry

omit [DecidableEq Json] in
theorem lists (hkept : Kept codec store) (hiso : PrintsIso printTime)
    (hopen : store.isConnected = true) (hperm : rows.Perm store.table.rows) :
    Registry.Lists (entriesOf codec unset mktime printTime store)
      ((SAdapter.getFeedInstances codec unset mktime printTime store
        (fun _ => true) rows).map fun feed =>
          (feed.instanceId, feed.exchange, feed.feedStatus)) := by
  have hlegible : Registry.Legible instanceOf
      (readRow codec unset mktime printTime) store.table.rows :=
    hkept.legible hiso
  have hlists := Registry.lists_of_perm hlegible hperm
  rw [hkept.getFeedInstances hiso hopen fun row hrow => hperm.mem_iff.mp hrow,
    List.filter_true, List.map_filterMap]
  refine (congrArg _ ?_).mp hlists
  apply List.filterMap_congr
  intro row hrow
  obtain ⟨feed, hdecode, hid, -⟩ := hkept.decode hiso (hperm.mem_iff.mp hrow)
  rw [readRow, hdecode, ← hid]
  rfl

end Queries

end Kept

/-! ## One call and one query -/

/-- What holds of the announcement that the holder of a mutex is about. -/
def Phase.Holds (property : Announcement → Prop) : Phase → Prop
  | .idle => True
  | .looking a | .updating a | .creating a => property a

theorem proceed_of_closed (hclosed : store.isConnected = false)
    (supply : Supply) (phase : Phase) :
    (proceed codec unset mktime printTime store supply phase).2 = store := by
  cases phase with
  | idle => rfl
  | looking a =>
      rw [proceed]
      split
      · rfl
      · rfl
  | updating a =>
      rw [proceed, SAdapter.updateFeedInstance_of_refused (Or.inl hclosed)]
  | creating a =>
      rw [proceed, SAdapter.createFeedInstance_of_refused (Or.inl hclosed)]

omit [DecidableEq Json] in
theorem Says.storable_instanceId (htold : Says source a) :
    (escapedText a.instanceId).length ≤ 50 := by
  rw [htold.escaped]
  cases source with
  | live => decide
  | backtest => decide

/-- What a call finds and does is what the registry says. -/
theorem Kept.explained_proceed (hkept : Kept codec store)
    (hiso : PrintsIso printTime) (hopen : store.isConnected = true)
    (supply : Supply) {phase : Phase} (hholds : phase.Holds (Says source)) :
    (proceed codec unset mktime printTime store supply phase).2.isConnected =
        true ∧
      Kept codec
        (proceed codec unset mktime printTime store supply phase).2 ∧
      Registry.machine.run (entriesOf codec unset mktime printTime store)
          (written codec unset mktime printTime store supply phase) =
        some (entriesOf codec unset mktime printTime
          (proceed codec unset mktime printTime store supply phase).2) := by
  cases phase with
  | idle => exact ⟨hopen, hkept, rfl⟩
  | looking a =>
      have htold : Says source a := hholds
      have hfound : (SAdapter.getFeedInstanceById codec unset mktime printTime
          store a.instanceId).map (fun feed =>
            (feed.instanceId, feed.exchange, feed.feedStatus)) = _ :=
        hkept.getFeedInstanceById hiso hopen htold.storable_instanceId
      rw [proceed, written]
      cases hget : SAdapter.getFeedInstanceById codec unset mktime printTime
          store a.instanceId with
      | some feed =>
          rw [hget, Option.map_some, eq_comm, Option.map_eq_some_iff] at hfound
          obtain ⟨value, hentry, hsame⟩ := hfound
          obtain ⟨hid, hvalue⟩ := Prod.mk.inj hsame
          rw [hid, hvalue] at hentry
          exact ⟨hopen, hkept, Registry.run_event hentry⟩
      | none =>
          rw [hget, Option.map_none, eq_comm, Option.map_eq_none_iff] at hfound
          exact ⟨hopen, hkept, Registry.run_event hfound⟩
  | updating a =>
      have htold : Says source a := hholds
      by_cases hstorable : a.Storable
      · obtain ⟨next, hupdate, hstill, hnext, hentries⟩ :
            ∃ next, SAdapter.updateFeedInstance codec store a.feedInstance =
                ((entriesOf codec unset mktime printTime store
                  (escapedText a.instanceId)).isSome, next) ∧ _ :=
          hkept.updateFeedInstance hiso hopen htold hstorable
        simp only [proceed, written, hupdate, hentries, if_pos hstorable]
        refine ⟨hstill, hnext, ?_⟩
        split
        · next hpresent => exact Registry.run_renew hpresent (shown a)
        · next habsent =>
            exact Registry.run_event (Option.not_isSome_iff_eq_none.mp habsent)
      · simp only [proceed, written, if_neg hstorable,
          SAdapter.updateFeedInstance_of_refused (Or.inr hstorable)]
        exact ⟨hopen, hkept, rfl⟩
  | creating a =>
      have htold : Says source a := hholds
      by_cases hstorable : a.Storable
      · cases hentry : entriesOf codec unset mktime printTime store
            (escapedText a.instanceId) with
        | none =>
            obtain ⟨next, hcreate, hstill, hnext, hentries⟩ :=
              hkept.createFeedInstance hiso hopen htold hstorable hentry supply
            simp only [proceed, written, hcreate, hentries]
            exact ⟨hstill, hnext, Registry.run_event hentry⟩
        | some taken =>
            have hpresent := Option.isSome_of_eq_some hentry
            simp only [proceed, written, if_pos hstorable,
              hkept.createFeedInstance_of_present hiso hpresent]
            exact ⟨hopen, hkept, Registry.run_event hpresent⟩
      · simp only [proceed, written, if_neg hstorable,
          SAdapter.createFeedInstance_of_refused (Or.inr (Or.inl hstorable))]
        exact ⟨hopen, hkept, rfl⟩

omit [DecidableEq Json] in
theorem Kept.run_observed_statusOf (hkept : Kept codec store)
    (hiso : PrintsIso printTime) (hopen : store.isConnected = true)
    {rows : List (Row FeedInstanceColumn Json)}
    (hrows : ∀ row ∈ rows, row ∈ store.table.rows)
    {condition : Row FeedInstanceColumn Json → Bool} {feed : FeedInstance}
    {feeds : List FeedInstance}
    (hfeeds : SAdapter.getFeedInstances codec unset mktime printTime store
      condition rows = feed :: feeds) :
    Registry.machine.run (entriesOf codec unset mktime printTime store)
        (observed (.answered (handleGetStatus (statusOf (feed :: feeds))))) =
      some (entriesOf codec unset mktime printTime store) := by
  have hentry : entriesOf codec unset mktime printTime store
      feed.instanceId = some (feed.exchange, feed.feedStatus) :=
    hkept.entry_of_mem hiso hopen hrows (hfeeds ▸ List.mem_cons_self)
  simp only [statusOf, List.head?_cons, Option.map_some, handleGetStatus]
  split
  · rfl
  · exact Registry.run_event hentry

/-- What a query says is what the registry has. -/
theorem Kept.explained_query (hkept : Kept codec store)
    (hiso : PrintsIso printTime) (hopen : store.isConnected = true)
    {rows : List (Row FeedInstanceColumn Json)}
    (hperm : rows.Perm store.table.rows) {asked : Request}
    (hasked : ∀ reply, asked ≠ .answered reply) :
    Registry.machine.run (entriesOf codec unset mktime printTime store)
        (queried codec unset mktime printTime store rows asked) =
      some (entriesOf codec unset mktime printTime store) := by
  have hrows : ∀ row ∈ rows, row ∈ store.table.rows :=
    fun row hrow => hperm.mem_iff.mp hrow
  have hlists : Registry.Lists (entriesOf codec unset mktime printTime store)
      _ := hkept.lists hiso hopen hperm
  cases asked with
  | preferring =>
      simp only [queried, answer]
      cases hfeeds : SAdapter.getFeedInstances codec unset mktime printTime
          store isConnectedRow rows with
      | nil => rfl
      | cons feed feeds =>
          exact hkept.run_observed_statusOf hiso hopen hrows hfeeds
  | fallingBack =>
      simp only [queried, answer]
      cases hfeeds : SAdapter.getFeedInstances codec unset mktime printTime
          store (fun _ => true) rows with
      | nil =>
          rw [hfeeds] at hlists
          exact Registry.run_event hlists
      | cons feed feeds =>
          exact hkept.run_observed_statusOf hiso hopen hrows hfeeds
  | counting => exact Registry.run_event hlists
  | answered reply => exact absurd rfl (hasked reply)

end Rows

/-! ## The answers are a legal history -/

section Runs

variable {Json : Type} [DecidableEq Json] {codec : Codec Json}
  {unset : ℤ} {mktime : Tm → ℤ} {printTime : ℕ → PrintedTime}
  {referenced : FeedInstanceColumn → Datum Json → Bool}
  {state next : State Json referenced}

structure Invariant (codec : Codec Json) (state : State Json referenced) :
    Prop where
  kept : Kept codec state.store
  phases : ∀ source, (state.phases source).Holds (Says source)

omit [DecidableEq Json] in
theorem holds_update {phases : Source → Phase}
    (hphases : ∀ source, (phases source).Holds (Says source))
    {source : Source} {phase : Phase} (hphase : phase.Holds (Says source)) :
    ∀ other, (Function.update phases source phase other).Holds
      (Says other) := by
  intro other
  by_cases hsame : other = source
  · subst hsame
    rw [Function.update_self]
    exact hphase
  · rw [Function.update_of_ne hsame]
    exact hphases other

omit [DecidableEq Json] in
theorem Invariant.hold (hinvariant : Invariant codec state) {source : Source}
    {phase : Phase} (hphase : phase.Holds (Says source)) :
    Invariant codec (state.hold source phase) := by
  rw [State.hold]
  split
  · exact ⟨hinvariant.kept, holds_update hinvariant.phases hphase⟩
  · exact hinvariant

omit [DecidableEq Json] in
theorem Invariant.touch (hinvariant : Invariant codec state) (tick : Moment) :
    Invariant codec (state.touch tick) := by
  rw [State.touch]
  split
  · exact hinvariant
  · have hcounted : Invariant codec
        { state with tickCount := (state.tickCount + 1) % 2 ^ 64 } :=
      ⟨hinvariant.kept, hinvariant.phases⟩
    dsimp only
    split
    · exact hcounted
    · exact hcounted.hold (Says.live _ tick)

theorem holds_proceed {source : Source}
    {store : Store Json feedInstances referenced} {supply : Supply}
    {phase : Phase} (hphase : phase.Holds (Says source)) :
    (proceed codec unset mktime printTime store supply phase).1.Holds
      (Says source) := by
  cases phase with
  | looking a =>
      rw [proceed]
      split
      · exact hphase
      · exact hphase
  | _ => trivial

omit [DecidableEq Json] in
theorem hold_store (source : Source) (phase : Phase) :
    (state.hold source phase).store = state.store := by
  rw [State.hold]
  split
  · rfl
  · rfl

omit [DecidableEq Json] in
theorem touch_store (tick : Moment) :
    (state.touch tick).store = state.store := by
  rw [State.touch]
  split
  · rfl
  · dsimp only
    split
    · rfl
    · exact hold_store _ _

/-- An answer given while the connection is down says nothing. -/
theorem explained_step (hiso : PrintsIso printTime) {action : Action}
    (hinvariant : Invariant codec state)
    (hstep : step codec unset mktime printTime state action = some next) :
    Invariant codec next ∧
      Registry.machine.run
          (entriesOf codec unset mktime printTime state.store)
          (events codec unset mktime printTime state action) =
        some (entriesOf codec unset mktime printTime next.store) := by
  cases action with
  | start exchange =>
      simp only [step, Option.ite_none_left_eq_some, Option.some.injEq]
        at hstep
      obtain ⟨-, rfl⟩ := hstep
      exact ⟨⟨hinvariant.kept, hinvariant.phases⟩, by simp [events]⟩
  | switchExchange exchangeType =>
      simp only [step, Option.ite_none_right_eq_some, Option.some.injEq]
        at hstep
      obtain ⟨-, rfl⟩ := hstep
      exact ⟨⟨hinvariant.kept, hinvariant.phases⟩, by simp [events]⟩
  | register now =>
      simp only [step, Option.ite_none_left_eq_some, Option.some.injEq]
        at hstep
      obtain ⟨-, rfl⟩ := hstep
      have hcounted : Invariant codec
          { state with registrations := state.registrations - 1 } :=
        ⟨hinvariant.kept, hinvariant.phases⟩
      refine ⟨hcounted.hold (Says.live _ now), ?_⟩
      rw [hold_store]
      simp [events]
  | touch tick =>
      simp only [step, Option.ite_none_left_eq_some, Option.some.injEq]
        at hstep
      obtain ⟨-, rfl⟩ := hstep
      refine ⟨hinvariant.touch tick, ?_⟩
      rw [touch_store]
      simp [events]
  | setFeedStatus isReplaying now =>
      simp only [step, Option.ite_none_right_eq_some, Option.some.injEq]
        at hstep
      obtain ⟨-, rfl⟩ := hstep
      refine ⟨hinvariant.hold (Says.backtest isReplaying now), ?_⟩
      rw [hold_store]
      simp [events]
  | proceed source supply =>
      simp only [step, Option.ite_none_left_eq_some, Option.some.injEq]
        at hstep
      obtain ⟨-, rfl⟩ := hstep
      have hphases : ∀ other, (Function.update state.phases source
          (proceed codec unset mktime printTime state.store supply
            (state.phases source)).1 other).Holds (Says other) :=
        holds_update hinvariant.phases
          (holds_proceed (hinvariant.phases source))
      cases hopen : state.store.isConnected with
      | false =>
          rw [events, if_pos hopen, proceed_of_closed hopen]
          exact ⟨⟨hinvariant.kept, hphases⟩, rfl⟩
      | true =>
          rw [events, if_neg (by rw [hopen]; decide)]
          obtain ⟨-, hkept, hexplained⟩ := hinvariant.kept.explained_proceed hiso
            hopen supply (hinvariant.phases source)
          exact ⟨⟨hkept, hphases⟩, hexplained⟩
  | getStatus =>
      obtain rfl := Option.some.inj hstep
      exact ⟨⟨hinvariant.kept, hinvariant.phases⟩, by simp [events]⟩
  | health =>
      obtain rfl := Option.some.inj hstep
      exact ⟨⟨hinvariant.kept, hinvariant.phases⟩, by simp [events]⟩
  | query request order =>
      simp only [step] at hstep
      split at hstep
      · cases hstep
      · cases hstep
      · next asked hunanswered hasked =>
          rw [Option.ite_none_right_eq_some] at hstep
          obtain ⟨hevery, hstep⟩ := hstep
          obtain rfl := Option.some.inj hstep
          refine ⟨⟨hinvariant.kept, hinvariant.phases⟩, ?_⟩
          cases hopen : state.store.isConnected with
          | false =>
              rw [events, if_pos hopen]
              rfl
          | true =>
              rw [events, if_neg (by rw [hopen]; decide)]
              simp only [hasked]
              exact hinvariant.kept.explained_query hiso hopen
                (Registry.inOrder_perm hevery) hunanswered
  | setConnected isConnected =>
      obtain rfl := Option.some.inj hstep
      exact ⟨⟨⟨hinvariant.kept.announced, hinvariant.kept.distinct⟩,
        hinvariant.phases⟩, by simp [events, entriesOf]⟩
  | restart =>
      obtain rfl := Option.some.inj hstep
      exact ⟨⟨hinvariant.kept, fun _ => trivial⟩, by simp [events, State.fresh]⟩

variable (codec unset mktime referenced) in
/-- The sources and the requests refine a registry of the sources. -/
noncomputable def refinement (hiso : PrintsIso printTime) :
    Machine.Simulation (machine codec unset mktime printTime referenced)
      (Registry.machine : Machine (String → Option (String × String)) _) where
  invariant := Invariant codec
  abstraction state := entriesOf codec unset mktime printTime state.store
  events := events codec unset mktime printTime
  invariant_initial := by
    refine ⟨⟨?_, List.nodup_nil⟩, fun _ => trivial⟩
    simp [machine, State.fresh, Store.empty]
  invariant_step _ _ _ hinvariant hstep :=
    (explained_step hiso hinvariant hstep).1
  abstraction_initial := rfl
  matched _ _ _ hinvariant hstep := (explained_step hiso hinvariant hstep).2

/-- What the next answer of a request may be where these are the sources. -/
def Truthful (sources : String → Option (String × String)) : Request → Prop
  | .answered ⟨200, .feed response⟩ =>
      sources response.instanceId = some (response.exchange, response.status)
  | .answered ⟨_, .health _ _ feedInstances⟩ =>
      ∃ ids : List String, ids.Nodup ∧ ids.length = feedInstances ∧
        ∀ id, id ∈ ids ↔ (sources id).isSome = true
  | .answered ⟨_, .error _⟩ => ∀ id, sources id = none
  | .fallingBack =>
      ∀ id value, sources id = some value → value.2 ≠ "connected"
  | _ => True

omit [DecidableEq Json] in
theorem Kept.truthful_statusOf {store : Store Json feedInstances referenced}
    (hkept : Kept codec store)
    (hiso : PrintsIso printTime) (hopen : store.isConnected = true)
    {rows : List (Row FeedInstanceColumn Json)}
    (hrows : ∀ row ∈ rows, row ∈ store.table.rows)
    {condition : Row FeedInstanceColumn Json → Bool} {feed : FeedInstance}
    {feeds : List FeedInstance}
    (hfeeds : SAdapter.getFeedInstances codec unset mktime printTime store
      condition rows = feed :: feeds) :
    Truthful (entriesOf codec unset mktime printTime store)
      (.answered (handleGetStatus (statusOf (feed :: feeds)))) := by
  have hentry : entriesOf codec unset mktime printTime store
      feed.instanceId = some (feed.exchange, feed.feedStatus) :=
    hkept.entry_of_mem hiso hopen hrows (hfeeds ▸ List.mem_cons_self)
  simp only [statusOf, List.head?_cons, Option.map_some, handleGetStatus]
  split
  · trivial
  · exact hentry

omit [DecidableEq Json] in
theorem entries_of_lists_nil {entries : String → Option (String × String)}
    (hlists : Registry.Lists entries []) (id : String) :
    entries id = none := by
  cases hentry : entries id with
  | none => rfl
  | some value => cases (hlists.mem_iff id value).mpr hentry

/-- Only where no source is connected is there a second query. -/
theorem Kept.disconnected {store : Store Json feedInstances referenced}
    (hkept : Kept codec store) (hiso : PrintsIso printTime)
    (hopen : store.isConnected = true)
    {rows : List (Row FeedInstanceColumn Json)}
    (hperm : rows.Perm store.table.rows)
    (hnone : SAdapter.getFeedInstances codec unset mktime printTime store
      isConnectedRow rows = []) {id : String} {value : String × String}
    (hentry : entriesOf codec unset mktime printTime store id = some value) :
    value.2 ≠ "connected" := by
  intro hconnected
  obtain ⟨row, hrow, rfl⟩ := (hkept.legible hiso).isSome_entries_iff.mp
    (Option.isSome_of_eq_some hentry)
  rw [entriesOf, (hkept.legible hiso).entries_keyOf hrow] at hentry
  obtain ⟨source, a, htold, hstorable, rfl⟩ := hkept.announced row hrow
  rw [readRow_announcedRow hiso htold hstorable, Option.some.injEq] at hentry
  have hshown : escapedText a.feedStatus = "connected" := by
    rw [← hconnected, ← hentry]
    rfl
  have hselected : isConnectedRow (announcedRow codec a) = true :=
    (isConnectedRow_announcedRow hstorable).mpr hshown
  obtain ⟨feed, hdecode, -⟩ :=
    decode_announcedRow hiso htold hstorable
  rw [hkept.getFeedInstances hiso hopen fun row hrow => hperm.mem_iff.mp hrow]
    at hnone
  have hmem : feed ∈ (rows.filter isConnectedRow).filterMap
      (decodeFeedInstance codec unset mktime printTime) :=
    List.mem_filterMap.mpr ⟨announcedRow codec a,
      List.mem_filter.mpr ⟨hperm.mem_iff.mpr hrow, hselected⟩, hdecode⟩
  rw [hnone] at hmem
  cases hmem

theorem Kept.truthful {store : Store Json feedInstances referenced}
    (hkept : Kept codec store) (hiso : PrintsIso printTime)
    (hopen : store.isConnected = true)
    {rows : List (Row FeedInstanceColumn Json)}
    (hperm : rows.Perm store.table.rows) {asked : Request}
    (hasked : ∀ reply, asked ≠ .answered reply) :
    Truthful (entriesOf codec unset mktime printTime store)
      (answer codec unset mktime printTime store rows asked) := by
  have hrows : ∀ row ∈ rows, row ∈ store.table.rows :=
    fun row hrow => hperm.mem_iff.mp hrow
  have hlists : Registry.Lists (entriesOf codec unset mktime printTime store)
      _ := hkept.lists hiso hopen hperm
  cases asked with
  | preferring =>
      simp only [answer]
      cases hfeeds : SAdapter.getFeedInstances codec unset mktime printTime
          store isConnectedRow rows with
      | nil =>
          exact fun id value hentry =>
            hkept.disconnected hiso hopen hperm hfeeds hentry
      | cons feed feeds =>
          exact hkept.truthful_statusOf hiso hopen hrows hfeeds
  | fallingBack =>
      simp only [answer]
      cases hfeeds : SAdapter.getFeedInstances codec unset mktime printTime
          store (fun _ => true) rows with
      | nil =>
          rw [hfeeds] at hlists
          exact entries_of_lists_nil hlists
      | cons feed feeds =>
          exact hkept.truthful_statusOf hiso hopen hrows hfeeds
  | counting =>
      refine ⟨_, hlists.nodup, by simp, fun id => ?_⟩
      rw [List.mem_map, Option.isSome_iff_exists]
      constructor
      · rintro ⟨⟨_, value⟩, hmem, rfl⟩
        exact ⟨value, (hlists.mem_iff _ value).mp hmem⟩
      · rintro ⟨value, hentry⟩
        exact ⟨(id, value), (hlists.mem_iff id value).mpr hentry, rfl⟩
  | answered reply => exact absurd rfl (hasked reply)

/-- Whatever the sources write, and whenever the connection is lost: the
answers are those of a registry, and what is answered while there is a
connection is what the sources wrote last. -/
theorem feedStatus_refinesRegistry (hiso : PrintsIso printTime)
    {actions : List Action} {final : State Json referenced}
    (hrun : (machine codec unset mktime printTime referenced).run
      (machine codec unset mktime printTime referenced).initial actions =
        some final) :
    Registry.machine.run Registry.machine.initial
        ((refinement codec unset mktime referenced hiso).trace
          (machine codec unset mktime printTime referenced).initial
          actions) =
      some (entriesOf codec unset mktime printTime final.store) ∧
    ∀ asked order, (∀ reply, asked ≠ .answered reply) →
      order.Perm (List.range final.store.table.rows.length) →
      final.store.isConnected = true →
      Truthful
        (fun id => Registry.current id
          ((refinement codec unset mktime referenced hiso).trace
            (machine codec unset mktime printTime referenced).initial
            actions))
        (answer codec unset mktime printTime final.store
          (Registry.inOrder final.store.table.rows order) asked) := by
  have hlegal := (refinement codec unset mktime referenced
    hiso).run_trace_initial hrun
  have hinvariant := (refinement codec unset mktime referenced
    hiso).invariant_of_reachable ⟨actions, hrun⟩
  refine ⟨hlegal, fun asked order hasked hevery hopen => ?_⟩
  have hcurrent : (fun id => Registry.current id
      ((refinement codec unset mktime referenced hiso).trace
        (machine codec unset mktime printTime referenced).initial actions)) =
      entriesOf codec unset mktime printTime final.store :=
    funext fun id => (Registry.current_of_run hlegal id).symm
  rw [hcurrent]
  exact hinvariant.kept.truthful hiso hopen (Registry.inOrder_perm hevery)
    hasked

/-- A source that goes online, with a request after it. -/
def firstOnline : List Action :=
  [.start none, .register ⟨1700000100000, by decide⟩,
    .proceed .live Supply.first, .proceed .live Supply.first, .getStatus]

end Runs

/-- The answer to the request says what was written. -/
theorem feedStatus_refinesRegistry_online :
    ∃ final : State String fun _ _ => true,
      (machine plainCodec 0 (mktime utc) timestamptzText fun _ _ => true).run
        (machine plainCodec 0 (mktime utc) timestamptzText
          fun _ _ => true).initial firstOnline = some final ∧
      Registry.current "live-1"
        ((refinement plainCodec 0 (mktime utc) (fun _ _ => true)
          timestamptzText_printsIso).trace
            (machine plainCodec 0 (mktime utc) timestamptzText
              fun _ _ => true).initial firstOnline) =
        some ("BINANCE", "connected") := by
  have hrun : (machine plainCodec 0 (mktime utc) timestamptzText
      fun _ _ => true).run
        (machine plainCodec 0 (mktime utc) timestamptzText
          fun _ _ => true).initial firstOnline = some _ := rfl
  obtain ⟨-, htruthful⟩ :=
    feedStatus_refinesRegistry timestamptzText_printsIso hrun
  refine ⟨_, hrun, ?_⟩
  exact htruthful .preferring [0] (fun _ h => by cases h) (by decide) rfl

end Datafeed.Api.FeedStatus
