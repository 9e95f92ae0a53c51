import Datafeed.Api.PutThresholds
import Datafeed.Core.Simulation
import Datafeed.Storage.ClientRows
import Mathlib.Data.List.Find

/-!
# The routes of clients

Clients are made, read, listed and removed by four routes over the table of
clients.  What the routes answer is a legal history of a registry from tenants
to clients: a client that was made is found, in every spelling of its tenant,
until it is removed, with its texts up to a zero character.  The rows are listed
in whatever order the server sends them.
-/

namespace Datafeed.Server.Json

/-- `value(key, fallback)` of a text, which throws unless `j` is an object. -/
def valueOr (key fallback : String) : Json → Option String
  | .object members =>
      match (Json.object members).find? key with
      | none => some fallback
      | some member => member.getString
  | _ => none

end Datafeed.Server.Json

namespace Datafeed.Api.ClientRoutes

open PutThresholds (Moment)
open Sql Storage
open Server (Json)

/-! ## Requests and answers -/

/-- The members that a client is answered with. -/
structure ClientJson where
  tenantId : String
  clientName : String
  plan : String
  status : String
  createdAt : ℕ
  updatedAt : ℕ
  deriving DecidableEq

def clientJson (c : Client) : ClientJson :=
  ⟨c.tenantId, c.clientName, c.plan, c.status, c.createdAt, c.updatedAt⟩

inductive Body
  | client (json : ClientJson)
  | clients (jsons : List ClientJson)
  | error (text : String)
  /-- The text of an exception. -/
  | exception
  | empty
  deriving DecidableEq

structure Reply where
  status : ℕ
  body : Body
  deriving DecidableEq

/-- What the parser does with a body.  The text of its exception repeats a part
of the body, which need not be text that JSON can hold. -/
inductive Parsed
  | document (json : Json)
  | exception (printable : Bool)

inductive Call
  /-- With the places of the rows in the order they are sent in. -/
  | getClients (order : List ℕ)
  | getClientById (id : String)
  | createClient (body : String) (supply : Supply) (now : Moment)
  | deleteClient (id : String)

inductive Action
  | request (call : Call)
  /-- The connection to the database is lost, or there again. -/
  | setConnected (isConnected : Bool)

section Routes

variable {Json' : Type} [DecidableEq Json'] (codec : Codec Json')
  (isInet : String → Bool) (mktime : Tm → ℤ) (printTime : ℕ → PrintedTime)
  (parse : String → Parsed) {referenced : ClientColumn → Datum Json' → Bool}

namespace ClientService

def getClientById (store : Store Json' clients referenced) (tenantId : String) :
    Option Client :=
  if store.isConnected = false ∨ tenantId = "" then none
  else SAdapter.getClientById codec mktime printTime store tenantId

def getClients (store : Store Json' clients referenced)
    (rows : List (Row ClientColumn Json')) : List Client :=
  if store.isConnected = false then []
  else SAdapter.getClients codec mktime printTime store rows

/-- The tenant is made up by the database. -/
def createClient (store : Store Json' clients referenced) (supply : Supply)
    (now : ℕ) (clientDto : Client) :
    Option Client × Store Json' clients referenced :=
  if store.isConnected = false then (none, store)
  else SAdapter.createClient codec isInet mktime printTime store supply now
    clientDto

def deleteClient (store : Store Json' clients referenced) (tenantId : String) :
    Bool × Store Json' clients referenced :=
  if store.isConnected = false ∨ tenantId = "" then (false, store)
  else SAdapter.deleteClient codec store tenantId

end ClientService

/-- The members of a body; the others of a client are set later. -/
def readClient (body : Json) : Option Client := do
  let clientName ← body.valueOr "client_name" ""
  let plan ← body.valueOr "plan" "free"
  let status ← body.valueOr "status" "active"
  let authSubject ← body.member? Json.getString "auth_subject"
  let ipAddress ← body.member? Json.getString "ip_address"
  let userAgent ← body.member? Json.getString "user_agent"
  return ⟨"", clientName, plan, status, 0, 0, none, authSubject, ipAddress,
    userAgent⟩

/-- The handler of `POST`, without an answer where an exception leaves it. -/
def handleCreate (store : Store Json' clients referenced) (body : String)
    (supply : Supply) (now : ℕ) :
    Option Reply × Store Json' clients referenced :=
  match parse body with
  | .exception false => (none, store)
  | .exception true => (some ⟨400, .exception⟩, store)
  | .document json =>
      match readClient json with
      | none => (some ⟨400, .exception⟩, store)
      | some dto =>
          match ClientService.createClient codec isInet mktime printTime store
              supply now dto with
          | (none, next) =>
              (some ⟨500, .error "failed to create client"⟩, next)
          | (some created, next) =>
              (some ⟨201, .client (clientJson created)⟩, next)

/-- The rows as they are sent. -/
def sentRows (store : Store Json' clients referenced) (order : List ℕ) :
    List (Row ClientColumn Json') :=
  Registry.inOrder store.table.rows order

/-- The handlers of the four routes. -/
def handle (store : Store Json' clients referenced) :
    Call → Option Reply × Store Json' clients referenced
  | .getClients order =>
      (some ⟨200, .clients ((ClientService.getClients codec mktime printTime
        store (sentRows store order)).map clientJson)⟩, store)
  | .getClientById id =>
      match ClientService.getClientById codec mktime printTime store id with
      | none => (some ⟨404, .error "client not found"⟩, store)
      | some client => (some ⟨200, .client (clientJson client)⟩, store)
  | .createClient body supply now =>
      handleCreate codec isInet mktime printTime parse store body supply now.1
  | .deleteClient id =>
      let (ok, next) := ClientService.deleteClient codec store id
      (some (if ok then ⟨204, .empty⟩
        else ⟨404, .error "client not found"⟩), next)

structure State (Json' : Type)
    (referenced : ClientColumn → Datum Json' → Bool) where
  store : Store Json' clients referenced
  /-- An exception has left a handler. -/
  stopped : Bool

/-- Every row is sent once. -/
def Sent (store : Store Json' clients referenced) : Call → Prop
  | .getClients order => order.Perm (List.range store.table.rows.length)
  | _ => True

instance (store : Store Json' clients referenced) (call : Call) :
    Decidable (Sent store call) :=
  match call with
  | .getClients _ => inferInstanceAs (Decidable (List.Perm _ _))
  | .getClientById _ | .createClient _ _ _ | .deleteClient _ =>
      inferInstanceAs (Decidable True)

def step (state : State Json' referenced) (action : Action) :
    Option (State Json' referenced) :=
  if state.stopped then none
  else
    match action with
    | .setConnected isConnected =>
        some { state with
          store := { state.store with isConnected := isConnected } }
    | .request call =>
        if Sent state.store call then
          let answer := handle codec isInet mktime printTime parse state.store
            call
          some ⟨answer.2, answer.1.isNone⟩
        else none

def machine (referenced : ClientColumn → Datum Json' → Bool) :
    Machine (State Json' referenced) Action where
  initial := ⟨Store.empty Json' clients referenced, false⟩
  step := step codec isInet mktime printTime parse

/-! ## The answers as a history -/

/-- The tenant that the server reads from a path. -/
def tenantKey (id : String) : Option String := readUuid (escapedText id)

/-- A client as it is stored. -/
def ClientJson.escaped (json : ClientJson) : ClientJson :=
  { json with
    clientName := escapedText json.clientName
    plan := escapedText json.plan
    status := escapedText json.status }

open Classical in
/-- What an answer says about the clients, while the database is connected. -/
noncomputable def observed (isInet : String → Bool) (parse : String → Parsed) :
    Call → Option Reply → List (Registry.Event String ClientJson)
  | .getClients _, some ⟨200, .clients jsons⟩ =>
      [.listed (jsons.map fun json => (json.tenantId, json))]
  | .getClientById id, some ⟨200, .client json⟩ =>
      (tenantKey id).toList.map fun tenant => .found tenant json
  | .getClientById id, some ⟨404, _⟩ | .deleteClient id, some ⟨404, _⟩ =>
      (tenantKey id).toList.map .missing
  | .createClient _ _ _, some ⟨201, .client json⟩ =>
      [.insert json.tenantId json.escaped]
  | .createClient body supply _, some ⟨500, _⟩ =>
      if ∃ json dto, parse body = .document json ∧ readClient json = some dto ∧
          dto.Storable isInet then
        [.taken supply.uuid]
      else []
  | .deleteClient id, some ⟨204, _⟩ => (tenantKey id).toList.map .remove
  | _, _ => []

noncomputable def events (state : State Json' referenced) :
    Action → List (Registry.Event String ClientJson)
  | .setConnected _ => []
  | .request call =>
      if state.store.isConnected then
        observed isInet parse call
          (handle codec isInet mktime printTime parse state.store call).1
      else []

end Routes

/-! ## The rows as entries -/

section Entries

variable {Json' : Type} [DecidableEq Json'] {codec : Codec Json'}
  {isInet : String → Bool} {mktime : Tm → ℤ} {printTime : ℕ → PrintedTime}
  {parse : String → Parsed} {referenced : ClientColumn → Datum Json' → Bool}
  {store : Store Json' clients referenced}

/-- The text of the key of a row. -/
def tenantOf (row : Row ClientColumn Json') : String :=
  match row .tenantId with
  | .text tenant => tenant
  | _ => ""

def readRow (codec : Codec Json') (mktime : Tm → ℤ)
    (printTime : ℕ → PrintedTime) (row : Row ClientColumn Json') :
    Option ClientJson :=
  (SAdapter.decodeClient codec mktime printTime row).map clientJson

/-- The clients of a table. -/
def entriesOf (codec : Codec Json') (mktime : Tm → ℤ)
    (printTime : ℕ → PrintedTime) (store : Store Json' clients referenced) :
    String → Option ClientJson :=
  Registry.entries tenantOf (readRow codec mktime printTime) store.table.rows

/-- Every row can be read, and has a tenant of its own. -/
structure Kept (codec : Codec Json') (mktime : Tm → ℤ)
    (printTime : ℕ → PrintedTime) (store : Store Json' clients referenced) :
    Prop where
  legible : Registry.Legible tenantOf (readRow codec mktime printTime)
    store.table.rows
  texts : ∀ row ∈ store.table.rows, row .tenantId = .text (tenantOf row)

omit [DecidableEq Json'] in
theorem tenantId_of_decodeClient {row : Row ClientColumn Json'} {c : Client}
    (htext : row .tenantId = .text (tenantOf row))
    (hdecode : SAdapter.decodeClient codec mktime printTime row = some c) :
    c.tenantId = tenantOf row := by
  have htenant : (row .tenantId).asString codec = some (tenantOf row) := by
    rw [htext]
    rfl
  simp only [SAdapter.decodeClient, htenant, Option.bind_eq_bind,
    Option.bind_some, Option.bind_eq_some_iff, Option.pure_def,
    Option.some.injEq] at hdecode
  obtain ⟨_, -, _, -, _, -, _, -, _, -, _, -, _, -, _, -, _, -, rfl⟩ := hdecode
  rfl

omit [DecidableEq Json'] in
theorem store_tenant (id : String) :
    Sql.store codec .uuid (.text (escapedText id)) =
      (tenantKey id).map Datum.text := rfl

omit [DecidableEq Json'] in
theorem Kept.tenantId_eq_iff (hkept : Kept codec mktime printTime store)
    {row : Row ClientColumn Json'} (hrow : row ∈ store.table.rows)
    (tenant : String) :
    row .tenantId = .text tenant ↔ tenantOf row = tenant := by
  rw [hkept.texts row hrow, Datum.text.injEq]

theorem Kept.find?_tenant (hkept : Kept codec mktime printTime store)
    (tenant : String) :
    store.table.rows.find? (fun row => row .tenantId = .text tenant) =
      store.table.rows.find? fun row => tenantOf row = tenant := by
  apply List.find?_congr
  intro row hrow
  exact decide_eq_decide.mpr (hkept.tenantId_eq_iff hrow tenant)

theorem Kept.getClientById (hkept : Kept codec mktime printTime store)
    (hopen : store.isConnected = true) (id : String) :
    (SAdapter.getClientById codec mktime printTime store id).map clientJson =
      (tenantKey id).bind (entriesOf codec mktime printTime store) := by
  rw [SAdapter.getClientById, getByText, if_neg (by rw [hopen]; decide)]
  have hstore : Sql.store codec (clients.sqlType .tenantId)
      (.text (escapedText id)) = (tenantKey id).map Datum.text :=
    store_tenant id
  rw [hstore]
  cases tenantKey id with
  | none => rfl
  | some tenant =>
      simp only [Option.map_some, Option.bind_some, entriesOf,
        Registry.entries, hkept.find?_tenant]
      cases store.table.rows.find? fun row => tenantOf row = tenant with
      | none => rfl
      | some row => rfl

theorem deleteClient_of_none {id : String} (hkey : tenantKey id = none) :
    SAdapter.deleteClient codec store id = (false, store) := by
  rw [SAdapter.deleteClient, store_tenant, hkey]
  split
  · rfl
  · rfl

theorem Kept.deleteClient (hkept : Kept codec mktime printTime store)
    (hopen : store.isConnected = true) {id tenant : String} (hid : id ≠ "")
    (hkey : tenantKey id = some tenant) :
    ∃ next, SAdapter.deleteClient codec store id =
        ((entriesOf codec mktime printTime store tenant).isSome, next) ∧
      Kept codec mktime printTime next ∧
      entriesOf codec mktime printTime next =
        Function.update (entriesOf codec mktime printTime store) tenant
          none := by
  have hclosed : ¬(store.isConnected = false ∨ id = "") := by
    rw [hopen]
    simp [hid]
  have hrows : (store.table.rows.filter fun row =>
        row .tenantId ≠ .text tenant) =
      store.table.rows.filter fun row => tenantOf row ≠ tenant := by
    apply List.filter_congr
    intro row hrow
    exact decide_eq_decide.mpr
      (not_congr (hkept.tenantId_eq_iff hrow tenant))
  refine ⟨{ store with table :=
    SAdapter.removeTenant store.table (.text tenant) }, ?_, ?_, ?_⟩
  · rw [SAdapter.deleteClient, if_neg hclosed, store_tenant, hkey]
    have hpresent : (store.table.rows.any fun row =>
          row .tenantId = .text tenant) =
        (entriesOf codec mktime printTime store tenant).isSome := by
      rw [Bool.eq_iff_iff, List.any_eq_true, entriesOf,
        hkept.legible.isSome_entries_iff]
      apply exists_congr
      intro row
      apply and_congr_right
      intro hrow
      rw [decide_eq_true_eq, hkept.tenantId_eq_iff hrow tenant]
    simp only [Option.map_some, hpresent]
  · exact ⟨Registry.legible_filter hkept.legible _, fun row hrow =>
      hkept.texts row (List.mem_filter.mp hrow).1⟩
  · rw [entriesOf, entriesOf]
    exact (congrArg _ hrows).trans (Registry.entries_filter_ne _ _)

omit [DecidableEq Json'] in
/-- The clients that are sent, with their tenants. -/
theorem Kept.getClients (hkept : Kept codec mktime printTime store)
    (hopen : store.isConnected = true)
    {rows : List (Row ClientColumn Json')}
    (hrows : ∀ row ∈ rows, row ∈ store.table.rows) :
    (((SAdapter.getClients codec mktime printTime store rows).map
      clientJson).map fun json => (json.tenantId, json)) =
        rows.filterMap fun row =>
          (readRow codec mktime printTime row).map fun json =>
            (tenantOf row, json) := by
  rw [SAdapter.getClients, if_neg (by rw [hopen]; decide)]
  induction rows with
  | nil => rfl
  | cons row rows ih =>
      have hrow := hrows row List.mem_cons_self
      have hread := hkept.legible.reads row hrow
      rw [readRow, Option.isSome_map] at hread
      obtain ⟨c, hdecode⟩ := Option.isSome_iff_exists.mp hread
      have htenant := tenantId_of_decodeClient (hkept.texts row hrow) hdecode
      rw [decodeRows, hdecode]
      simp only [List.map_cons, List.filterMap_cons, readRow, hdecode,
        Option.map_some, clientJson, htenant]
      congr 1
      exact ih fun other hother => hrows other (List.mem_cons_of_mem _ hother)

/-- A client that is accepted is the entry of its new tenant. -/
theorem Kept.createClient (hkept : Kept codec mktime printTime store)
    (hopen : store.isConnected = true) {supply : Supply} {now ms : ℕ}
    {dto : Client} (hstorable : dto.Storable isInet)
    (hfresh : entriesOf codec mktime printTime store supply.uuid = none)
    (hread : stringToTimestamp mktime (printTime now).text = some ms) :
    ∃ created next, SAdapter.createClient codec isInet mktime printTime store
        supply now dto = (some created, next) ∧
      created.tenantId = supply.uuid ∧
      Kept codec mktime printTime next ∧
      entriesOf codec mktime printTime next =
        Function.update (entriesOf codec mktime printTime store) supply.uuid
          (some (clientJson created).escaped) := by
  have habsent : ∀ row ∈ store.table.rows, tenantOf row ≠ supply.uuid :=
    hkept.legible.keyOf_ne hfresh
  have hunused : ∀ row ∈ store.table.rows,
      row .tenantId ≠ .text supply.uuid :=
    fun row hrow hsame => habsent row hrow
      ((hkept.tenantId_eq_iff hrow _).mp hsame)
  obtain ⟨next, hcreate, -, hrows⟩ := SAdapter.createClient_of_storable
    hopen hstorable hunused hread
  have hdecode : SAdapter.decodeClient codec mktime printTime
      (clientRow codec supply now dto) = some _ :=
    decodeClient_clientRow hstorable hread supply
  have hvalue : readRow codec mktime printTime
      (clientRow codec supply now dto) =
        some (clientJson { dto with
          tenantId := supply.uuid
          createdAt := ms
          updatedAt := ms }).escaped := by
    rw [readRow, hdecode]
    rfl
  refine ⟨_, next, hcreate, rfl, ⟨?_, ?_⟩, ?_⟩
  · rw [hrows]
    exact Registry.legible_append hkept.legible (by rw [hvalue]; rfl) habsent
  · intro row hrow
    rw [hrows] at hrow
    rcases List.mem_append.mp hrow with hmem | hnew
    · exact hkept.texts row hmem
    · rw [List.mem_singleton.mp hnew]
      rfl
  · rw [entriesOf, hrows]
    exact Registry.entries_append hvalue habsent

/-! ## The answers are a legal history -/

/-- What one answer says is right, and the entries change as it says. -/
def Explained (codec : Codec Json') (isInet : String → Bool)
    (mktime : Tm → ℤ) (printTime : ℕ → PrintedTime)
    (parse : String → Parsed) (store : Store Json' clients referenced)
    (call : Call)
    (answer : Option Reply × Store Json' clients referenced) : Prop :=
  Kept codec mktime printTime answer.2 ∧
    Registry.machine.run (entriesOf codec mktime printTime store)
        (observed isInet parse call answer.1) =
      some (entriesOf codec mktime printTime answer.2)

theorem Kept.explained_getClients (hkept : Kept codec mktime printTime store)
    (hopen : store.isConnected = true) {order : List ℕ}
    (hsent : Sent store (.getClients order)) :
    Explained codec isInet mktime printTime parse store (.getClients order)
      (handle codec isInet mktime printTime parse store
        (.getClients order)) := by
  refine ⟨hkept, ?_⟩
  have hperm : (sentRows store order).Perm store.table.rows :=
    Registry.inOrder_perm hsent
  have hlists := Registry.lists_of_perm hkept.legible hperm
  have hentries := hkept.getClients hopen fun row hrow =>
    hperm.mem_iff.mp hrow
  rw [← hentries] at hlists
  have hservice : ClientService.getClients codec mktime printTime store
      (sentRows store order) =
        SAdapter.getClients codec mktime printTime store
          (sentRows store order) :=
    if_neg (by rw [hopen]; decide)
  simp only [handle, hservice, observed]
  exact Registry.run_event hlists

theorem tenantKey_empty : tenantKey "" = none := by decide

theorem Kept.service_getClientById
    (hkept : Kept codec mktime printTime store)
    (hopen : store.isConnected = true) (id : String) :
    (ClientService.getClientById codec mktime printTime store id).map
        clientJson =
      (tenantKey id).bind (entriesOf codec mktime printTime store) := by
  rw [ClientService.getClientById]
  by_cases hid : id = ""
  · rw [if_pos (Or.inr hid), hid, tenantKey_empty]
    rfl
  · rw [if_neg (by rw [hopen]; simp [hid]), hkept.getClientById hopen]

theorem Kept.explained_getClientById
    (hkept : Kept codec mktime printTime store)
    (hopen : store.isConnected = true) (id : String) :
    Explained codec isInet mktime printTime parse store (.getClientById id)
      (handle codec isInet mktime printTime parse store
        (.getClientById id)) := by
  have hfound := hkept.service_getClientById hopen id
  rw [handle]
  cases hclient : ClientService.getClientById codec mktime printTime store id
    with
  | none =>
      rw [hclient] at hfound
      refine ⟨hkept, ?_⟩
      cases hkey : tenantKey id with
      | none => simp [observed, hkey]
      | some tenant =>
          rw [hkey] at hfound
          simp only [observed, hkey, Option.toList_some, List.map_cons,
            List.map_nil]
          exact Registry.run_event hfound.symm
  | some client =>
      rw [hclient] at hfound
      refine ⟨hkept, ?_⟩
      cases hkey : tenantKey id with
      | none =>
          rw [hkey] at hfound
          cases hfound
      | some tenant =>
          rw [hkey] at hfound
          simp only [observed, hkey, Option.toList_some, List.map_cons,
            List.map_nil]
          exact Registry.run_event hfound.symm

theorem Kept.explained_deleteClient
    (hkept : Kept codec mktime printTime store)
    (hopen : store.isConnected = true) (id : String) :
    Explained codec isInet mktime printTime parse store (.deleteClient id)
      (handle codec isInet mktime printTime parse store
        (.deleteClient id)) := by
  rw [handle, ClientService.deleteClient]
  cases hkey : tenantKey id with
  | none =>
      rw [deleteClient_of_none hkey, ite_self]
      refine ⟨hkept, ?_⟩
      simp [observed, hkey]
  | some tenant =>
      have hid : id ≠ "" := by
        rintro rfl
        rw [tenantKey_empty] at hkey
        cases hkey
      obtain ⟨next, hdelete, hnext, hentries⟩ :=
        hkept.deleteClient hopen hid hkey
      rw [if_neg (by rw [hopen]; simp [hid]), hdelete]
      refine ⟨hnext, ?_⟩
      cases hentry : entriesOf codec mktime printTime store tenant with
      | none =>
          simp only [Option.isSome_none, Bool.false_eq_true, if_false,
            observed, hkey, Option.toList_some, List.map_cons, List.map_nil]
          rw [hentries, ← hentry, Function.update_eq_self]
          exact Registry.run_event hentry
      | some json =>
          simp only [Option.isSome_some, if_true, observed, hkey,
            Option.toList_some, List.map_cons, List.map_nil]
          rw [hentries]
          exact Registry.run_event (Option.isSome_of_eq_some hentry)

theorem Kept.explained_createClient (hiso : PrintsIso printTime)
    (hkept : Kept codec mktime printTime store)
    (hopen : store.isConnected = true) (body : String) (supply : Supply)
    (now : Moment) :
    Explained codec isInet mktime printTime parse store
      (.createClient body supply now)
      (handle codec isInet mktime printTime parse store
        (.createClient body supply now)) := by
  rw [handle, handleCreate]
  cases hparse : parse body with
  | exception printable =>
      cases printable with
      | false => exact ⟨hkept, rfl⟩
      | true => exact ⟨hkept, rfl⟩
  | document json =>
      cases hdto : readClient json with
      | none =>
          simp only [hdto]
          exact ⟨hkept, rfl⟩
      | some dto =>
          have hservice : ClientService.createClient codec isInet mktime
              printTime store supply now.1 dto =
                SAdapter.createClient codec isInet mktime printTime store
                  supply now.1 dto := if_neg (by rw [hopen]; decide)
          simp only [hdto, hservice]
          by_cases hstorable : dto.Storable isInet
          · cases hentry : entriesOf codec mktime printTime store
                supply.uuid with
            | none =>
                obtain ⟨ms, hread⟩ := Option.isSome_iff_exists.mp
                  ((isSome_stringToTimestamp_iff mktime _).mpr
                    (hiso now.1 now.2))
                obtain ⟨created, next, hcreate, htenant, hnext, hentries⟩ :=
                  hkept.createClient hopen hstorable hentry hread
                have hfresh : entriesOf codec mktime printTime store
                    created.tenantId = none := by
                  rw [htenant]
                  exact hentry
                rw [hcreate]
                refine ⟨hnext, ?_⟩
                rw [hentries, ← htenant]
                exact Registry.run_event hfresh
            | some taken =>
                obtain ⟨row, hrow, hkey⟩ :=
                  hkept.legible.isSome_entries_iff.mp
                    (Option.isSome_of_eq_some hentry)
                rw [SAdapter.createClient_of_refused (Or.inr (Or.inr
                  ⟨row, hrow, (hkept.tenantId_eq_iff hrow _).mpr hkey⟩))]
                refine ⟨hkept, ?_⟩
                simp only [observed]
                rw [if_pos ⟨json, dto, hparse, hdto, hstorable⟩]
                exact Registry.run_event (Option.isSome_of_eq_some hentry)
          · rw [SAdapter.createClient_of_refused (Or.inr (Or.inl hstorable))]
            refine ⟨hkept, ?_⟩
            simp only [observed]
            rw [if_neg]
            · rfl
            · rintro ⟨other, dto', hother, hdto', hstorable'⟩
              rw [hparse] at hother
              obtain rfl := Parsed.document.inj hother
              rw [hdto] at hdto'
              obtain rfl := Option.some.inj hdto'
              exact hstorable hstorable'

theorem Kept.explained (hiso : PrintsIso printTime)
    (hkept : Kept codec mktime printTime store)
    (hopen : store.isConnected = true) {call : Call}
    (hsent : Sent store call) :
    Explained codec isInet mktime printTime parse store call
      (handle codec isInet mktime printTime parse store call) := by
  cases call with
  | getClients order => exact hkept.explained_getClients hopen hsent
  | getClientById id => exact hkept.explained_getClientById hopen id
  | createClient body supply now =>
      exact hkept.explained_createClient hiso hopen body supply now
  | deleteClient id => exact hkept.explained_deleteClient hopen id

/-- Without a connection nothing changes. -/
theorem handle_of_closed (hclosed : store.isConnected = false) (call : Call) :
    (handle codec isInet mktime printTime parse store call).2 = store := by
  cases call with
  | getClients order => rfl
  | getClientById id =>
      rw [handle]
      split
      · rfl
      · rfl
  | createClient body supply now =>
      have hservice (dto : Client) : ClientService.createClient codec isInet
          mktime printTime store supply now.1 dto = (none, store) :=
        if_pos hclosed
      rw [handle, handleCreate]
      split
      · rfl
      · rfl
      · split
        · rfl
        · simp only [hservice]
  | deleteClient id =>
      rw [handle, ClientService.deleteClient, if_pos (Or.inl hclosed)]

/-- An answer given while the connection is down says nothing. -/
theorem explained_step (hiso : PrintsIso printTime)
    {state next : State Json' referenced} {action : Action}
    (hkept : Kept codec mktime printTime state.store)
    (hstep : step codec isInet mktime printTime parse state action =
      some next) :
    Kept codec mktime printTime next.store ∧
      Registry.machine.run (entriesOf codec mktime printTime state.store)
          (events codec isInet mktime printTime parse state action) =
        some (entriesOf codec mktime printTime next.store) := by
  unfold step at hstep
  split at hstep
  · cases hstep
  cases action with
  | setConnected isConnected =>
      obtain rfl := Option.some.inj hstep
      exact ⟨⟨hkept.legible, hkept.texts⟩, rfl⟩
  | request call =>
      rw [Option.ite_none_right_eq_some] at hstep
      obtain ⟨hsent, hstep⟩ := hstep
      obtain rfl := Option.some.inj hstep
      cases hopen : state.store.isConnected with
      | false =>
          rw [events, hopen, if_neg Bool.false_ne_true,
            handle_of_closed hopen]
          exact ⟨hkept, rfl⟩
      | true =>
          rw [events, hopen, if_pos rfl]
          exact hkept.explained hiso hopen hsent

variable (codec isInet mktime parse referenced) in
/-- The routes refine a registry from tenants to clients. -/
noncomputable def refinement (hiso : PrintsIso printTime) :
    Machine.Simulation
      (machine codec isInet mktime printTime parse referenced)
      (Registry.machine :
        Machine (String → Option ClientJson) _) where
  invariant state := Kept codec mktime printTime state.store
  abstraction state := entriesOf codec mktime printTime state.store
  events := events codec isInet mktime printTime parse
  invariant_initial := ⟨⟨by simp [machine, Store.empty], List.nodup_nil⟩,
    by simp [machine, Store.empty]⟩
  invariant_step _ _ _ hkept hstep := (explained_step hiso hkept hstep).1
  abstraction_initial := rfl
  matched _ _ _ hkept hstep := (explained_step hiso hkept hstep).2

theorem Kept.answers_iff (hkept : Kept codec mktime printTime store)
    (id : String) (json : ClientJson) :
    (handle codec isInet mktime printTime parse store
        (.getClientById id)).1 = some ⟨200, .client json⟩ ↔
      store.isConnected = true ∧ ∃ tenant ∈ tenantKey id,
        entriesOf codec mktime printTime store tenant = some json := by
  cases hopen : store.isConnected with
  | false =>
      rw [handle, ClientService.getClientById, if_pos (Or.inl hopen)]
      simp
  | true =>
      have hfound := hkept.service_getClientById hopen id
      rw [handle]
      cases hclient : ClientService.getClientById codec mktime printTime store
          id with
      | none =>
          rw [hclient, Option.map_none, eq_comm, Option.bind_eq_none_iff]
            at hfound
          simp only [Option.some.injEq, Reply.mk.injEq, reduceCtorEq,
            and_false, true_and, false_iff, not_exists, not_and]
          intro tenant htenant hentry
          rw [hfound tenant htenant] at hentry
          cases hentry
      | some client =>
          rw [hclient, Option.map_some, eq_comm, Option.bind_eq_some_iff]
            at hfound
          obtain ⟨tenant, htenant, hentry⟩ := hfound
          simp only [Option.some.injEq, Reply.mk.injEq, Body.client.injEq,
            true_and, Option.mem_def, htenant, exists_eq_left', hentry]

end Entries

/-! ## One client -/

def aliceBody : String := "\x7b\"client_name\":\"Alice\"\x7d"

def parseAlice (body : String) : Parsed :=
  if body = aliceBody then
    .document (.object [("client_name", .string "Alice")])
  else .exception true

def noon : Moment := ⟨1700000000000, by decide⟩

def alice : ClientJson :=
  ⟨Supply.first.uuid, "Alice", "free", "active", noon.1, noon.1⟩

/-- A client is made, and asked for in another spelling. -/
def aliceRequests : List Action :=
  [.request (.createClient aliceBody .first noon),
    .request (.getClientById "0A4C3F529B1D4E7A8C605D2E7F1B3A98")]

end Datafeed.Api.ClientRoutes
