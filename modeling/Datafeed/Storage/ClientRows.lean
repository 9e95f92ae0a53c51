import Datafeed.Core.Registry
import Datafeed.Core.SqlEscape
import Datafeed.Storage.Intervals

/-!
# The rows of clients

What the adapter does with the table of clients.  Its statements hold their
values as escaped texts, which end at a zero character, so a record can come
back with shorter texts than it was created with.  Columns without a value are
checked for in the optional fields alone.
-/

namespace Datafeed.Storage

open Sql
open SqlLexer (cString)

/-- What `txn.esc` passes on of a text. -/
def escapedText (text : String) : String := String.ofList (cString text.toList)

/-- The values that the statements on a client hold. -/
def Client.escaped (c : Client) : Client :=
  { c with
    clientName := escapedText c.clientName
    plan := escapedText c.plan
    status := escapedText c.status
    authSubject := c.authSubject.map escapedText
    ipAddress := c.ipAddress.map escapedText
    userAgent := c.userAgent.map escapedText }

section Adapter

variable {Json : Type} [DecidableEq Json] (codec : Codec Json)
  (isInet : String → Bool) (mktime : Tm → ℤ) (printTime : ℕ → PrintedTime)
  {referenced : ClientColumn → Datum Json → Bool}

namespace SAdapter

/-- The record that is passed in comes back, with what the server made up. -/
def createClient (store : Store Json clients referenced) (supply : Supply)
    (now : ℕ) (c : Client) : Option Client × Store Json clients referenced :=
  let (created, store) := Storage.createClient codec mktime isInet store supply
    ⟨now, (printTime now).text⟩ c.escaped
  (created.map fun created =>
    { c with
      tenantId := created.tenantId
      createdAt := created.createdAt
      updatedAt := created.updatedAt }, store)

def decodeClient (row : Row ClientColumn Json) : Option Client := do
  let tenantId ← (row .tenantId).asString codec
  let clientName ← (row .clientName).asString codec
  let plan ← (row .plan).asString codec
  let status ← (row .status).asString codec
  let createdAt ← readTimestamp mktime printTime (row .createdAt)
  let updatedAt ← readTimestamp mktime printTime (row .updatedAt)
  let lastSeenAt ←
    (row .lastSeenAt).optional (readTimestamp mktime printTime)
  let authSubject ← (row .authSubject).optional (Datum.asString codec)
  let ipAddress ← (row .ipAddress).optional (Datum.asString codec)
  let userAgent ← (row .userAgent).optional (Datum.asString codec)
  return ⟨tenantId, clientName, plan, status, createdAt, updatedAt, lastSeenAt,
    authSubject, ipAddress, userAgent⟩

def getClientById (store : Store Json clients referenced) (id : String) :
    Option Client :=
  getByText codec store .tenantId (.text (escapedText id))
    (decodeClient codec mktime printTime)

/-- `get_clients_by_condition` without a condition, with the rows in the order
that the server sends them in. -/
def getClients (store : Store Json clients referenced)
    (rows : List (Row ClientColumn Json)) : List Client :=
  if store.isConnected = false then []
  else decodeRows (decodeClient codec mktime printTime) rows

/-- The table without the rows of a tenant. -/
def removeTenant (table : Table Json clients referenced) (datum : Datum Json) :
    Table Json clients referenced where
  rows := table.rows.filter fun row => row .tenantId ≠ datum
  valid row hrow := table.valid row (List.mem_filter.mp hrow).1

def deleteClient (store : Store Json clients referenced) (id : String) :
    Bool × Store Json clients referenced :=
  if store.isConnected = false ∨ id = "" then (false, store)
  else
    match Sql.store codec .uuid (.text (escapedText id)) with
    | none => (false, store)
    | some datum =>
        (store.table.rows.any fun row => row .tenantId = datum,
          { store with table := removeTenant store.table datum })

end SAdapter

/-! ## Which clients are accepted -/

/-- The columns take the texts of a client, and the server its address. -/
structure Client.Storable (c : Client) : Prop where
  clientName : (escapedText c.clientName).length ≤ 255
  plan : (escapedText c.plan).length ≤ 50
  status : (escapedText c.status).length ≤ 20
  authSubject : ∀ text ∈ c.authSubject, (escapedText text).length ≤ 255
  ipAddress : ∀ text ∈ c.ipAddress, isInet (escapedText text) = true

end Adapter

theorem isStorableText_escapedText (text : String) :
    isStorableText (escapedText text) = true := by
  rw [isStorableText, escapedText, String.toList_ofList]
  simp only [Bool.not_eq_true', List.contains_eq_mem, decide_eq_false_iff_not]
  intro hmem
  have hother := List.mem_takeWhile_imp hmem
  simp [SqlLexer.terminator] at hother

/-! ## The row of a new client -/

section Rows

variable {Json : Type} [DecidableEq Json] {codec : Codec Json}
  {isInet : String → Bool} {mktime : Tm → ℤ} {printTime : ℕ → PrintedTime}
  {referenced : ClientColumn → Datum Json → Bool}

/-- The parameter that a client gives a column of its name. -/
def Client.field (now : ℕ) (c : Client) : ClientColumn → Param
  | .tenantId => .text c.tenantId
  | .clientName => .text c.clientName
  | .plan => .text c.plan
  | .status => .text c.status
  | .createdAt => .timestamp now
  | .updatedAt => .timestamp now
  | .lastSeenAt => appendOpt .timestamp c.lastSeenAt
  | .authSubject => appendOpt .text c.authSubject
  | .ipAddress => appendOpt .text c.ipAddress
  | .userAgent => appendOpt .text c.userAgent

theorem insertClient_aligned (time : ServerTime) (c : Client) :
    insertClient.Aligned (createClientParams time c) (c.field time.now) :=
  ⟨rfl, rfl⟩

def clientRow (codec : Codec Json) (supply : Supply) (now : ℕ) (c : Client) :
    Row ClientColumn Json :=
  namedRow codec clients insertClient.columns (c.escaped.field now)
    (defaultDatum clients supply)

omit [DecidableEq Json] in
theorem fits_varchar {length : ℕ} {text : String}
    (hlength : (escapedText text).length ≤ length) :
    Fits codec (.varchar length) (.text (escapedText text)) :=
  ⟨hlength, isStorableText_escapedText text⟩

omit [DecidableEq Json] in
theorem fits_optional {sqlType : SqlType} {field : Option String}
    (hfits : ∀ text ∈ field, Fits codec sqlType (.text (escapedText text))) :
    Fits codec sqlType (appendOpt .text (field.map escapedText)) := by
  cases field with
  | none => cases sqlType <;> trivial
  | some text => exact hfits text rfl

omit [DecidableEq Json] in
theorem Client.Storable.fits {c : Client} (hstorable : c.Storable isInet)
    (now : ℕ) {column : ClientColumn}
    (hlisted : column ∈ insertClient.columns) :
    Fits codec (clients.sqlType column) (c.escaped.field now column) := by
  cases column with
  | tenantId | lastSeenAt => exact absurd hlisted (by decide)
  | clientName => exact fits_varchar hstorable.clientName
  | plan => exact fits_varchar hstorable.plan
  | status => exact fits_varchar hstorable.status
  | createdAt | updatedAt => trivial
  | authSubject =>
      exact fits_optional fun text hmem =>
        fits_varchar (hstorable.authSubject text hmem)
  | ipAddress =>
      exact fits_optional fun text _ => isStorableText_escapedText text
  | userAgent =>
      exact fits_optional fun text _ => isStorableText_escapedText text

omit [DecidableEq Json] in
theorem clientRow_listed {supply : Supply} {now : ℕ} {c : Client}
    {column : ClientColumn} (hlisted : column ∈ insertClient.columns) :
    clientRow codec supply now c column =
      stored codec (clients.sqlType column) (c.escaped.field now column) := by
  rw [clientRow, namedRow, if_pos hlisted]

omit [DecidableEq Json] in
theorem Client.Storable.respects {c : Client} (hstorable : c.Storable isInet)
    (supply : Supply) (now : ℕ) :
    Respects clients referenced (clientRow codec supply now c) := by
  intro column _
  refine ⟨fun hnotNull => ?_, ?_, fun hreferences => by cases hreferences⟩
  · cases column with
    | tenantId => rfl
    | clientName =>
        rw [clientRow_listed (by decide)]
        have htext : stored codec (.varchar 255)
            (.text (escapedText c.clientName)) =
              .text (escapedText c.clientName) :=
          stored_text trivial (fits_varchar hstorable.clientName)
        exact congrArg Datum.isNull htext
    | createdAt | updatedAt => rfl
    | _ => cases hnotNull
  · rfl

omit [DecidableEq Json] in
/-- A table whose only key is one column takes a row with a new value there. -/
theorem respectsUnique_iff {Column : Type} {schema : Schema Column}
    {key : Column} (hkeys : schema.unique = [[key]])
    {rows : List (Row Column Json)} {new : Row Column Json}
    (hpresent : (new key).isNull = false) :
    RespectsUnique schema rows new ↔ ∀ row ∈ rows, row key ≠ new key := by
  constructor
  · intro hunique row hrow hsame
    obtain ⟨column, hcolumn, hcase⟩ :=
      hunique [key] (by rw [hkeys]; exact List.mem_singleton_self _) row hrow
    obtain rfl := List.mem_singleton.mp hcolumn
    rcases hcase with hother | hnull
    · exact hother hsame.symm
    · rw [hpresent] at hnull
      cases hnull
  · intro hfresh columns hcolumns row hrow
    rw [hkeys] at hcolumns
    obtain rfl := List.mem_singleton.mp hcolumns
    exact ⟨key, List.mem_singleton_self _,
      Or.inl fun hsame => hfresh row hrow hsame.symm⟩

omit [DecidableEq Json] in
theorem respectsUnique_clientRow {rows : List (Row ClientColumn Json)}
    {supply : Supply} {now : ℕ} {c : Client} :
    RespectsUnique clients rows (clientRow codec supply now c) ↔
      ∀ row ∈ rows, row .tenantId ≠ .text supply.uuid :=
  respectsUnique_iff rfl rfl

theorem execInsert_client {table : Table Json clients referenced}
    {supply : Supply} {time : ServerTime} {c : Client}
    (hstorable : c.Storable isInet)
    (hfresh : ∀ row ∈ table.rows, row .tenantId ≠ .text supply.uuid) :
    ∃ next, table.execInsert codec supply insertClient
        (createClientParams time c.escaped) =
          .ok (clientRow codec supply time.now c, next) ∧
      next.rows = table.rows ++ [clientRow codec supply time.now c] := by
  have haligned := insertClient_aligned time c.escaped
  have haccepted : Accepted codec clients (insertClient.columns.zip
      (insertClient.columns.map (c.escaped.field time.now))) :=
    accepted_of_fits fun column hlisted => hstorable.fits time.now hlisted
  have hcount : placeholderCount insertClient.placeholders =
      (createClientParams time c.escaped).length := by
    rw [insertClient, placeholderCount_upTo]
    rfl
  have hrow : boundRow codec clients (insertClient.columns.zip
      (insertClient.columns.map (c.escaped.field time.now)))
        (defaultDatum clients supply) = clientRow codec supply time.now c :=
    boundRow_zip_map _ _ _
  refine ⟨⟨table.rows ++ [clientRow codec supply time.now c], ?_⟩, ?_, rfl⟩
  · intro other hother
    rcases List.mem_append.mp hother with hmem | hnew
    · exact table.valid other hmem
    · rw [List.mem_singleton.mp hnew]
      exact hstorable.respects supply time.now
  · have hrespects : Respects clients referenced
        (clientRow codec supply time.now c) :=
      hstorable.respects supply time.now
    have hunique : RespectsUnique clients table.rows
        (clientRow codec supply time.now c) :=
      respectsUnique_clientRow.mpr hfresh
    rw [Table.execInsert]
    simp only [haligned.bindings_eq, hrow]
    rw [if_neg (by decide), if_neg (by decide), if_neg (not_not.mpr hcount),
      if_neg (not_not.mpr haccepted), dif_pos hrespects,
      if_neg (not_not.mpr hunique)]

omit [DecidableEq Json] in
theorem length_of_store_varchar {length : ℕ} {text : String}
    {datum : Datum Json}
    (hstore : Sql.store codec (.varchar length) (.text text) = some datum) :
    text.length ≤ length := by
  simp only [Sql.store, Option.ite_none_right_eq_some] at hstore
  exact hstore.1.1

/-- What the server accepts is storable, but for the address. -/
theorem storable_of_execInsert {table next : Table Json clients referenced}
    {supply : Supply} {time : ServerTime} {c : Client}
    {row : Row ClientColumn Json}
    (hexec : table.execInsert codec supply insertClient
      (createClientParams time c.escaped) = .ok (row, next))
    (haddress : ∀ text ∈ c.ipAddress, isInet (escapedText text) = true) :
    c.Storable isInet ∧
      ∀ other ∈ table.rows, other .tenantId ≠ .text supply.uuid := by
  have haligned := insertClient_aligned time c.escaped
  obtain ⟨hrow, -, -⟩ := Table.of_execInsert_ok hexec
  obtain ⟨-, hunique⟩ := Table.checks_of_execInsert_ok hexec
  have hstored := fun column (hlisted : column ∈ insertClient.columns) =>
    Table.store_of_execInsert_ok haligned hexec hlisted
  rw [haligned.bindings_eq, boundRow_zip_map] at hrow
  refine ⟨⟨?_, ?_, ?_, ?_, haddress⟩, ?_⟩
  · exact length_of_store_varchar (hstored .clientName (by decide))
  · exact length_of_store_varchar (hstored .plan (by decide))
  · exact length_of_store_varchar (hstored .status (by decide))
  · intro text hmem
    have hsubject := hstored .authSubject (by decide)
    have hfield : c.authSubject = some text := hmem
    simp only [Client.field, Client.escaped, hfield, Option.map_some,
      appendOpt] at hsubject
    exact length_of_store_varchar hsubject
  · have hclient : row = clientRow codec supply time.now c := hrow
    rw [hclient] at hunique
    exact respectsUnique_clientRow.mp hunique

/-! ## What is read of a client -/

omit [DecidableEq Json] in
/-- A new client is read as it was written. -/
theorem decodeClient_clientRow {c : Client} (hstorable : c.Storable isInet)
    {now ms : ℕ}
    (hread : stringToTimestamp mktime (printTime now).text = some ms)
    (supply : Supply) :
    SAdapter.decodeClient codec mktime printTime
        (clientRow codec supply now c) =
      some { c.escaped with
        tenantId := supply.uuid
        createdAt := ms
        updatedAt := ms
        lastSeenAt := none } := by
  have htext {column : ClientColumn} {text : String}
      (hlisted : column ∈ insertClient.columns)
      (htextual : (clients.sqlType column).IsTextual)
      (hfield : c.escaped.field now column = .text text) :
      (clientRow codec supply now c column).asString codec = some text := by
    rw [clientRow_listed hlisted, hfield]
    exact asString_stored htextual (hfield ▸ hstorable.fits now hlisted)
  have hoptional {column : ClientColumn} {text : Option String}
      (hlisted : column ∈ insertClient.columns)
      (htextual : (clients.sqlType column).IsTextual)
      (hfield : c.escaped.field now column = appendOpt .text text) :
      (clientRow codec supply now c column).optional (Datum.asString codec) =
        some text := by
    rw [clientRow_listed hlisted, hfield]
    exact optional_asString_stored htextual
      (hfield ▸ hstorable.fits now hlisted)
  have htenant : (clientRow codec supply now c .tenantId).asString codec =
      some supply.uuid := rfl
  have hname : (clientRow codec supply now c .clientName).asString codec =
      some c.escaped.clientName := htext (by decide) trivial rfl
  have hplan : (clientRow codec supply now c .plan).asString codec =
      some c.escaped.plan := htext (by decide) trivial rfl
  have hstatus : (clientRow codec supply now c .status).asString codec =
      some c.escaped.status := htext (by decide) trivial rfl
  have hcreated : readTimestamp mktime printTime
      (clientRow codec supply now c .createdAt) = some ms := hread
  have hupdated : readTimestamp mktime printTime
      (clientRow codec supply now c .updatedAt) = some ms := hread
  have hseen : (clientRow codec supply now c .lastSeenAt).optional
      (readTimestamp mktime printTime) = some none := rfl
  have hsubject : (clientRow codec supply now c .authSubject).optional
      (Datum.asString codec) = some c.escaped.authSubject :=
    hoptional (by decide) trivial rfl
  have haddress : (clientRow codec supply now c .ipAddress).optional
      (Datum.asString codec) = some c.escaped.ipAddress :=
    hoptional (by decide) trivial rfl
  have hagent : (clientRow codec supply now c .userAgent).optional
      (Datum.asString codec) = some c.escaped.userAgent :=
    hoptional (by decide) trivial rfl
  rw [SAdapter.decodeClient, htenant, hname, hplan, hstatus, hcreated,
    hupdated, hseen, hsubject, haddress, hagent]
  rfl

omit [DecidableEq Json] in
/-- What `create_client` reads after the commit. -/
theorem withClientKey_clientRow {c : Client} {now ms : ℕ}
    (hread : stringToTimestamp mktime (printTime now).text = some ms)
    (supply : Supply) :
    withClientKey codec mktime ⟨now, (printTime now).text⟩ c.escaped
        (clientRow codec supply now c) =
      some { c.escaped with
        tenantId := supply.uuid
        createdAt := ms
        updatedAt := ms } := by
  have htenant : (clientRow codec supply now c .tenantId).asString codec =
      some supply.uuid := rfl
  have htext {column : ClientColumn}
      (htime : clientRow codec supply now c column = .timestamp now) :
      (ServerTime.mk now (printTime now).text).asString
        (clientRow codec supply now c column) =
          some (printTime now).text := by
    rw [htime]
    rfl
  simp only [withClientKey, returnedField, clientReturning, List.mem_cons,
    true_or, or_true, if_true, Option.bind_eq_bind, Option.bind_some, htenant]
  rw [htext rfl, htext rfl]
  simp only [Option.bind_some, hread]
  rfl

/-! ## Creating a client -/

theorem badAddress_escaped_iff {c : Client} :
    BadAddress isInet c.escaped ↔
      ¬ ∀ text ∈ c.ipAddress, isInet (escapedText text) = true := by
  simp only [BadAddress, Client.escaped, Option.map_eq_some_iff, not_forall,
    Bool.not_eq_true, exists_prop]
  constructor
  · rintro ⟨address, ⟨text, htext, rfl⟩, hbad⟩
    exact ⟨text, htext, hbad⟩
  · rintro ⟨text, htext, hbad⟩
    exact ⟨_, ⟨text, htext, rfl⟩, hbad⟩

namespace SAdapter

theorem createClient_of_storable {store : Store Json clients referenced}
    {supply : Supply} {now ms : ℕ} {c : Client}
    (hopen : store.isConnected = true) (hstorable : c.Storable isInet)
    (hfresh : ∀ row ∈ store.table.rows, row .tenantId ≠ .text supply.uuid)
    (hread : stringToTimestamp mktime (printTime now).text = some ms) :
    ∃ next, createClient codec isInet mktime printTime store supply now c =
        (some { c with
          tenantId := supply.uuid
          createdAt := ms
          updatedAt := ms }, next) ∧
      next.isConnected = true ∧
      next.table.rows = store.table.rows ++ [clientRow codec supply now c] := by
  have haddress : ¬ BadAddress isInet c.escaped :=
    fun hbad => badAddress_escaped_iff.mp hbad hstorable.ipAddress
  obtain ⟨next, hexec, hrows⟩ :
      ∃ next, store.table.execInsert codec supply insertClient
          (createClientParams ⟨now, (printTime now).text⟩ c.escaped) =
            .ok (clientRow codec supply now c, next) ∧
        next.rows = store.table.rows ++ [clientRow codec supply now c] :=
    execInsert_client hstorable hfresh
  refine ⟨{ store with table := next }, ?_, hopen, hrows⟩
  have hcreated : Storage.createClient codec mktime isInet store supply
      ⟨now, (printTime now).text⟩ c.escaped =
        (some { c.escaped with
          tenantId := supply.uuid
          createdAt := ms
          updatedAt := ms }, { store with table := next }) := by
    rw [Storage.createClient, if_neg haddress, createByText,
      if_neg (by rw [hopen]; decide), hexec]
    simp only [withClientKey_clientRow hread]
  rw [createClient, hcreated]
  rfl

theorem createClient_of_refused {store : Store Json clients referenced}
    {supply : Supply} {now : ℕ} {c : Client}
    (hrefused : store.isConnected = false ∨ ¬ c.Storable isInet ∨
      ∃ row ∈ store.table.rows, row .tenantId = .text supply.uuid) :
    createClient codec isInet mktime printTime store supply now c =
      (none, store) := by
  have hcreated : Storage.createClient codec mktime isInet store supply
      ⟨now, (printTime now).text⟩ c.escaped = (none, store) := by
    rw [Storage.createClient]
    split
    · rfl
    · next haddress =>
        rw [createByText]
        split
        · rfl
        · next hopen =>
            split
            · rfl
            · next row table hexec =>
                have hinet : ∀ text ∈ c.ipAddress,
                    isInet (escapedText text) = true := by
                  by_contra hbad
                  exact haddress (badAddress_escaped_iff.mpr hbad)
                obtain ⟨hstorable, hfresh⟩ :=
                  storable_of_execInsert hexec hinet
                rcases hrefused with hclosed | hunstorable | ⟨row, hrow, hkey⟩
                · exact absurd hclosed hopen
                · exact absurd hstorable hunstorable
                · exact absurd hkey (hfresh row hrow)
  rw [createClient, hcreated]
  rfl

end SAdapter

end Rows

end Datafeed.Storage
