import Datafeed.Api.FeedStatus

/-!
# The status of a feed that stays connected

Sources write rows and replace them, and never delete one.  Once the live
source is in the table, and as long as the server runs and its connection is
kept, no status request falls back to sources that are not connected, and none
is answered with an error or as degraded.
-/

namespace Datafeed.Api.FeedStatus

open PutThresholds (Moment)
open Sql Storage

/-- The server runs on with its connection. -/
def Action.Steady : Action → Prop
  | .setConnected isConnected => isConnected = true
  | .restart => False
  | _ => True

/-- Where a request of a connected feed may stand. -/
def Request.Online : Request → Prop
  | .preferring | .counting => True
  | .answered ⟨status, .feed response⟩ =>
      status = 200 ∧ response.status = "connected" ∧
        ∃ source : Source, response.instanceId = source.instanceId
  | .answered ⟨status, .health health db feedInstances⟩ =>
      status = 200 ∧ health = "ok" ∧ db = "connected" ∧
        (feedInstances = 1 ∨ feedInstances = 2)
  | _ => False

section Store

variable {Json : Type} [DecidableEq Json] {codec : Codec Json}
  {unset : ℤ} {mktime : Tm → ℤ} {printTime : ℕ → PrintedTime}
  {referenced : FeedInstanceColumn → Datum Json → Bool}
  {store : Store Json feedInstances referenced}

namespace Kept

omit [DecidableEq Json] in
theorem exists_source (hkept : Kept codec store) (hiso : PrintsIso printTime)
    {id : String}
    (hpresent : (entriesOf codec unset mktime printTime store id).isSome =
      true) : ∃ source : Source, id = source.instanceId := by
  obtain ⟨row, hrow, rfl⟩ :=
    (hkept.legible hiso).isSome_entries_iff.mp hpresent
  obtain ⟨source, a, htold, hstorable, rfl⟩ := hkept.announced row hrow
  exact ⟨source, by rw [instanceOf_announcedRow hstorable, htold.escaped]⟩

omit [DecidableEq Json] in
/-- The live source never says that it is not connected. -/
theorem connected_of_live (hkept : Kept codec store)
    (hiso : PrintsIso printTime) {value : String × String}
    (hentry : entriesOf codec unset mktime printTime store "live-1" =
      some value) : value.2 = "connected" := by
  obtain ⟨row, hrow, hkey⟩ := (hkept.legible hiso).isSome_entries_iff.mp
    (Option.isSome_of_eq_some hentry)
  rw [entriesOf, ← hkey, (hkept.legible hiso).entries_keyOf hrow] at hentry
  obtain ⟨source, a, htold, hstorable, rfl⟩ := hkept.announced row hrow
  rw [instanceOf_announcedRow hstorable, htold.escaped] at hkey
  rw [readRow_announcedRow hiso htold hstorable, Option.some.injEq] at hentry
  cases htold with
  | live exchange time =>
      have hconnected : escapedText "connected" = "connected" := by decide
      rw [← hentry]
      exact hconnected
  | backtest isReplaying time => exact absurd hkey (by decide)

/-- What the preferring query returns is connected. -/
theorem connected_of_mem (hkept : Kept codec store)
    (hiso : PrintsIso printTime) (hopen : store.isConnected = true)
    {rows : List (Row FeedInstanceColumn Json)}
    (hrows : ∀ row ∈ rows, row ∈ store.table.rows) {feed : FeedInstance}
    (hmem : feed ∈ SAdapter.getFeedInstances codec unset mktime printTime
      store isConnectedRow rows) :
    feed.feedStatus = "connected" ∧
      ∃ source : Source, feed.instanceId = source.instanceId := by
  have hentry := hkept.entry_of_mem hiso hopen hrows hmem
  refine ⟨?_, hkept.exists_source hiso (Option.isSome_of_eq_some hentry)⟩
  rw [hkept.getFeedInstances hiso hopen hrows, List.mem_filterMap] at hmem
  obtain ⟨row, hrow, hread⟩ := hmem
  obtain ⟨hsent, hselected⟩ := List.mem_filter.mp hrow
  obtain ⟨source, a, htold, hstorable, rfl⟩ :=
    hkept.announced row (hrows row hsent)
  obtain ⟨other, hdecode, -, hshown⟩ := decode_announcedRow hiso htold hstorable
  rw [hread, Option.some.injEq] at hdecode
  rw [hdecode, (Prod.mk.inj hshown).2]
  exact (isConnectedRow_announcedRow hstorable).mp hselected

end Kept

/-- Sources are at most two. -/
theorem length_eq_one_or_two {ids : List String} (hnodup : ids.Nodup)
    (hlive : "live-1" ∈ ids)
    (hsources : ∀ id ∈ ids, ∃ source : Source, id = source.instanceId) :
    ids.length = 1 ∨ ids.length = 2 := by
  have hpositive : 0 < ids.length := List.length_pos_of_mem hlive
  have hsubset : ids ⊆ ["live-1", "backtest-1"] := by
    intro id hid
    obtain ⟨source, rfl⟩ := hsources id hid
    cases source with
    | live => decide
    | backtest => decide
  have hatMost : ids.length ≤ ["live-1", "backtest-1"].length :=
    (List.subperm_of_subset hnodup hsubset).length_le
  simp only [List.length_cons, List.length_nil] at hatMost
  omega

theorem Kept.online_answer (hkept : Kept codec store)
    (hiso : PrintsIso printTime) (hopen : store.isConnected = true)
    (hlive : (entriesOf codec unset mktime printTime store "live-1").isSome =
      true) {rows : List (Row FeedInstanceColumn Json)}
    (hperm : rows.Perm store.table.rows) {asked : Request}
    (honline : asked.Online) :
    (answer codec unset mktime printTime store rows asked).Online := by
  cases asked with
  | preferring =>
      simp only [answer]
      cases hfeeds : SAdapter.getFeedInstances codec unset mktime printTime
          store isConnectedRow rows with
      | nil =>
          obtain ⟨value, hvalue⟩ := Option.isSome_iff_exists.mp hlive
          exact absurd (hkept.connected_of_live hiso hvalue)
            (hkept.disconnected hiso hopen hperm hfeeds hvalue)
      | cons feed feeds =>
          obtain ⟨hstatus, hsource⟩ := hkept.connected_of_mem hiso hopen
            (fun row hrow => hperm.mem_iff.mp hrow)
            (hfeeds ▸ List.mem_cons_self)
          have hdegraded : feed.feedStatus ≠ "degraded" := by
            rw [hstatus]
            decide
          simp only [statusOf, List.head?_cons, Option.map_some,
            handleGetStatus, if_neg hdegraded]
          exact ⟨rfl, hstatus, hsource⟩
  | fallingBack => exact honline.elim
  | counting =>
      have htruthful : Truthful (entriesOf codec unset mktime printTime store)
          (answer codec unset mktime printTime store rows .counting) :=
        hkept.truthful hiso hopen hperm fun reply h => by cases h
      obtain ⟨ids, hnodup, hlength, hmem⟩ := htruthful
      refine ⟨rfl, rfl, rfl, ?_⟩
      rw [← hlength]
      exact length_eq_one_or_two hnodup ((hmem _).mpr hlive) fun id hid =>
        hkept.exists_source hiso ((hmem id).mp hid)
  | answered reply => exact honline

/-- What has a row keeps one. -/
theorem isSome_written (supply : Supply) (phase : Phase) {id : String}
    {entry : Option (String × String)} (hpresent : entry.isSome = true) :
    ((written codec unset mktime printTime store supply phase).foldl
      (Registry.entryAfter id) entry).isSome = true := by
  cases phase with
  | idle => exact hpresent
  | looking a =>
      rw [written]
      split
      · exact hpresent
      · exact hpresent
  | updating a =>
      simp only [written]
      split
      · simp only [List.foldl_cons, List.foldl_nil, Registry.entryAfter]
        split
        · rfl
        · exact hpresent
      · split
        · exact hpresent
        · exact hpresent
  | creating a =>
      simp only [written]
      split
      · simp only [List.foldl_cons, List.foldl_nil, Registry.entryAfter]
        split
        · rfl
        · exact hpresent
      · split
        · exact hpresent
        · exact hpresent

end Store

section Runs

variable {Json : Type} [DecidableEq Json] {codec : Codec Json}
  {unset : ℤ} {mktime : Tm → ℤ} {printTime : ℕ → PrintedTime}
  {referenced : FeedInstanceColumn → Datum Json → Bool}
  {earlier : ℕ} {state next : State Json referenced}

/-- All requests but the earlier ones are those of a connected feed. -/
structure Online (codec : Codec Json) (unset : ℤ) (mktime : Tm → ℤ)
    (printTime : ℕ → PrintedTime) (earlier : ℕ)
    (state : State Json referenced) : Prop where
  invariant : Invariant codec state
  isConnected : state.store.isConnected = true
  live : (entriesOf codec unset mktime printTime state.store "live-1").isSome =
    true
  asked : ∀ request ∈ state.requests.drop earlier, request.Online

theorem online_append {requests : List Request} {request : Request}
    (hasked : ∀ other ∈ requests.drop earlier, other.Online)
    (hnew : request.Online) :
    ∀ other ∈ (requests ++ [request]).drop earlier, other.Online := by
  intro other hother
  rw [List.drop_append] at hother
  rcases List.mem_append.mp hother with hold | hadded
  · exact hasked other hold
  · rw [List.mem_singleton.mp (List.mem_of_mem_drop hadded)]
    exact hnew

theorem online_set {requests : List Request} {place : ℕ}
    {request asked : Request} (hplace : requests[place]? = some asked)
    (hasked : ∀ other ∈ requests.drop earlier, other.Online)
    (hnew : asked.Online → request.Online) :
    ∀ other ∈ (requests.set place request).drop earlier, other.Online := by
  intro other hother
  rw [List.drop_set] at hother
  split at hother
  · exact hasked other hother
  · next hlater =>
      rcases List.mem_or_eq_of_mem_set hother with hold | rfl
      · exact hasked other hold
      · apply hnew (hasked asked (List.mem_iff_getElem?.mpr
          ⟨place - earlier, ?_⟩))
        rw [List.getElem?_drop, Nat.add_sub_cancel' (Nat.le_of_not_lt hlater),
          hplace]

omit [DecidableEq Json] in
/-- What changes neither the store nor the requests changes nothing here. -/
theorem Online.of_same (honline : Online codec unset mktime printTime earlier
      state) (hinvariant : Invariant codec next)
    (hstore : next.store = state.store)
    (hrequests : next.requests = state.requests) :
    Online codec unset mktime printTime earlier next where
  invariant := hinvariant
  isConnected := hstore ▸ honline.isConnected
  live := hstore ▸ honline.live
  asked := hrequests ▸ honline.asked

omit [DecidableEq Json] in
theorem hold_requests (source : Source) (phase : Phase) :
    (state.hold source phase).requests = state.requests := by
  rw [State.hold]
  split
  · rfl
  · rfl

omit [DecidableEq Json] in
theorem touch_requests (tick : Moment) :
    (state.touch tick).requests = state.requests := by
  rw [State.touch]
  split
  · rfl
  · dsimp only
    split
    · rfl
    · exact hold_requests _ _

theorem online_step (hiso : PrintsIso printTime) {action : Action}
    (honline : Online codec unset mktime printTime earlier state)
    (hsteady : action.Steady)
    (hstep : step codec unset mktime printTime state action = some next) :
    Online codec unset mktime printTime earlier next := by
  have hinvariant : Invariant codec next :=
    (explained_step hiso honline.invariant hstep).1
  cases action with
  | start exchange =>
      simp only [step, Option.ite_none_left_eq_some, Option.some.injEq]
        at hstep
      obtain ⟨-, rfl⟩ := hstep
      exact honline.of_same hinvariant rfl rfl
  | switchExchange exchangeType =>
      simp only [step, Option.ite_none_right_eq_some, Option.some.injEq]
        at hstep
      obtain ⟨-, rfl⟩ := hstep
      exact honline.of_same hinvariant rfl rfl
  | register now =>
      simp only [step, Option.ite_none_left_eq_some, Option.some.injEq]
        at hstep
      obtain ⟨-, rfl⟩ := hstep
      exact honline.of_same hinvariant (hold_store _ _) (hold_requests _ _)
  | touch tick =>
      simp only [step, Option.ite_none_left_eq_some, Option.some.injEq]
        at hstep
      obtain ⟨-, rfl⟩ := hstep
      exact honline.of_same hinvariant (touch_store _) (touch_requests _)
  | setFeedStatus isReplaying now =>
      simp only [step, Option.ite_none_right_eq_some, Option.some.injEq]
        at hstep
      obtain ⟨-, rfl⟩ := hstep
      exact honline.of_same hinvariant (hold_store _ _) (hold_requests _ _)
  | proceed source supply =>
      simp only [step, Option.ite_none_left_eq_some, Option.some.injEq]
        at hstep
      obtain ⟨-, rfl⟩ := hstep
      obtain ⟨hopen, -, hexplained⟩ :=
        honline.invariant.kept.explained_proceed hiso honline.isConnected
          supply (honline.invariant.phases source)
      refine ⟨hinvariant, hopen, ?_, honline.asked⟩
      rw [Registry.entry_of_run hexplained]
      exact isSome_written supply _ honline.live
  | getStatus =>
      obtain rfl := Option.some.inj hstep
      refine ⟨hinvariant, honline.isConnected, honline.live, ?_⟩
      rw [if_pos honline.isConnected]
      exact online_append honline.asked trivial
  | health =>
      obtain rfl := Option.some.inj hstep
      refine ⟨hinvariant, honline.isConnected, honline.live, ?_⟩
      rw [if_pos honline.isConnected]
      exact online_append honline.asked trivial
  | query request order =>
      simp only [step] at hstep
      split at hstep
      · cases hstep
      · cases hstep
      · next asked hunanswered hasked =>
          rw [Option.ite_none_right_eq_some] at hstep
          obtain ⟨hevery, hstep⟩ := hstep
          obtain rfl := Option.some.inj hstep
          exact ⟨hinvariant, honline.isConnected, honline.live,
            online_set hasked honline.asked fun h =>
              honline.invariant.kept.online_answer hiso honline.isConnected
                honline.live (Registry.inOrder_perm hevery) h⟩
  | setConnected isConnected =>
      have hopen : isConnected = true := hsteady
      obtain rfl := Option.some.inj hstep
      exact ⟨hinvariant, hopen, honline.live, honline.asked⟩
  | restart => exact hsteady.elim

/-- Requests that come after the live source was written. -/
theorem feedStatus_staysConnected (hiso : PrintsIso printTime)
    {actions later : List Action} {reached final : State Json referenced}
    (hreached : (machine codec unset mktime printTime referenced).run
      (machine codec unset mktime printTime referenced).initial actions =
        some reached)
    (hlive : (entriesOf codec unset mktime printTime reached.store
      "live-1").isSome = true)
    (hopen : reached.store.isConnected = true)
    (hsteady : ∀ action ∈ later, action.Steady)
    (hlater : (machine codec unset mktime printTime referenced).run reached
      later = some final) :
    ∀ request ∈ final.requests.drop reached.requests.length,
      request.Online := by
  have hinvariant : Invariant codec reached := (refinement codec unset mktime
    referenced hiso).invariant_of_reachable ⟨actions, hreached⟩
  have hstart : Online codec unset mktime printTime reached.requests.length
      reached := by
    refine ⟨hinvariant, hopen, hlive, ?_⟩
    rw [List.drop_length]
    exact fun request hrequest => absurd hrequest List.not_mem_nil
  have hpreserve : ∀ other action next,
      Online codec unset mktime printTime reached.requests.length other →
        Action.Steady action →
          (machine codec unset mktime printTime referenced).step other action =
            some next →
            Online codec unset mktime printTime reached.requests.length next :=
    fun _ _ _ honline hcondition hstep =>
      online_step hiso honline hcondition hstep
  have halong : (machine codec unset mktime printTime referenced).Along
      (fun _ action => action.Steady) reached later :=
    Machine.along_of_forall (fun action haction _ => hsteady action haction)
      reached
  exact (Machine.invariant_along hpreserve hstart halong hlater).asked

/-- A replay ends, and both questions are asked. -/
def afterReplay : List Action :=
  [.setFeedStatus false ⟨1700000200000, by decide⟩,
    .proceed .backtest Supply.first, .proceed .backtest Supply.first,
    .getStatus, .health, .query 1 [1, 0], .query 2 [0, 1]]

end Runs

/-- The replay that ended is the first row sent, and is not answered with. -/
theorem feedStatus_staysConnected_afterReplay :
    ∃ reached final : State String fun _ _ => true,
      (machine plainCodec 0 (mktime utc) timestamptzText fun _ _ => true).run
        (machine plainCodec 0 (mktime utc) timestamptzText
          fun _ _ => true).initial firstOnline = some reached ∧
      (machine plainCodec 0 (mktime utc) timestamptzText fun _ _ => true).run
        reached afterReplay = some final ∧
      final.requests.drop 1 =
        [.answered ⟨200, .feed ⟨"live-1", "BINANCE", "connected", 0⟩⟩,
          .answered ⟨200, .health "ok" "connected" 2⟩] ∧
      ∀ request ∈ final.requests.drop 1, request.Online := by
  have hreached : (machine plainCodec 0 (mktime utc) timestamptzText
      fun _ _ => true).run
        (machine plainCodec 0 (mktime utc) timestamptzText
          fun _ _ => true).initial firstOnline = some _ := rfl
  have hsteady : ∀ action ∈ afterReplay, action.Steady := by
    intro action haction
    simp only [afterReplay, List.mem_cons, List.not_mem_nil, or_false]
      at haction
    rcases haction with rfl | rfl | rfl | rfl | rfl | rfl | rfl
    all_goals trivial
  exact ⟨_, _, hreached, rfl, rfl, feedStatus_staysConnected
    timestamptzText_printsIso hreached rfl rfl hsteady rfl⟩

end Datafeed.Api.FeedStatus
