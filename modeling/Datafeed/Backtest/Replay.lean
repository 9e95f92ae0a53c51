import Datafeed.Core.Machine
import Datafeed.Core.Text
import Mathlib.Logic.Function.Basic

/-!
# Replaying a backtest

`start_replay` stops and destroys the adapter of the previous replay, creates
and configures a new one and spawns a detached thread, which calls `run` on
whatever `adapter_` then points to.  The calls are serialised by
`g_adapter_mutex`, each of their steps interleaves with those of the threads.
Replays are numbered in the order of their adapters.  A thread that has entered
`run` goes on when its adapter is destroyed: the row loop works on a result of
its own and does not look at `running_`.
-/

namespace Datafeed.Backtest

open Text

/-- What `query_historical_data` selects by. -/
structure Selection where
  symbols : List String
  startDate : String
  endDate : String
  timeframe : String
  deriving DecidableEq

structure DAdapter where
  selection : Selection
  running : Bool := false
  connected : Bool := false
  deriving DecidableEq

def DAdapter.stop (adapter : DAdapter) : DAdapter :=
  { adapter with running := false, connected := false }

/-- The selection that `start_replay` configures. -/
def selection (dateRange : String) (symbols : List String)
    (timeframe : String) : Selection where
  symbols :=
    if symbols = [] then ["BTCUSDT", "ETHUSDT", "SOLUSDT"] else symbols
  startDate :=
    match find "," dateRange with
    | some comma => substr dateRange 0 comma
    | none => dateRange
  endDate :=
    match find "," dateRange with
    | some comma => substr dateRange (comma + 1) dateRange.toList.length
    | none => dateRange
  timeframe := timeframe

/-- Where the thread of a replay stands; the number is that of the adapter it
has found in `adapter_`. -/
inductive Stage (Row : Type)
  | unspawned
  | spawned
  | entered (adapter : ℕ)
  | connected (adapter : ℕ)
  /-- `running_` is set, the loop is to be entered. -/
  | looping (adapter : ℕ)
  | querying (adapter : ℕ)
  /-- In the row loop. -/
  | rows (adapter : ℕ) (left : List Row)
  | returned (adapter : ℕ)
  /-- The completion has been broadcast. -/
  | finished (adapter : ℕ)
  /-- `adapter_` was null. -/
  | crashed
  deriving DecidableEq

/-- The step of `start_replay` or `stop_replay` that comes next. -/
inductive Control
  | idle
  /-- `adapter_.reset()`, for a new replay or for `stop_replay` alone. -/
  | resetting (next : Option Selection)
  | creating (next : Selection)
  | spawning (replay : ℕ)
  deriving DecidableEq

/-- A row passed to `broadcast_to_topic`, with the replay whose thread passed
it, the adapter it was read through, and how many replays had been superseded
by the return of a later call. -/
structure Delivery (Row : Type) where
  replay : ℕ
  adapter : ℕ
  row : Row
  superseded : ℕ
  deriving DecidableEq

structure State (Row : Type) where
  adapter : Option ℕ := none
  adapters : List DAdapter := []
  stage : ℕ → Stage Row := fun _ => .unspawned
  control : Control := .idle
  superseded : ℕ := 0
  /-- The replays whose threads have entered `run`, with the adapter each of
  them runs. -/
  runs : List (ℕ × ℕ) := []
  delivered : List (Delivery Row) := []

inductive Action
  /-- `stop_replay` up to `adapter_->stop()`. -/
  | stopReplay
  /-- `start_replay` up to `adapter_->stop()`. -/
  | startReplay (dateRange : String) (symbols : List String)
      (timeframe : String)
  | reset
  | create
  | spawn (failed : Bool)
  /-- The thread evaluates `adapter_` and enters `run`. -/
  | enter (replay : ℕ)
  | connect (replay : ℕ) (failed : Bool)
  | setRunning (replay : ℕ)
  | checkRunning (replay : ℕ)
  | query (replay : ℕ)
  /-- One round of the row loop. -/
  | row (replay : ℕ)
  /-- The end of the row loop, or a conversion that throws. -/
  | leave (replay : ℕ)
  | complete (replay : ℕ)
  deriving DecidableEq

variable {Row : Type}

namespace State

def setStage (replay : ℕ) (stage : Stage Row) (state : State Row) : State Row :=
  { state with stage := Function.update state.stage replay stage }

def modifyAdapter (adapter : ℕ) (update : DAdapter → DAdapter)
    (state : State Row) : State Row :=
  { state with adapters := state.adapters.modify adapter update }

/-- `if (adapter_) adapter_->stop()`. -/
def stopAdapter (state : State Row) : State Row :=
  match state.adapter with
  | some adapter => state.modifyAdapter adapter DAdapter.stop
  | none => state

/-- The value of a flag of an adapter. -/
def flag (read : DAdapter → Bool) (adapter : ℕ) (state : State Row) : Bool :=
  (state.adapters[adapter]?.map read).getD false

/-- The result of the query of an adapter; a failed one gives no rows. -/
def select (market : Selection → List Row) (adapter : ℕ) (state : State Row) :
    List Row :=
  match state.adapters[adapter]? with
  | some found => if found.connected then market found.selection else []
  | none => []

end State

/-- The steps of one call of `start_replay` or `stop_replay`. -/
def callStep (state : State Row) : Action → Option (State Row)
  | .stopReplay =>
      if state.control = .idle then
        some { state.stopAdapter with control := .resetting none }
      else none
  | .startReplay dateRange symbols timeframe =>
      if state.control = .idle then
        some
          { state.stopAdapter with
            control :=
              .resetting (some (selection dateRange symbols timeframe)) }
      else none
  | .reset =>
      match state.control with
      | .resetting none =>
          some
            { state.stopAdapter with
              adapter := none
              control := .idle
              superseded := state.adapters.length }
      | .resetting (some next) =>
          some
            { state.stopAdapter with
              adapter := none
              control := .creating next }
      | _ => none
  | .create =>
      match state.control with
      | .creating next =>
          some
            { state with
              adapter := some state.adapters.length
              adapters := state.adapters ++ [{ selection := next }]
              control := .spawning state.adapters.length }
      | _ => none
  | .spawn failed =>
      match state.control with
      | .spawning replay =>
          some
            { state with
              stage :=
                if failed then state.stage
                else Function.update state.stage replay .spawned
              control := .idle
              superseded := replay }
      | _ => none
  | _ => none

/-- The steps of the thread of a replay. -/
def threadStep (market : Selection → List Row) (state : State Row) :
    Action → Option (State Row)
  | .enter replay =>
      match state.stage replay, state.adapter with
      | .spawned, some adapter =>
          some
            { state.setStage replay (.entered adapter) with
              runs := state.runs ++ [(replay, adapter)] }
      | .spawned, none => some (state.setStage replay .crashed)
      | _, _ => none
  | .connect replay failed =>
      match state.stage replay with
      | .entered adapter =>
          if failed then some (state.setStage replay (.returned adapter))
          else
            some ((state.modifyAdapter adapter fun found =>
              { found with connected := true }).setStage replay
                (.connected adapter))
      | _ => none
  | .setRunning replay =>
      match state.stage replay with
      | .connected adapter =>
          some ((state.modifyAdapter adapter fun found =>
            { found with running := true }).setStage replay (.looping adapter))
      | _ => none
  | .checkRunning replay =>
      match state.stage replay with
      | .looping adapter =>
          if state.flag DAdapter.running adapter then
            some (state.setStage replay (.querying adapter))
          else some (state.setStage replay (.returned adapter))
      | _ => none
  | .query replay =>
      match state.stage replay with
      | .querying adapter =>
          some (state.setStage replay
            (.rows adapter (state.select market adapter)))
      | _ => none
  | .row replay =>
      match state.stage replay with
      | .rows adapter (row :: left) =>
          some
            { state.setStage replay (.rows adapter left) with
              delivered := state.delivered ++
                [⟨replay, adapter, row, state.superseded⟩] }
      | _ => none
  | .leave replay =>
      match state.stage replay with
      | .rows adapter _ => some (state.setStage replay (.returned adapter))
      | _ => none
  | .complete replay =>
      match state.stage replay with
      | .returned adapter => some (state.setStage replay (.finished adapter))
      | _ => none
  | _ => none

def machine (market : Selection → List Row) : Machine (State Row) Action where
  initial := {}
  step state action :=
    match action with
    | .stopReplay | .startReplay _ _ _ | .reset | .create | .spawn _ =>
        callStep state action
    | _ => threadStep market state action

/-! ## What is to hold, and when it does -/

namespace Stage

/-- The adapter that the thread has found. -/
def adapter : Stage Row → Option ℕ
  | entered adapter | connected adapter | looping adapter | querying adapter
  | rows adapter _ | returned adapter | finished adapter => some adapter
  | unspawned | spawned | crashed => none

/-- There is no thread, or it has passed its last row. -/
def Over : Stage Row → Prop
  | unspawned | rows _ [] | returned _ | finished _ => True
  | _ => False

end Stage

/-- No row of a superseded replay is passed on; and each thread runs the adapter
of its own replay, every adapter being run at most once. -/
structure Separate (state : State Row) : Prop where
  current : ∀ delivery ∈ state.delivered, delivery.superseded ≤ delivery.replay
  own : ∀ run ∈ state.runs, run.2 = run.1
  once : (state.runs.map Prod.snd).Nodup
  found : ∀ replay, state.stage replay ≠ .crashed

/-- A call starts when every earlier replay has passed its last row. -/
def CallsAfterReplays (state : State Row) : Action → Prop
  | .stopReplay | .startReplay _ _ _ => ∀ replay, (state.stage replay).Over
  | _ => True

structure Invariant (state : State Row) : Prop where
  separate : Separate state
  adapter : ∀ replay adapter,
    (state.stage replay).adapter = some adapter → adapter = replay
  /-- A replay that is not over is the current one, and no call is running. -/
  active : ∀ replay, ¬ (state.stage replay).Over →
    state.control = .idle ∧ state.adapter = some replay ∧
      state.superseded ≤ replay
  fresh : ∀ replay, state.control = .spawning replay →
    state.stage replay = .unspawned ∧ state.adapter = some replay ∧
      replay < state.adapters.length
  unspawned : ∀ replay, state.adapters.length ≤ replay →
    state.stage replay = .unspawned
  notRun : ∀ replay,
    state.stage replay = .unspawned ∨ state.stage replay = .spawned →
      replay ∉ state.runs.map Prod.snd

theorem invariant_initial (market : Selection → List Row) :
    Invariant (machine market).initial where
  separate :=
    { current := fun _ hmem => absurd hmem List.not_mem_nil
      own := fun _ hmem => absurd hmem List.not_mem_nil
      once := List.nodup_nil
      found := fun _ hcrashed => by cases hcrashed }
  adapter _ _ hadapter := by cases hadapter
  active _ hactive := absurd trivial hactive
  fresh _ hspawning := by cases hspawning
  unspawned _ _ := rfl
  notRun _ _ hmem := absurd hmem List.not_mem_nil

/-- While a call is running every replay is over. -/
theorem Invariant.over {state : State Row} (hinvariant : Invariant state)
    (hcontrol : state.control ≠ .idle) (replay : ℕ) :
    (state.stage replay).Over := by
  by_contra hactive
  exact hcontrol (hinvariant.active replay hactive).1

@[simp]
theorem length_stopAdapter (state : State Row) :
    state.stopAdapter.adapters.length = state.adapters.length := by
  rw [State.stopAdapter]
  split
  · simp [State.modifyAdapter]
  · rfl

@[simp]
theorem stopAdapter_stage (state : State Row) :
    state.stopAdapter.stage = state.stage := by
  rw [State.stopAdapter]
  split <;> rfl

@[simp]
theorem stopAdapter_runs (state : State Row) :
    state.stopAdapter.runs = state.runs := by
  rw [State.stopAdapter]
  split <;> rfl

@[simp]
theorem stopAdapter_delivered (state : State Row) :
    state.stopAdapter.delivered = state.delivered := by
  rw [State.stopAdapter]
  split <;> rfl

/-- A step of a call that spawns nothing keeps the invariant, when every replay
is over. -/
theorem Invariant.call {state next : State Row} (hinvariant : Invariant state)
    (hover : ∀ replay, (state.stage replay).Over)
    (hstage : next.stage = state.stage) (hruns : next.runs = state.runs)
    (hdelivered : next.delivered = state.delivered)
    (hlength : state.adapters.length ≤ next.adapters.length)
    (hfresh : ∀ replay, next.control = .spawning replay →
      state.adapters.length ≤ replay ∧ next.adapter = some replay ∧
        replay < next.adapters.length) :
    Invariant next where
  separate :=
    { current := by simpa [hdelivered] using hinvariant.separate.current
      own := by simpa [hruns] using hinvariant.separate.own
      once := by simpa [hruns] using hinvariant.separate.once
      found := by simpa [hstage] using hinvariant.separate.found }
  adapter := by simpa [hstage] using hinvariant.adapter
  active replay hactive := by
    rw [hstage] at hactive
    exact absurd (hover replay) hactive
  fresh replay hspawning := by
    obtain ⟨hnew, hadapter⟩ := hfresh replay hspawning
    rw [hstage]
    exact ⟨hinvariant.unspawned replay hnew, hadapter⟩
  unspawned replay hreplay := by
    rw [hstage]
    exact hinvariant.unspawned replay (hlength.trans hreplay)
  notRun := by simpa [hstage, hruns] using hinvariant.notRun

theorem Invariant.spawn {state : State Row} {replay : ℕ}
    (hinvariant : Invariant state)
    (hcontrol : state.control = .spawning replay) :
    Invariant
      { state with
        stage := Function.update state.stage replay .spawned
        control := .idle
        superseded := replay } := by
  obtain ⟨hfresh, hadapter, hbound⟩ := hinvariant.fresh replay hcontrol
  have hover := hinvariant.over (by simp [hcontrol])
  constructor
  · refine ⟨hinvariant.separate.current, hinvariant.separate.own,
      hinvariant.separate.once, fun other hcrashed => ?_⟩
    by_cases hsame : other = replay
    · simp [hsame] at hcrashed
    · dsimp only at hcrashed
      rw [Function.update_of_ne hsame] at hcrashed
      exact hinvariant.separate.found other hcrashed
  · intro other adapter hother
    by_cases hsame : other = replay
    · simp [hsame, Stage.adapter] at hother
    · dsimp only at hother
      rw [Function.update_of_ne hsame] at hother
      exact hinvariant.adapter other adapter hother
  · intro other hactive
    by_cases hsame : other = replay
    · subst hsame
      exact ⟨rfl, hadapter, le_rfl⟩
    · dsimp only at hactive
      rw [Function.update_of_ne hsame] at hactive
      exact absurd (hover other) hactive
  · intro other hspawning
    cases hspawning
  · intro other hother
    have hsame : other ≠ replay := by
      rintro rfl
      exact absurd hbound (Nat.not_lt.mpr hother)
    dsimp only
    rw [Function.update_of_ne hsame]
    exact hinvariant.unspawned other hother
  · intro other hother
    by_cases hsame : other = replay
    · exact hsame ▸ hinvariant.notRun replay (Or.inl hfresh)
    · dsimp only at hother
      rw [Function.update_of_ne hsame] at hother
      exact hinvariant.notRun other hother

theorem Invariant.callStep {state next : State Row} {action : Action}
    (hinvariant : Invariant state) (hcalls : CallsAfterReplays state action)
    (hstep : callStep state action = some next) : Invariant next := by
  cases action with
  | stopReplay =>
      rw [Backtest.callStep] at hstep
      split at hstep
      · obtain rfl := Option.some.inj hstep
        exact hinvariant.call hcalls (by simp) (by simp) (by simp) (by simp)
          (by simp)
      · cases hstep
  | startReplay dateRange symbols timeframe =>
      rw [Backtest.callStep] at hstep
      split at hstep
      · obtain rfl := Option.some.inj hstep
        exact hinvariant.call hcalls (by simp) (by simp) (by simp) (by simp)
          (by simp)
      · cases hstep
  | reset =>
      rw [Backtest.callStep] at hstep
      split at hstep
      · next hcontrol =>
          obtain rfl := Option.some.inj hstep
          exact hinvariant.call (hinvariant.over (by simp [hcontrol])) (by simp)
            (by simp) (by simp) (by simp) (by simp)
      · next hcontrol =>
          obtain rfl := Option.some.inj hstep
          exact hinvariant.call (hinvariant.over (by simp [hcontrol])) (by simp)
            (by simp) (by simp) (by simp) (by simp)
      · cases hstep
  | create =>
      rw [Backtest.callStep] at hstep
      split at hstep
      · next selection hcontrol =>
          obtain rfl := Option.some.inj hstep
          refine hinvariant.call (hinvariant.over (by simp [hcontrol])) rfl rfl
            rfl (by simp) ?_
          rintro replay ⟨⟩
          exact ⟨le_rfl, rfl, by simp⟩
      · cases hstep
  | spawn failed =>
      rw [Backtest.callStep] at hstep
      split at hstep
      · next replay hcontrol =>
          obtain rfl := Option.some.inj hstep
          cases failed with
          | true =>
              exact hinvariant.call (hinvariant.over (by simp [hcontrol])) rfl
                rfl rfl le_rfl (by simp)
          | false => exact hinvariant.spawn hcontrol
      · cases hstep
  | _ => cases hstep

/-! ## The steps of a thread -/

/-- A step of a thread that has been spawned, in which it finds no other adapter
than its own and gets no rows back, keeps the invariant. -/
theorem Invariant.thread {state next : State Row} {replay : ℕ}
    {stage : Stage Row} (hinvariant : Invariant state)
    (hspawned : state.stage replay ≠ .unspawned)
    (hstage : next.stage = Function.update state.stage replay stage)
    (hentered : stage.adapter = some replay)
    (hover : (state.stage replay).Over → stage.Over)
    (hcontrol : next.control = state.control)
    (hadapter : next.adapter = state.adapter)
    (hsuperseded : next.superseded = state.superseded)
    (hlength : next.adapters.length = state.adapters.length)
    (hseparate : Separate next)
    (hruns : ∀ other, other ≠ replay →
      (other ∈ next.runs.map Prod.snd ↔ other ∈ state.runs.map Prod.snd)) :
    Invariant next where
  separate := hseparate
  adapter other adapter hother := by
    rw [hstage] at hother
    by_cases hsame : other = replay
    · subst hsame
      rw [Function.update_self, hentered] at hother
      exact (Option.some.inj hother).symm
    · rw [Function.update_of_ne hsame] at hother
      exact hinvariant.adapter other adapter hother
  active other hactive := by
    rw [hstage] at hactive
    rw [hcontrol, hadapter, hsuperseded]
    by_cases hsame : other = replay
    · subst hsame
      rw [Function.update_self] at hactive
      exact hinvariant.active other fun hbefore => hactive (hover hbefore)
    · rw [Function.update_of_ne hsame] at hactive
      exact hinvariant.active other hactive
  fresh other hspawning := by
    rw [hcontrol] at hspawning
    have hbefore := hinvariant.fresh other hspawning
    have hsame : other ≠ replay := by
      rintro rfl
      exact hspawned hbefore.1
    rw [hstage, Function.update_of_ne hsame, hadapter, hlength]
    exact hbefore
  unspawned other hother := by
    rw [hlength] at hother
    have hbefore := hinvariant.unspawned other hother
    have hsame : other ≠ replay := by
      rintro rfl
      exact hspawned hbefore
    rw [hstage, Function.update_of_ne hsame]
    exact hbefore
  notRun other hother := by
    rw [hstage] at hother
    by_cases hsame : other = replay
    · subst hsame
      rw [Function.update_self] at hother
      rcases hother with rfl | rfl
      · cases hentered
      · cases hentered
    · rw [Function.update_of_ne hsame] at hother
      rw [hruns other hsame]
      exact hinvariant.notRun other hother

theorem found_update {stages : ℕ → Stage Row} {replay : ℕ} {stage : Stage Row}
    (hfound : ∀ other, stages other ≠ .crashed)
    (hentered : stage.adapter = some replay) (other : ℕ) :
    Function.update stages replay stage other ≠ .crashed := by
  by_cases hsame : other = replay
  · rw [hsame, Function.update_self]
    rintro rfl
    cases hentered
  · rw [Function.update_of_ne hsame]
    exact hfound other

/-- What a step that enters no adapter and passes on no row leaves alone. -/
theorem Separate.thread {state next : State Row} {replay : ℕ}
    {stage : Stage Row} (hseparate : Separate state)
    (hstage : next.stage = Function.update state.stage replay stage)
    (hentered : stage.adapter = some replay) (hruns : next.runs = state.runs)
    (hcurrent : ∀ delivery ∈ next.delivered,
      delivery.superseded ≤ delivery.replay) : Separate next where
  current := hcurrent
  own := by simpa [hruns] using hseparate.own
  once := by simpa [hruns] using hseparate.once
  found := by
    rw [hstage]
    exact found_update hseparate.found hentered

@[simp]
theorem length_modifyAdapter (state : State Row) (adapter : ℕ)
    (update : DAdapter → DAdapter) :
    (state.modifyAdapter adapter update).adapters.length =
      state.adapters.length := by
  simp [State.modifyAdapter]

/-- A thread that is inside `run` goes from one stage to another. -/
theorem Invariant.setStage {state modified : State Row} {replay adapter : ℕ}
    {stage : Stage Row} (hinvariant : Invariant state)
    (hbefore : (state.stage replay).adapter = some adapter)
    (hafter : stage.adapter = some adapter)
    (hover : (state.stage replay).Over → stage.Over)
    (hmodified : modified = state ∨
      ∃ update, modified = state.modifyAdapter adapter update) :
    Invariant (modified.setStage replay stage) := by
  have hsame := hinvariant.adapter replay adapter hbefore
  rw [hsame] at hafter
  have hspawned : state.stage replay ≠ .unspawned := by
    intro hnone
    rw [hnone] at hbefore
    cases hbefore
  obtain rfl | ⟨update, rfl⟩ := hmodified
  · exact hinvariant.thread hspawned rfl hafter hover rfl rfl rfl rfl
      (hinvariant.separate.thread rfl hafter rfl hinvariant.separate.current)
      fun _ _ => Iff.rfl
  · exact hinvariant.thread hspawned rfl hafter hover rfl rfl rfl
      (length_modifyAdapter state adapter update)
      (hinvariant.separate.thread rfl hafter rfl hinvariant.separate.current)
      fun _ _ => Iff.rfl

/-- The thread of the current replay finds its own adapter. -/
theorem Invariant.enter {state : State Row} {replay adapter : ℕ}
    (hinvariant : Invariant state) (hstage : state.stage replay = .spawned)
    (hadapter : state.adapter = some adapter) :
    Invariant
      { state.setStage replay (.entered adapter) with
        runs := state.runs ++ [(replay, adapter)] } := by
  have hactive := hinvariant.active replay (by simp [hstage, Stage.Over])
  obtain rfl : replay = adapter := by
    have hfound := hactive.2.1
    rw [hadapter] at hfound
    exact (Option.some.inj hfound).symm
  have hnew := hinvariant.notRun replay (Or.inr hstage)
  refine hinvariant.thread (by simp [hstage]) rfl rfl
    (by simp [hstage, Stage.Over]) rfl rfl rfl rfl ?_ ?_
  · refine ⟨hinvariant.separate.current, ?_, ?_,
      found_update hinvariant.separate.found rfl⟩
    · intro run hrun
      rcases List.mem_append.mp hrun with hbefore | hlast
      · exact hinvariant.separate.own run hbefore
      · rw [List.mem_singleton.mp hlast]
    · rw [List.map_append, List.nodup_append]
      refine ⟨hinvariant.separate.once, by simp, ?_⟩
      rintro first hfirst second hsecond rfl
      obtain rfl : first = replay := by simpa using hsecond
      exact hnew hfirst
  · intro other hother
    simp [hother]

/-- The thread of a replay that is not superseded passes on one row. -/
theorem Invariant.row {state : State Row} {replay adapter : ℕ} {row : Row}
    {left : List Row} (hinvariant : Invariant state)
    (hstage : state.stage replay = .rows adapter (row :: left)) :
    Invariant
      { state.setStage replay (.rows adapter left) with
        delivered := state.delivered ++
          [⟨replay, adapter, row, state.superseded⟩] } := by
  have hactive := hinvariant.active replay (by simp [hstage, Stage.Over])
  obtain rfl : adapter = replay :=
    hinvariant.adapter replay adapter (by rw [hstage]; rfl)
  refine hinvariant.thread (by simp [hstage]) rfl rfl
    (by simp [hstage, Stage.Over]) rfl rfl rfl rfl
    (hinvariant.separate.thread rfl rfl rfl ?_) fun _ _ => Iff.rfl
  intro delivery hdelivery
  rcases List.mem_append.mp hdelivery with hbefore | hlast
  · exact hinvariant.separate.current delivery hbefore
  · rw [List.mem_singleton.mp hlast]
    exact hactive.2.2

theorem Invariant.threadStep {market : Selection → List Row}
    {state next : State Row} {action : Action} (hinvariant : Invariant state)
    (hstep : threadStep market state action = some next) : Invariant next := by
  cases action with
  | enter replay =>
      rw [Backtest.threadStep] at hstep
      split at hstep
      · next adapter hstage hadapter =>
          obtain rfl := Option.some.inj hstep
          exact hinvariant.enter hstage hadapter
      · next hstage hadapter =>
          have hactive :=
            hinvariant.active replay (by simp [hstage, Stage.Over])
          rw [hadapter] at hactive
          cases hactive.2.1
      · cases hstep
  | connect replay failed =>
      rw [Backtest.threadStep] at hstep
      split at hstep
      · next adapter hstage =>
          split at hstep
          · obtain rfl := Option.some.inj hstep
            exact hinvariant.setStage (by rw [hstage]; rfl) rfl
              (fun _ => trivial) (Or.inl rfl)
          · obtain rfl := Option.some.inj hstep
            exact hinvariant.setStage (by rw [hstage]; rfl) rfl
              (by simp [hstage, Stage.Over]) (Or.inr ⟨_, rfl⟩)
      · cases hstep
  | setRunning replay =>
      rw [Backtest.threadStep] at hstep
      split at hstep
      · next adapter hstage =>
          obtain rfl := Option.some.inj hstep
          exact hinvariant.setStage (by rw [hstage]; rfl) rfl
            (by simp [hstage, Stage.Over]) (Or.inr ⟨_, rfl⟩)
      · cases hstep
  | checkRunning replay =>
      rw [Backtest.threadStep] at hstep
      split at hstep
      · next adapter hstage =>
          split at hstep
          · obtain rfl := Option.some.inj hstep
            exact hinvariant.setStage (by rw [hstage]; rfl) rfl
              (by simp [hstage, Stage.Over]) (Or.inl rfl)
          · obtain rfl := Option.some.inj hstep
            exact hinvariant.setStage (by rw [hstage]; rfl) rfl
              (fun _ => trivial) (Or.inl rfl)
      · cases hstep
  | query replay =>
      rw [Backtest.threadStep] at hstep
      split at hstep
      · next adapter hstage =>
          obtain rfl := Option.some.inj hstep
          exact hinvariant.setStage (by rw [hstage]; rfl) rfl
            (by simp [hstage, Stage.Over]) (Or.inl rfl)
      · cases hstep
  | row replay =>
      rw [Backtest.threadStep] at hstep
      split at hstep
      · next adapter row left hstage =>
          obtain rfl := Option.some.inj hstep
          exact hinvariant.row hstage
      · cases hstep
  | leave replay =>
      rw [Backtest.threadStep] at hstep
      split at hstep
      · next adapter left hstage =>
          obtain rfl := Option.some.inj hstep
          exact hinvariant.setStage (by rw [hstage]; rfl) rfl
            (fun _ => trivial) (Or.inl rfl)
      · cases hstep
  | complete replay =>
      rw [Backtest.threadStep] at hstep
      split at hstep
      · next adapter hstage =>
          obtain rfl := Option.some.inj hstep
          exact hinvariant.setStage (by rw [hstage]; rfl) rfl
            (fun _ => trivial) (Or.inl rfl)
      · cases hstep
  | _ => cases hstep

/-! ## Runs in which calls wait for the replays before them -/

theorem step_cases {market : Selection → List Row} {state next : State Row}
    {action : Action} (hstep : (machine market).step state action = some next) :
    callStep state action = some next ∨
      threadStep market state action = some next := by
  cases action with
  | stopReplay => exact Or.inl hstep
  | startReplay _ _ _ => exact Or.inl hstep
  | reset => exact Or.inl hstep
  | create => exact Or.inl hstep
  | spawn _ => exact Or.inl hstep
  | _ => exact Or.inr hstep

theorem invariant_step {market : Selection → List Row} {state next : State Row}
    {action : Action} (hinvariant : Invariant state)
    (hcalls : CallsAfterReplays state action)
    (hstep : (machine market).step state action = some next) :
    Invariant next := by
  rcases step_cases hstep with hcall | hthread
  · exact hinvariant.callStep hcalls hcall
  · exact hinvariant.threadStep hthread

/-- In every run in which `start_replay` and `stop_replay` are only called when
the threads of all earlier replays have passed their last row, no row of a
superseded replay is passed on, and every thread runs the adapter of its own
replay, once. -/
theorem run_separate {market : Selection → List Row} {actions : List Action}
    (halong : (machine market).Along CallsAfterReplays
      (machine market).initial actions) :
    (machine market).Throughout Separate (machine market).initial actions :=
  Machine.throughout_of_along (fun _ _ _ => invariant_step)
    (fun _ hinvariant => hinvariant.separate) (invariant_initial market) halong

/-- One row of market data. -/
def oneRow : Selection → List ℕ := fun _ => [1]

def oneReplay : List Action :=
  [.startReplay "2024-01-01" [] "", .reset, .create, .spawn false, .enter 0,
    .connect 0 false, .setRunning 0, .checkRunning 0, .query 0, .row 0,
    .leave 0, .complete 0]

/-- A replay runs to its end before it is stopped. -/
theorem along_oneReplay_stop :
    (machine oneRow).Along CallsAfterReplays (machine oneRow).initial
      (oneReplay ++ [.stopReplay, .reset]) := by
  apply (Machine.along_append rfl).mpr
  refine ⟨⟨fun _ => trivial, fun started _ => ?_⟩, fun replay => ?_,
    fun _ _ => ⟨trivial, fun _ _ => trivial⟩⟩
  · apply Machine.along_of_forall
    simp [CallsAfterReplays]
  · cases replay with
    | zero => trivial
    | succ other => trivial

theorem run_separate_oneReplay_stop :
    (machine oneRow).Throughout Separate (machine oneRow).initial
      (oneReplay ++ [.stopReplay, .reset]) :=
  run_separate along_oneReplay_stop

/-- A second replay is started before the thread of the first one has entered
`run`: both threads run the second adapter. -/
def restartBeforeRun : List Action :=
  [.startReplay "2024-01-01" [] "", .reset, .create, .spawn false,
    .startReplay "2024-02-01" [] "", .reset, .create, .spawn false, .enter 0,
    .enter 1, .connect 0 false, .setRunning 0, .checkRunning 0, .query 0,
    .row 0]

theorem restartBeforeRun_not_separate :
    ∃ state,
      (machine oneRow).run (machine oneRow).initial restartBeforeRun =
          some state ∧
        state.runs = [(0, 1), (1, 1)] ∧
        state.delivered = [⟨0, 1, 1, 1⟩] ∧ ¬ Separate state := by
  refine ⟨_, rfl, rfl, rfl, fun hseparate => ?_⟩
  have hown := hseparate.own (0, 1) (List.mem_cons_self)
  cases hown

end Datafeed.Backtest
