import Datafeed.Broker.ReadLoop

/-!
# The first connect of an exchange and its reader

`Exchange1::connect` swallows a failure of `perform_connect` and logs that the
reader will retry; `subscribe` then records the symbols, finds `connected_`
clear, logs that it will subscribe on reconnect and returns.  The only call of
`start_reader` stands behind that return.
-/

namespace Datafeed.FirstConnect

open ReadLoop

/-- Whether each step of `perform_connect` gets through.  A failure to set the
SNI hostname is logged and does not end the call. -/
structure ConnectSteps where
  resolve : Bool
  tcpConnect : Bool
  tlsHandshake : Bool
  handshake : Bool
  deriving DecidableEq

/-- The value `perform_connect` leaves in `connected_`: the first step that
throws clears it. -/
def performConnect (steps : ConnectSteps) : Bool :=
  steps.resolve && steps.tcpConnect && steps.tlsHandshake && steps.handshake

/-- `connect()` and then `subscribe(symbols)`. -/
def calls (steps : ConnectSteps) (symbols : List String) : List OwnerAction :=
  [.connect, .connected (performConnect steps), .subscribe symbols]

/-- What the owner's thread does in a run. -/
def ownerActions : List Action → List OwnerAction
  | [] => []
  | .owner action :: actions => action :: ownerActions actions
  | .io _ :: actions | .reader _ :: actions => ownerActions actions

/-- The reader thread was started and is in its loop, with the symbols to
subscribe to. -/
structure Retrying (symbols : List String) (state : State) : Prop where
  started : ¬ state.reader.Joinable
  recorded : state.symbols = symbols

/-! ## The stages of the owner -/

/-- What holds between the owner's steps, with the steps it has still to
take. -/
inductive Stage (steps : ConnectSteps) (symbols : List String) :
    State → List OwnerAction → Prop
  | constructed {state : State} (howner : state.owner = .constructed)
      (hreader : state.reader = .absent) :
      Stage steps symbols state (calls steps symbols)
  | connecting {state : State} (howner : state.owner = .performConnect)
      (hrunning : state.running = true) (hreader : state.reader = .absent) :
      Stage steps symbols state
        [.connected (performConnect steps), .subscribe symbols]
  | connected {state : State} (howner : state.owner = .connected)
      (hrunning : state.running = true) (hreader : state.reader = .absent)
      (hconnected : state.connected = performConnect steps) :
      Stage steps symbols state [.subscribe symbols]
  | started {state : State} (howner : state.owner = .connected)
      (hrunning : state.running = true) (hretrying : Retrying symbols state)
      (hreached : performConnect steps = true) :
      Stage steps symbols state []
  | unstarted {state : State} (howner : state.owner = .connected)
      (hreader : state.reader = .absent)
      (hrefused : performConnect steps = false) :
      Stage steps symbols state []

variable {steps : ConnectSteps} {symbols : List String}

theorem Stage.ioStep {state next : State} {remaining : List OwnerAction}
    {action : IoAction} (hstage : Stage steps symbols state remaining)
    (hstep : state.ioStep action = some next) :
    Stage steps symbols next remaining := by
  obtain ⟨hrunning, hconnected, hsymbols, hreader, howner⟩ := ioStep_frame hstep
  cases hstage with
  | constructed hpoint habsent =>
      exact .constructed (howner.trans hpoint) (hreader.trans habsent)
  | connecting hpoint hset habsent =>
      exact .connecting (howner.trans hpoint) (hrunning.trans hset)
        (hreader.trans habsent)
  | connected hpoint hset habsent hflag =>
      exact .connected (howner.trans hpoint) (hrunning.trans hset)
        (hreader.trans habsent) (hconnected.trans hflag)
  | started hpoint hset hretrying hreached =>
      refine .started (howner.trans hpoint) (hrunning.trans hset) ⟨?_, ?_⟩
        hreached
      · rw [hreader]
        exact hretrying.started
      · exact hsymbols.trans hretrying.recorded
  | unstarted hpoint habsent hrefused =>
      exact .unstarted (howner.trans hpoint) (hreader.trans habsent) hrefused

theorem Stage.readerStep {state next : State} {remaining : List OwnerAction}
    {action : ReaderAction} (hstage : Stage steps symbols state remaining)
    (hstep : state.readerStep action = some next) :
    Stage steps symbols next remaining := by
  cases hstage with
  | started hpoint hset hretrying hreached =>
      obtain ⟨hrunning, hloop, hsymbols, howner⟩ := readerStep_frame hset hstep
      exact .started (howner.trans hpoint) hrunning
        ⟨hloop, hsymbols.trans hretrying.recorded⟩ hreached
  | constructed _ habsent | connecting _ _ habsent | connected _ _ habsent _
  | unstarted _ habsent _ =>
      have hjoinable : state.reader.Joinable := by
        rw [habsent]
        trivial
      rw [readerStep_of_joinable hjoinable] at hstep
      cases hstep

theorem Stage.ownerStep {state next : State} {action : OwnerAction}
    {remaining : List OwnerAction}
    (hstage : Stage steps symbols state (action :: remaining))
    (hstep : state.ownerStep action = some next) :
    Stage steps symbols next remaining := by
  cases hstage with
  | constructed howner hreader =>
      simp only [State.ownerStep, Option.ite_none_right_eq_some,
        Option.some.injEq] at hstep
      obtain ⟨-, rfl⟩ := hstep
      exact .connecting rfl rfl hreader
  | connecting howner hrunning hreader =>
      simp only [State.ownerStep, Option.ite_none_right_eq_some,
        Option.some.injEq] at hstep
      obtain ⟨-, rfl⟩ := hstep
      exact .connected rfl hrunning hreader rfl
  | connected howner hrunning hreader hconnected =>
      have hjoinable : state.reader.Joinable := by
        rw [hreader]
        trivial
      simp only [State.ownerStep, if_pos howner, if_pos hjoinable] at hstep
      by_cases hreached : state.connected = true
      · rw [if_pos hreached, Option.some.injEq] at hstep
        subst hstep
        exact .started howner hrunning ⟨id, rfl⟩
          (hconnected.symm.trans hreached)
      · rw [if_neg hreached, Option.some.injEq] at hstep
        subst hstep
        rw [Bool.not_eq_true] at hreached
        exact .unstarted howner hreader (hconnected.symm.trans hreached)

theorem Stage.run {actions : List Action} {state final : State}
    (hstage : Stage steps symbols state (ownerActions actions))
    (hrun : machine.run state actions = some final) :
    Stage steps symbols final [] := by
  induction actions generalizing state with
  | nil =>
      obtain rfl : state = final := by simpa using hrun
      exact hstage
  | cons action actions ih =>
      obtain ⟨next, hstep, hrest⟩ := Machine.exists_of_run_cons hrun
      cases action with
      | owner action => exact ih (hstage.ownerStep hstep) hrest
      | io action => exact ih (hstage.ioStep hstep) hrest
      | reader action => exact ih (hstage.readerStep hstep) hrest

/-! ## Exactly when the reader retries -/

/-- After `connect()` and `subscribe(symbols)` and until destruction, whatever
the other two threads do, the reader is in its loop exactly when the first
`perform_connect` succeeded. -/
theorem retrying_iff {actions : List Action} {final : State}
    (howner : ownerActions actions = calls steps symbols)
    (hrun : machine.run machine.initial actions = some final) :
    Retrying symbols final ↔ performConnect steps = true := by
  have hstart : Stage steps symbols machine.initial (ownerActions actions) := by
    rw [howner]
    exact .constructed rfl rfl
  have hfinal := hstart.run hrun
  cases hfinal with
  | started _ _ hretrying hreached => exact iff_of_true hretrying hreached
  | unstarted _ hreader hrefused =>
      refine iff_of_false (fun hretrying => hretrying.started ?_) ?_
      · rw [hreader]
        trivial
      · rw [hrefused]
        exact Bool.false_ne_true

/-- Every step of the first connection gets through, and the connection is lost
while the reader reads. -/
def lostConnection : List Action :=
  startUp ++ [.reader (.read false), .reader .testRunning]

theorem retrying_iff_lostConnection :
    ∃ final, machine.run machine.initial lostConnection = some final ∧
      Retrying ["BTCUSDT"] final := by
  have howner : ownerActions lostConnection =
      calls ⟨true, true, true, true⟩ ["BTCUSDT"] := rfl
  exact ⟨_, rfl, (retrying_iff howner rfl).mpr rfl⟩

/-- The name of the server does not resolve once: both flags that could start a
retry are as the messages promise, and there is no reader. -/
theorem unresolved_first_connect_never_retries :
    ¬ ∀ (steps : ConnectSteps) (symbols : List String) (actions : List Action)
        (final : State), ownerActions actions = calls steps symbols →
      machine.run machine.initial actions = some final →
        Retrying symbols final := by
  intro hclaim
  have hretrying := hclaim ⟨false, true, true, true⟩ ["BTCUSDT"]
    [.owner .connect, .io .testRunning, .owner (.connected false),
      .owner (.subscribe ["BTCUSDT"])] _ rfl rfl
  exact hretrying.started trivial

end Datafeed.FirstConnect
