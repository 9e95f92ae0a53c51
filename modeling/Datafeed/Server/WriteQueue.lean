import Datafeed.Core.Machine
import Mathlib.Data.List.Infix

/-!
# The write queue of a session

What `send_message`, `do_write` and `on_write` do to the queue of one session.
`send_message` posts a handler to the session's strand, which runs the handlers
one at a time in the order they were posted; a completed `async_write` runs
`on_write` on the same strand.  The buffer of an `async_write` is the string at
the front of the queue, and an operation that has not completed is recorded with
the string it was given.
-/

namespace Datafeed.WriteQueue

/-- The queue and flag of a session, the handlers waiting on its strand and the
operations on its socket.  The last two fields record the history: what was
passed to `send_message` and what to `async_write`. -/
structure State (Message : Type) where
  writeQueue : List Message := []
  writing : Bool := false
  handlers : List Message := []
  outstanding : List Message := []
  posted : List Message := []
  started : List Message := []
  deriving DecidableEq

inductive Action (Message : Type)
  /-- The call of `send_message`, on any thread. -/
  | sendMessage (msg : Message)
  /-- The strand runs the next posted handler. -/
  | runHandler
  /-- The strand runs `on_write` for one of the operations. -/
  | onWrite (operation : ℕ) (failed : Bool)
  deriving DecidableEq

variable {Message : Type}

namespace State

def sendMessage (msg : Message) (state : State Message) : State Message :=
  { state with
    handlers := state.handlers ++ [msg]
    posted := state.posted ++ [msg] }

def doWrite (state : State Message) : State Message :=
  match state.writeQueue with
  | [] => { state with writing := false }
  | front :: _ =>
      { state with
        writing := true
        outstanding := state.outstanding ++ [front]
        started := state.started ++ [front] }

/-- The handler posted by `send_message`. -/
def push (msg : Message) (state : State Message) : State Message :=
  let pushed := { state with writeQueue := state.writeQueue ++ [msg] }
  if pushed.writing = false then pushed.doWrite else pushed

def onWrite (failed : Bool) (state : State Message) : State Message :=
  if failed then state
  else { state with writeQueue := state.writeQueue.tail }.doWrite

end State

def step (state : State Message) : Action Message → Option (State Message)
  | .sendMessage msg => some (state.sendMessage msg)
  | .runHandler =>
      match state.handlers with
      | [] => none
      | msg :: handlers => some ({ state with handlers := handlers }.push msg)
  | .onWrite operation failed =>
      if operation < state.outstanding.length then
        some
          ({ state with
              outstanding := state.outstanding.eraseIdx operation }.onWrite
            failed)
      else none

def machine : Machine (State Message) (Action Message) where
  initial := {}
  step := step

/-! ## The invariant -/

/-- How the flag, the front of the queue and the operations belong together,
once the messages of `written` have been written. -/
inductive Phase (written : List Message) (state : State Message) : Prop
  | idle (hwriting : state.writing = false) (hqueue : state.writeQueue = [])
      (houtstanding : state.outstanding = [])
      (hstarted : state.started = written)
  | writing (front : Message) (rest : List Message)
      (hwriting : state.writing = true)
      (hqueue : state.writeQueue = front :: rest)
      (houtstanding : state.outstanding = [front])
      (hstarted : state.started = written ++ [front])
  /-- After an error the flag stays set and nothing is written any more. -/
  | failed (front : Message) (rest : List Message)
      (hwriting : state.writing = true)
      (hqueue : state.writeQueue = front :: rest)
      (houtstanding : state.outstanding = [])
      (hstarted : state.started = written ++ [front])

/-- Every posted message is written, in the queue or waiting on the strand. -/
structure Invariant (written : List Message) (state : State Message) : Prop where
  posted : state.posted = written ++ state.writeQueue ++ state.handlers
  phase : Phase written state

theorem invariant_initial :
    Invariant ([] : List Message)
      (machine : Machine (State Message) (Action Message)).initial where
  posted := rfl
  phase := .idle rfl rfl rfl rfl

/-- The phase is a matter of the flag, the queue and the operations. -/
theorem Phase.congr {written : List Message} {state next : State Message}
    (hphase : Phase written state) (hwriting : next.writing = state.writing)
    (hqueue : next.writeQueue = state.writeQueue)
    (houtstanding : next.outstanding = state.outstanding)
    (hstarted : next.started = state.started) : Phase written next := by
  cases hphase with
  | idle hidle hempty hnone hall =>
      exact .idle (hwriting.trans hidle) (hqueue.trans hempty)
        (houtstanding.trans hnone) (hstarted.trans hall)
  | writing front rest hbusy hfront hone hall =>
      exact .writing front rest (hwriting.trans hbusy) (hqueue.trans hfront)
        (houtstanding.trans hone) (hstarted.trans hall)
  | failed front rest hbusy hfront hnone hall =>
      exact .failed front rest (hwriting.trans hbusy) (hqueue.trans hfront)
        (houtstanding.trans hnone) (hstarted.trans hall)

/-- `do_write` starts the front of the queue, when nothing else is under
way. -/
theorem phase_doWrite {written : List Message} {state : State Message}
    (houtstanding : state.outstanding = [])
    (hstarted : state.started = written) : Phase written state.doWrite := by
  rw [State.doWrite]
  split
  · next hempty => exact .idle rfl hempty houtstanding hstarted
  · next front rest hfront =>
      refine .writing front rest rfl hfront ?_ ?_
      · rw [houtstanding]
        rfl
      · rw [hstarted]

@[simp]
theorem doWrite_writeQueue (state : State Message) :
    state.doWrite.writeQueue = state.writeQueue := by
  rw [State.doWrite]
  split <;> rfl

@[simp]
theorem doWrite_handlers (state : State Message) :
    state.doWrite.handlers = state.handlers := by
  rw [State.doWrite]
  split <;> rfl

@[simp]
theorem doWrite_posted (state : State Message) :
    state.doWrite.posted = state.posted := by
  rw [State.doWrite]
  split <;> rfl

/-! ## The operations that the steps leave -/

theorem length_doWrite_outstanding (state : State Message) :
    state.doWrite.outstanding.length =
      state.outstanding.length + if state.writeQueue = [] then 0 else 1 := by
  rw [State.doWrite]
  split
  · next hempty => simp [hempty]
  · next front rest hfront => simp [hfront]

theorem push_handlers (msg : Message) (state : State Message) :
    (state.push msg).handlers = state.handlers := by
  rw [State.push]
  split
  · exact doWrite_handlers _
  · rfl

theorem length_push_outstanding (msg : Message) (state : State Message) :
    (state.push msg).outstanding.length =
      state.outstanding.length + if state.writing = true then 0 else 1 := by
  rw [State.push]
  split
  · next hidle =>
      have hidle' : state.writing = false := hidle
      rw [length_doWrite_outstanding]
      simp [hidle']
  · next hbusy =>
      have hbusy' : state.writing = true := by simpa using hbusy
      simp [hbusy']

theorem onWrite_handlers (failed : Bool) (state : State Message) :
    (state.onWrite failed).handlers = state.handlers := by
  rw [State.onWrite]
  split
  · rfl
  · exact doWrite_handlers _

theorem length_onWrite_outstanding (failed : Bool) (state : State Message) :
    (state.onWrite failed).outstanding.length =
      state.outstanding.length +
        if failed = true ∨ state.writeQueue.length ≤ 1 then 0 else 1 := by
  rw [State.onWrite]
  by_cases hfailed : failed = true
  · simp [hfailed]
  · rw [if_neg hfailed, length_doWrite_outstanding]
    have htail : state.writeQueue.tail = [] ↔ state.writeQueue.length ≤ 1 := by
      rw [← List.length_eq_zero_iff, List.length_tail]
      omega
    simp [hfailed, htail]

theorem Invariant.sendMessage {written : List Message} {state : State Message}
    (hinvariant : Invariant written state) (msg : Message) :
    Invariant written (state.sendMessage msg) where
  posted := by
    rw [State.sendMessage, hinvariant.posted, List.append_assoc]
  phase := hinvariant.phase.congr rfl rfl rfl rfl

theorem Invariant.push {written : List Message} {state : State Message}
    {msg : Message} {handlers : List Message}
    (hinvariant : Invariant written state)
    (hhandlers : state.handlers = msg :: handlers) :
    Invariant written ({ state with handlers := handlers }.push msg) := by
  have hposted : state.posted =
      written ++ (state.writeQueue ++ [msg]) ++ handlers := by
    rw [hinvariant.posted, hhandlers]
    simp
  rw [State.push]
  cases hinvariant.phase with
  | idle hwriting _ houtstanding hstarted =>
      rw [if_pos hwriting]
      constructor
      · rw [doWrite_posted, doWrite_writeQueue, doWrite_handlers]
        exact hposted
      · exact phase_doWrite houtstanding hstarted
  | writing front rest hwriting hqueue houtstanding hstarted =>
      rw [if_neg (by simp [hwriting])]
      refine ⟨hposted, .writing front (rest ++ [msg]) hwriting ?_
        houtstanding hstarted⟩
      rw [hqueue, List.cons_append]
  | failed front rest hwriting hqueue houtstanding hstarted =>
      rw [if_neg (by simp [hwriting])]
      refine ⟨hposted, .failed front (rest ++ [msg]) hwriting ?_
        houtstanding hstarted⟩
      rw [hqueue, List.cons_append]

/-- A completed operation is the only one; if it succeeded its message counts as
written. -/
theorem Invariant.onWrite {written : List Message} {state : State Message}
    {operation : ℕ} {failed : Bool} (hinvariant : Invariant written state)
    (hoperation : operation < state.outstanding.length) :
    ∃ written', Invariant written'
      ({ state with
          outstanding := state.outstanding.eraseIdx operation }.onWrite
        failed) := by
  cases hinvariant.phase with
  | idle _ _ houtstanding _ => simp [houtstanding] at hoperation
  | failed _ _ _ _ houtstanding _ => simp [houtstanding] at hoperation
  | writing front rest hwriting hqueue houtstanding hstarted =>
      have hfirst : operation = 0 := by simpa [houtstanding] using hoperation
      have hnone : state.outstanding.eraseIdx operation = [] := by
        rw [houtstanding, hfirst]
        rfl
      rw [State.onWrite, hnone]
      cases failed with
      | true =>
          refine ⟨written, hinvariant.posted, ?_⟩
          exact .failed front rest hwriting hqueue rfl hstarted
      | false =>
          refine ⟨written ++ [front], ?_, phase_doWrite rfl hstarted⟩
          have hposted := hinvariant.posted
          rw [hqueue] at hposted
          simpa [hqueue] using hposted

theorem invariant_step {written : List Message} {state next : State Message}
    {action : Action Message} (hinvariant : Invariant written state)
    (hstep : step state action = some next) :
    ∃ written', Invariant written' next := by
  cases action with
  | sendMessage msg =>
      obtain rfl := Option.some.inj hstep
      exact ⟨written, hinvariant.sendMessage msg⟩
  | runHandler =>
      rw [step] at hstep
      split at hstep
      · cases hstep
      · next msg handlers hhandlers =>
          obtain rfl := Option.some.inj hstep
          exact ⟨written, hinvariant.push hhandlers⟩
  | onWrite operation failed =>
      rw [step] at hstep
      split at hstep
      · next hoperation =>
          obtain rfl := Option.some.inj hstep
          exact hinvariant.onWrite hoperation
      · cases hstep

theorem invariant_of_reachable {state : State Message}
    (hreach : machine.Reachable state) :
    ∃ written, Invariant written state := by
  have hpreserve : ∀ (current : State Message) action next,
      (∃ written, Invariant written current) →
      machine.step current action = some next →
      ∃ written, Invariant written next := by
    intro current action next hcurrent hstep
    obtain ⟨written, hinvariant⟩ := hcurrent
    exact invariant_step hinvariant hstep
  have hinitial : ∃ written, Invariant written
      (machine : Machine (State Message) (Action Message)).initial :=
    ⟨[], invariant_initial⟩
  exact hreach.invariant hinitial hpreserve

/-! ## One write at a time, in order -/

theorem Phase.outstanding_front {written : List Message} {state : State Message}
    (hphase : Phase written state) :
    state.outstanding = [] ∨
      ∃ front, state.outstanding = [front] ∧
        state.writeQueue.head? = some front := by
  cases hphase with
  | idle _ _ houtstanding _ => exact Or.inl houtstanding
  | writing front rest _ hqueue houtstanding _ =>
      exact Or.inr ⟨front, houtstanding, by rw [hqueue]; rfl⟩
  | failed _ _ _ _ houtstanding _ => exact Or.inl houtstanding

theorem Invariant.started_prefix {written : List Message}
    {state : State Message} (hinvariant : Invariant written state) :
    state.started <+: state.posted := by
  have hposted := hinvariant.posted
  cases hinvariant.phase with
  | idle _ _ _ hstarted =>
      rw [hstarted, hposted, List.append_assoc]
      exact List.prefix_append _ _
  | writing front rest _ hqueue _ hstarted =>
      rw [hstarted, hposted, hqueue]
      exact ⟨rest ++ state.handlers, by simp⟩
  | failed front rest _ hqueue _ hstarted =>
      rw [hstarted, hposted, hqueue]
      exact ⟨rest ++ state.handlers, by simp⟩

/-- In every reachable state at most one `async_write` is outstanding, the string
it was given is at the front of the queue, and the messages handed to
`async_write` are a prefix of those passed to `send_message`. -/
theorem reachable_writes_inOrder {state : State Message}
    (hreach : machine.Reachable state) :
    state.outstanding.length ≤ 1 ∧
      (∀ msg ∈ state.outstanding, state.writeQueue.head? = some msg) ∧
      state.started <+: state.posted := by
  obtain ⟨written, hinvariant⟩ := invariant_of_reachable hreach
  refine ⟨?_, ?_, hinvariant.started_prefix⟩
  · rcases hinvariant.phase.outstanding_front with hnone | ⟨front, hone, _⟩
    · simp [hnone]
    · simp [hone]
  · intro msg hmsg
    rcases hinvariant.phase.outstanding_front with hnone | ⟨front, hone, hfront⟩
    · simp [hnone] at hmsg
    · rw [hone, List.mem_singleton] at hmsg
      rw [hmsg]
      exact hfront

/-- A burst of three messages, of which the second fails to be written. -/
def burst : List (Action String) :=
  [.sendMessage "a", .runHandler, .sendMessage "b", .sendMessage "c",
    .runHandler, .onWrite 0 false, .runHandler, .onWrite 0 true]

theorem burst_writes_inOrder :
    ∃ state, machine.run (machine : Machine (State String) _).initial burst =
        some state ∧
      (state.outstanding.length ≤ 1 ∧
        (∀ msg ∈ state.outstanding, state.writeQueue.head? = some msg) ∧
        state.started <+: state.posted) ∧
      state.started = ["a", "b"] ∧ state.posted = ["a", "b", "c"] :=
  ⟨_, rfl, reachable_writes_inOrder ⟨burst, rfl⟩, rfl, rfl⟩

/-! ## A queue that nothing drains -/

/-- An operation is under way whenever the flag is set, and the queue can be
emptied from here. -/
structure Drains (state : State Message) : Prop where
  writes : state.writing = true → state.outstanding ≠ []
  emptied : machine.CanReach (fun final => final.writeQueue = []) state

/-- An `async_write` that completes does so without an error. -/
def CompletesWell (state : State Message) : Action Message → Prop
  | .onWrite operation failed =>
      operation < state.outstanding.length → failed = false
  | _ => True

theorem step_onWrite {state : State Message} {front : Message} {failed : Bool}
    (houtstanding : state.outstanding = [front]) :
    step state (.onWrite 0 failed) =
      some (({ state with outstanding := [] } : State Message).onWrite
        failed) := by
  simp [step, houtstanding]

/-- The operations that complete well take the queue from its front. -/
theorem canReach_empty {queue : List Message} {state : State Message}
    (hqueue : state.writeQueue = queue)
    (houtstanding : state.outstanding = queue.head?.toList) :
    machine.CanReach (fun final => final.writeQueue = []) state := by
  induction queue generalizing state with
  | nil => exact Machine.canReach_of_property hqueue
  | cons front rest ih =>
      refine Machine.CanReach.of_step (.onWrite 0 false)
        (step_onWrite houtstanding) (ih ?_ ?_)
      · rw [State.onWrite, if_neg Bool.false_ne_true, doWrite_writeQueue, hqueue,
          List.tail_cons]
      · rw [State.onWrite, if_neg Bool.false_ne_true, State.doWrite, hqueue,
          List.tail_cons]
        cases rest <;> rfl

/-- Short of an error the queue drains. -/
theorem Phase.drains_iff {written : List Message} {state : State Message}
    (hphase : Phase written state) :
    Drains state ↔ (state.writing = true → state.outstanding ≠ []) := by
  refine ⟨Drains.writes, fun hwrites => ⟨hwrites, ?_⟩⟩
  cases hphase with
  | idle _ hqueue _ _ => exact Machine.canReach_of_property hqueue
  | writing front rest _ hqueue houtstanding _ =>
      exact canReach_empty hqueue houtstanding
  | failed front rest hwriting _ houtstanding _ =>
      exact absurd houtstanding (hwrites hwriting)

theorem drains_initial :
    Drains (machine : Machine (State Message) (Action Message)).initial where
  writes hwriting := by cases hwriting
  emptied := Machine.canReach_of_property rfl

theorem State.doWrite_writes (state : State Message)
    (hwriting : state.doWrite.writing = true) :
    state.doWrite.outstanding ≠ [] := by
  revert hwriting
  rw [State.doWrite]
  split
  · simp
  · simp

theorem State.push_writes {state : State Message} {msg : Message}
    (hwrites : state.writing = true → state.outstanding ≠ [])
    (hwriting : (state.push msg).writing = true) :
    (state.push msg).outstanding ≠ [] := by
  revert hwriting
  rw [State.push]
  split
  · exact State.doWrite_writes _
  · exact hwrites

/-- A step keeps an operation under way just when it completes well. -/
theorem completesWell_iff {written : List Message} {state : State Message}
    (hinvariant : Invariant written state)
    (hwrites : state.writing = true → state.outstanding ≠ [])
    (action : Action Message) :
    CompletesWell state action ↔
      ∀ next, step state action = some next →
        next.writing = true → next.outstanding ≠ [] := by
  cases action with
  | sendMessage msg =>
      refine iff_of_true trivial fun next hstep => ?_
      obtain rfl := Option.some.inj hstep
      exact hwrites
  | runHandler =>
      refine iff_of_true trivial fun next hstep => ?_
      rw [step] at hstep
      split at hstep
      · cases hstep
      · obtain rfl := Option.some.inj hstep
        exact State.push_writes hwrites
  | onWrite operation failed =>
      by_cases hoperation : operation < state.outstanding.length
      swap
      · refine iff_of_true (absurd · hoperation) fun next hstep => ?_
        simp [step, hoperation] at hstep
      cases hinvariant.phase with
      | idle _ _ houtstanding _ => simp [houtstanding] at hoperation
      | failed _ _ _ _ houtstanding _ => simp [houtstanding] at hoperation
      | writing front rest hwriting _ houtstanding _ =>
          obtain rfl : operation = 0 := by
            simpa [houtstanding] using hoperation
          simp only [CompletesWell, hoperation, forall_const,
            step_onWrite houtstanding, Option.some.injEq, forall_eq']
          cases failed with
          | true =>
              refine iff_of_false (by simp) fun hkept => ?_
              exact hkept hwriting rfl
          | false => exact iff_of_true rfl (State.doWrite_writes _)

/-- After an error nothing is handed to `async_write` any more, and the queue
only grows. -/
theorem always_stalled {state : State Message} (hwriting : state.writing = true)
    (houtstanding : state.outstanding = []) :
    machine.Always (fun later => later.writing = true ∧
      later.outstanding = [] ∧ later.started = state.started ∧
        state.writeQueue <+: later.writeQueue) state := by
  refine Machine.always_of_invariant ?_ (fun _ hstalled => hstalled)
    ⟨hwriting, houtstanding, rfl, List.prefix_rfl⟩
  rintro current action next ⟨hbusy, hnone, hstarted, hgrown⟩ hstep
  cases action with
  | sendMessage msg =>
      obtain rfl := Option.some.inj hstep
      exact ⟨hbusy, hnone, hstarted, hgrown⟩
  | runHandler =>
      change step current .runHandler = some next at hstep
      rw [step] at hstep
      split at hstep
      · cases hstep
      · obtain rfl := Option.some.inj hstep
        rw [State.push, if_neg (by simp [hbusy])]
        exact ⟨hbusy, hnone, hstarted, hgrown.trans (List.prefix_append _ _)⟩
  | onWrite operation failed =>
      change step current (.onWrite operation failed) = some next at hstep
      simp [step, hnone] at hstep

/-- The queue drains throughout a run just when no operation of the run
completes with an error. -/
theorem throughout_drains_iff (actions : List (Action Message)) :
    machine.Throughout Drains machine.initial actions ↔
      machine.Along CompletesWell machine.initial actions := by
  have hpreserve : ∀ (state : State Message) action next,
      (∃ written, Invariant written state) →
      machine.step state action = some next →
      ∃ written, Invariant written next := by
    intro state action next hstate hstep
    obtain ⟨written, hinvariant⟩ := hstate
    exact invariant_step hinvariant hstep
  have hcondition : ∀ (state : State Message) action,
      (∃ written, Invariant written state) → Drains state →
      (CompletesWell state action ↔
        ∀ next, machine.step state action = some next → Drains next) := by
    rintro state action ⟨written, hinvariant⟩ hdrains
    rw [completesWell_iff hinvariant hdrains.writes]
    refine forall₂_congr fun next hstep => ?_
    obtain ⟨written', hnext⟩ := invariant_step hinvariant hstep
    exact hnext.phase.drains_iff.symm
  exact Machine.throughout_iff_along hpreserve hcondition
    ⟨[], invariant_initial⟩ drains_initial

/-- The first message fails to be written; the second stays in the queue for
good. -/
theorem not_drains_after_error :
    ∃ state, machine.run (machine : Machine (State String) _).initial
        [.sendMessage "a", .runHandler, .onWrite 0 true, .sendMessage "b",
          .runHandler] = some state ∧
      ¬ Drains state ∧
      machine.Always (fun later => later.started = ["a"] ∧
        ["a", "b"] <+: later.writeQueue) state := by
  refine ⟨_, rfl, fun hdrains => hdrains.writes rfl rfl, ?_⟩
  intro actions final hrun
  obtain ⟨-, -, hstarted, hgrown⟩ := always_stalled rfl rfl actions final hrun
  exact ⟨hstarted, hgrown⟩

end Datafeed.WriteQueue
