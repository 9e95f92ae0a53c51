import Datafeed.Broker.ReadLoop
import Mathlib.Algebra.Group.Nat.Defs
import Mathlib.Data.List.Chain

/-!
# The sleeps between reconnect attempts

`read_loop` sleeps `reconnect_delay` seconds before an attempt to reconnect and
doubles the delay, up to 30, before the attempt is made.  It resets the delay as
soon as `perform_connect` returns; an attempt counts as successful only after
the subscription was sent once more, and a failure there is logged as "Reconnect
failed" like any other.
-/

namespace Datafeed.Backoff

open ReadLoop (State Action ReaderPoint ReaderAction OwnerAction IoAction)

/-- How an attempt of `read_loop` ends. -/
inductive Outcome
  /-- `perform_connect` throws. -/
  | refused
  /-- `send_subscribe` throws after the connection was made. -/
  | unsubscribed
  /-- "Reconnect successful" -/
  | successful
  deriving DecidableEq

/-- A sleep and the attempt it precedes, whose outcome is missing while the
attempt is under way. -/
structure Attempt where
  slept : ℕ
  outcome : Option Outcome
  deriving DecidableEq

def Attempt.Failed (attempt : Attempt) : Prop :=
  attempt.outcome = some .refused ∨ attempt.outcome = some .unsubscribed

instance : DecidablePred Attempt.Failed := fun _ =>
  inferInstanceAs (Decidable (_ ∨ _))

/-! ## The law of the sleeps -/

/-- The number of consecutive failed attempts up to the last one; the attempts
are listed with the last one first. -/
def failures : List Attempt → ℕ
  | [] => 0
  | attempt :: earlier => if attempt.Failed then failures earlier + 1 else 0

/-- The seconds before the attempt that follows `count` failed ones. -/
def pace (count : ℕ) : ℕ := min (2 ^ count) 30

/-- A failed attempt, the `k`-th in a row, has been slept for as the `k`-th,
and the sleep after a successful attempt is one second. -/
def FollowsLaw : List Attempt → Prop
  | [] => True
  | attempt :: earlier =>
      (attempt.Failed → attempt.slept = pace (failures earlier)) ∧
        (earlier.head?.any (·.outcome = some .successful) →
          attempt.slept = 1) ∧
        FollowsLaw earlier

/-- No attempt that fails directly follows one that failed in
`send_subscribe`. -/
def SubscribesOnRetry (attempts : List Attempt) : Prop :=
  attempts.IsChain fun later earlier =>
    earlier.outcome = some .unsubscribed → ¬ later.Failed

instance : DecidablePred SubscribesOnRetry := fun attempts =>
  inferInstanceAs (Decidable (attempts.IsChain fun later earlier =>
    earlier.outcome = some .unsubscribed → ¬ later.Failed))

/-! ## What a run of the reader shows -/

/-- The threads, and the attempts of the current call of `read_loop`. -/
structure Observed where
  state : State
  attempts : List Attempt
  deriving DecidableEq

/-- The attempt under way ends. -/
def conclude (outcome : Outcome) : List Attempt → List Attempt
  | [] => []
  | attempt :: earlier => { attempt with outcome := some outcome } :: earlier

/-- The attempts after a step that is taken from `state`. -/
def record (state : State) (attempts : List Attempt) :
    Action → List Attempt
  | .reader .sleep => ⟨state.reconnectDelay, none⟩ :: attempts
  | .reader (.performConnect false) => conclude .refused attempts
  | .reader (.performConnect true) =>
      if state.symbols = [] then conclude .successful attempts else attempts
  | .reader (.sendSubscribe false) => conclude .unsubscribed attempts
  | .reader (.sendSubscribe true) => conclude .successful attempts
  -- `start_reader` begins a new call.
  | .owner (.subscribe _) => if state.connected then [] else attempts
  | _ => attempts

def step (observed : Observed) (action : Action) : Option Observed :=
  (ReadLoop.step observed.state action).map fun next =>
    ⟨next, record observed.state observed.attempts action⟩

def machine : Machine Observed Action where
  initial := ⟨ReadLoop.machine.initial, []⟩
  step := step

/-! ## What the delay of the code depends on -/

/-- The number of consecutive attempts refused up to the last one. -/
def refusals : List Attempt → ℕ
  | [] => 0
  | attempt :: earlier =>
      if attempt.outcome = some .refused then refusals earlier + 1 else 0

/-- Every attempt was slept for by the refusals right before it. -/
def Settled : List Attempt → Prop
  | [] => True
  | attempt :: earlier =>
      attempt.slept = pace (refusals earlier) ∧ Settled earlier

/-- Between the sleep and the end of `perform_connect`. -/
def Trying : ReaderPoint → Prop
  | .rebuild | .restart | .joinIo | .storeRunning | .launchIo | .pause
  | .performConnect => True
  | _ => False

/-- The delay and the attempts by the point of the reader. -/
inductive Paced : Observed → Prop
  | settled {state : State} {attempts : List Attempt}
      (htrying : ¬ Trying state.reader)
      (hsubscribe : state.reader ≠ .sendSubscribe)
      (hsettled : Settled attempts)
      (hdelay : state.reconnectDelay = pace (refusals attempts)) :
      Paced ⟨state, attempts⟩
  | trying {state : State} {earlier : List Attempt}
      (htrying : Trying state.reader) (hsettled : Settled earlier)
      (hdelay : state.reconnectDelay = pace (refusals earlier + 1)) :
      Paced ⟨state, ⟨pace (refusals earlier), none⟩ :: earlier⟩
  | subscribing {state : State} {earlier : List Attempt}
      (hsubscribe : state.reader = .sendSubscribe) (hsettled : Settled earlier)
      (hdelay : state.reconnectDelay = 1) :
      Paced ⟨state, ⟨pace (refusals earlier), none⟩ :: earlier⟩

theorem pace_zero : pace 0 = 1 := rfl

theorem pace_succ (count : ℕ) : pace (count + 1) = min (pace count * 2) 30 := by
  rw [pace, pace, pow_succ]
  omega

theorem pace_bounds (count : ℕ) : 1 ≤ pace count ∧ pace count ≤ 30 := by
  have hpos : 0 < 2 ^ count := Nat.two_pow_pos count
  rw [pace]
  omega

theorem two_le_pace_succ (count : ℕ) : 2 ≤ pace (count + 1) := by
  rw [pace_succ]
  have hbounds := pace_bounds count
  omega

/-! ## The steps of the threads -/

namespace Paced

variable {state next : State} {attempts : List Attempt}

theorem frame (hpaced : Paced ⟨state, attempts⟩)
    (hreader : next.reader = state.reader)
    (hdelay : next.reconnectDelay = state.reconnectDelay) :
    Paced ⟨next, attempts⟩ := by
  cases hpaced with
  | settled htrying hsubscribe hsettled hpace =>
      rw [← hreader] at htrying hsubscribe
      exact .settled htrying hsubscribe hsettled (hdelay.trans hpace)
  | trying htrying hsettled hpace =>
      rw [← hreader] at htrying
      exact .trying htrying hsettled (hdelay.trans hpace)
  | subscribing hsubscribe hsettled hpace =>
      rw [← hreader] at hsubscribe
      exact .subscribing hsubscribe hsettled (hdelay.trans hpace)

theorem of_settled (hpaced : Paced ⟨state, attempts⟩)
    (htrying : ¬ Trying state.reader)
    (hsubscribe : state.reader ≠ .sendSubscribe) :
    Settled attempts ∧ state.reconnectDelay = pace (refusals attempts) := by
  cases hpaced with
  | settled _ _ hsettled hdelay => exact ⟨hsettled, hdelay⟩
  | trying hpoint _ _ => exact absurd hpoint htrying
  | subscribing hpoint _ _ => exact absurd hpoint hsubscribe

theorem of_trying (hpaced : Paced ⟨state, attempts⟩)
    (htrying : Trying state.reader) :
    ∃ earlier, attempts = ⟨pace (refusals earlier), none⟩ :: earlier ∧
      Settled earlier ∧
      state.reconnectDelay = pace (refusals earlier + 1) := by
  cases hpaced with
  | settled hpoint _ _ _ => exact absurd htrying hpoint
  | trying _ hsettled hdelay => exact ⟨_, rfl, hsettled, hdelay⟩
  | subscribing hpoint _ _ =>
      rw [hpoint] at htrying
      exact absurd htrying id

theorem of_subscribing (hpaced : Paced ⟨state, attempts⟩)
    (hsubscribe : state.reader = .sendSubscribe) :
    ∃ earlier, attempts = ⟨pace (refusals earlier), none⟩ :: earlier ∧
      Settled earlier ∧ state.reconnectDelay = 1 := by
  cases hpaced with
  | settled _ hpoint _ _ => exact absurd hsubscribe hpoint
  | trying hpoint _ _ =>
      rw [hsubscribe] at hpoint
      exact absurd hpoint id
  | subscribing _ hsettled hdelay => exact ⟨_, rfl, hsettled, hdelay⟩

theorem ioStep {action : IoAction} (hpaced : Paced ⟨state, attempts⟩)
    (hstep : state.ioStep action = some next) :
    Paced ⟨next, record state attempts (.io action)⟩ := by
  cases action <;>
    (simp only [State.ioStep, Option.ite_none_right_eq_some,
        Option.some.injEq] at hstep
     obtain ⟨-, rfl⟩ := hstep
     exact hpaced.frame rfl rfl)

theorem ownerStep {action : OwnerAction} (hpaced : Paced ⟨state, attempts⟩)
    (hstep : state.ownerStep action = some next) :
    Paced ⟨next, record state attempts (.owner action)⟩ := by
  cases action with
  | subscribe symbols =>
      simp only [State.ownerStep, Option.ite_none_right_eq_some] at hstep
      obtain ⟨-, hstep⟩ := hstep
      by_cases hconnected : state.connected = true
      · simp only [hconnected, if_true, Option.ite_none_right_eq_some,
          Option.some.injEq] at hstep
        obtain ⟨-, rfl⟩ := hstep
        simp only [record, hconnected, if_true]
        exact .settled id (by simp [State.startReader]) trivial rfl
      · simp only [hconnected, Bool.false_eq_true, if_false,
          Option.some.injEq] at hstep
        subst hstep
        simp only [record, hconnected]
        exact hpaced.frame rfl rfl
  | joinReader =>
      simp only [State.ownerStep, Option.ite_none_right_eq_some,
        Option.some.injEq] at hstep
      obtain ⟨⟨-, hjoinable⟩, rfl⟩ := hstep
      have htrying : ¬ Trying state.reader := by
        intro htrying
        cases hpoint : state.reader <;> rw [hpoint] at htrying hjoinable <;>
          first | exact htrying | exact hjoinable
      have hsubscribe : state.reader ≠ .sendSubscribe := by
        intro hpoint
        rw [hpoint] at hjoinable
        exact hjoinable
      obtain ⟨hsettled, hdelay⟩ := hpaced.of_settled htrying hsubscribe
      exact .settled id (by simp) hsettled hdelay
  | _ =>
      simp only [State.ownerStep, Option.ite_none_right_eq_some,
        Option.some.injEq] at hstep
      obtain ⟨-, rfl⟩ := hstep
      exact hpaced.frame rfl rfl

/-- The sleep opens an attempt and doubles the delay for the one after it. -/
theorem sleep (hpaced : Paced ⟨state, attempts⟩)
    (hpoint : state.reader = .sleep) :
    Paced ⟨{ state with
        reconnectDelay := min (state.reconnectDelay * 2) 30
        reader := .rebuild },
      ⟨state.reconnectDelay, none⟩ :: attempts⟩ := by
  obtain ⟨hsettled, hdelay⟩ := hpaced.of_settled
    (by rw [hpoint]; exact id) (by simp [hpoint])
  rw [hdelay, ← pace_succ]
  exact .trying trivial hsettled rfl

/-- The reset comes before the subscription. -/
theorem connected (hpaced : Paced ⟨state, attempts⟩)
    (hpoint : state.reader = .performConnect) :
    Paced ⟨{ state with
        connected := true
        reconnectDelay := 1
        reconnectAttempt := 0
        reader := if state.symbols = [] then .read else .sendSubscribe },
      if state.symbols = [] then conclude .successful attempts
      else attempts⟩ := by
  obtain ⟨earlier, rfl, hsettled, -⟩ :=
    hpaced.of_trying (by rw [hpoint]; trivial)
  by_cases hsymbols : state.symbols = []
  · simp only [hsymbols, if_true]
    exact .settled id (by simp) ⟨rfl, hsettled⟩ rfl
  · simp only [hsymbols, if_false]
    exact .subscribing rfl hsettled rfl

theorem refused (hpaced : Paced ⟨state, attempts⟩)
    (hpoint : state.reader = .performConnect) :
    Paced ⟨{ state with connected := false, reader := .testRunning },
      conclude .refused attempts⟩ := by
  obtain ⟨earlier, rfl, hsettled, hdelay⟩ :=
    hpaced.of_trying (by rw [hpoint]; trivial)
  refine .settled id (by simp) ⟨rfl, hsettled⟩ ?_
  simpa [conclude, refusals] using hdelay

theorem subscribed (hpaced : Paced ⟨state, attempts⟩)
    (hpoint : state.reader = .sendSubscribe) (sent : Bool) :
    Paced ⟨if sent then { state with reader := .read }
        else { state with connected := false, reader := .testRunning },
      conclude (if sent then .successful else .unsubscribed) attempts⟩ := by
  obtain ⟨earlier, rfl, hsettled, hdelay⟩ := hpaced.of_subscribing hpoint
  cases sent with
  | true => exact .settled id (by simp) ⟨rfl, hsettled⟩ hdelay
  | false => exact .settled id (by simp) ⟨rfl, hsettled⟩ hdelay

/-- Outside an attempt a step to a point outside an attempt changes neither the
delay nor the attempts. -/
theorem stay (hpaced : Paced ⟨state, attempts⟩)
    (htrying : ¬ Trying state.reader)
    (hsubscribe : state.reader ≠ .sendSubscribe)
    (hdelay : next.reconnectDelay = state.reconnectDelay)
    (hnext : ¬ Trying next.reader) (hpoint : next.reader ≠ .sendSubscribe) :
    Paced ⟨next, attempts⟩ := by
  obtain ⟨hsettled, hpace⟩ := hpaced.of_settled htrying hsubscribe
  exact .settled hnext hpoint hsettled (hdelay.trans hpace)

theorem advance (hpaced : Paced ⟨state, attempts⟩)
    (htrying : Trying state.reader)
    (hdelay : next.reconnectDelay = state.reconnectDelay)
    (hnext : Trying next.reader) : Paced ⟨next, attempts⟩ := by
  obtain ⟨earlier, rfl, hsettled, hpace⟩ := hpaced.of_trying htrying
  exact .trying hnext hsettled (hdelay.trans hpace)

theorem readerStep {action : ReaderAction} (hpaced : Paced ⟨state, attempts⟩)
    (hstep : state.readerStep action = some next) :
    Paced ⟨next, record state attempts (.reader action)⟩ := by
  cases action with
  | sleep =>
      simp only [State.readerStep, Option.ite_none_right_eq_some,
        Option.some.injEq] at hstep
      obtain ⟨hpoint, rfl⟩ := hstep
      exact hpaced.sleep hpoint
  | performConnect reached =>
      simp only [State.readerStep, Option.ite_none_right_eq_some] at hstep
      obtain ⟨hpoint, hnext⟩ := hstep
      cases reached with
      | true =>
          cases hnext
          exact hpaced.connected hpoint
      | false =>
          cases hnext
          exact hpaced.refused hpoint
  | sendSubscribe sent =>
      simp only [State.readerStep, Option.ite_none_right_eq_some] at hstep
      obtain ⟨hpoint, hnext⟩ := hstep
      have hsubscribed := hpaced.subscribed hpoint sent
      cases sent <;> cases hnext <;> exact hsubscribed
  | testRunning =>
      simp only [State.readerStep, Option.ite_none_right_eq_some,
        Option.some.injEq] at hstep
      obtain ⟨hpoint, rfl⟩ := hstep
      refine hpaced.stay (by rw [hpoint]; exact id) (by simp [hpoint]) rfl ?_ ?_
      all_goals cases state.running <;> simp [Trying]
  | testConnected =>
      simp only [State.readerStep, Option.ite_none_right_eq_some] at hstep
      obtain ⟨hpoint, hnext⟩ := hstep
      have htrying : ¬ Trying state.reader := by
        rw [hpoint]
        exact id
      split at hnext <;> cases hnext <;>
        exact hpaced.stay htrying (by simp [hpoint]) rfl id (by simp)
  | read received =>
      simp only [State.readerStep, Option.ite_none_right_eq_some] at hstep
      obtain ⟨hpoint, hnext⟩ := hstep
      have htrying : ¬ Trying state.reader := by
        rw [hpoint]
        exact id
      split at hnext <;> cases hnext <;>
        exact hpaced.stay htrying (by simp [hpoint]) rfl id (by simp)
  | joinIo =>
      simp only [State.readerStep, Option.ite_none_right_eq_some,
        Option.some.injEq] at hstep
      obtain ⟨⟨hpoint, -⟩, rfl⟩ := hstep
      exact hpaced.advance (by rw [hpoint]; trivial) rfl trivial
  | rebuild | restart | storeRunning | launchIo | pause =>
      simp only [State.readerStep, Option.ite_none_right_eq_some,
        Option.some.injEq] at hstep
      obtain ⟨hpoint, rfl⟩ := hstep
      exact hpaced.advance (by rw [hpoint]; trivial) rfl trivial

theorem keep (observed : Observed) (action : Action) (next : Observed)
    (hpaced : Paced observed)
    (hstep : machine.step observed action = some next) : Paced next := by
  obtain ⟨after, hafter, rfl⟩ := Option.map_eq_some_iff.mp hstep
  cases action with
  | owner action => exact hpaced.ownerStep hafter
  | io action => exact hpaced.ioStep hafter
  | reader action => exact hpaced.readerStep hafter

end Paced

theorem paced_of_reachable {observed : Observed}
    (hreach : machine.Reachable observed) : Paced observed :=
  hreach.invariant (.settled id (by simp [ReadLoop.machine]) trivial rfl)
    Paced.keep

theorem Paced.settled_attempts {observed : Observed} (hpaced : Paced observed) :
    Settled observed.attempts := by
  cases hpaced with
  | settled _ _ hsettled _ => exact hsettled
  | trying _ hsettled _ => exact ⟨rfl, hsettled⟩
  | subscribing _ hsettled _ => exact ⟨rfl, hsettled⟩

theorem Paced.delay_bounds {observed : Observed} (hpaced : Paced observed) :
    1 ≤ observed.state.reconnectDelay ∧
      observed.state.reconnectDelay ≤ 30 := by
  cases hpaced with
  | settled _ _ _ hdelay =>
      rw [hdelay]
      exact pace_bounds _
  | trying _ _ hdelay =>
      rw [hdelay]
      exact pace_bounds _
  | subscribing _ _ hdelay =>
      rw [hdelay]
      exact ⟨Nat.le_refl 1, by decide⟩

/-! ## Exactly when the sleeps follow the law -/

/-- Without a failure in `send_subscribe` right before a failed attempt, the
attempts failed in a row are those refused in a row. -/
theorem refusals_eq_failures {attempts : List Attempt}
    (hchain : SubscribesOnRetry attempts)
    (hlast : ∀ last ∈ attempts.head?, last.outcome ≠ some .unsubscribed) :
    refusals attempts = failures attempts := by
  induction attempts with
  | nil => rfl
  | cons attempt earlier ih =>
      have hattempt : attempt.outcome ≠ some .unsubscribed :=
        hlast attempt rfl
      obtain ⟨hhead, hearlier⟩ := List.isChain_cons.mp hchain
      by_cases hrefused : attempt.outcome = some .refused
      · have hfailed : attempt.Failed := .inl hrefused
        have hbefore : ∀ last ∈ earlier.head?,
            last.outcome ≠ some .unsubscribed := by
          intro last hmem hunsubscribed
          exact hhead last hmem hunsubscribed hfailed
        rw [refusals, failures, if_pos hrefused, if_pos hfailed,
          ih hearlier hbefore]
      · have hended : ¬ attempt.Failed := by
          rintro (h | h)
          · exact hrefused h
          · exact hattempt h
        rw [refusals, failures, if_neg hrefused, if_neg hended]

theorem refusals_eq_zero {attempt : Attempt} {earlier : List Attempt}
    (hrefused : attempt.outcome ≠ some .refused) :
    refusals (attempt :: earlier) = 0 :=
  if_neg hrefused

theorem followsLaw_iff {attempts : List Attempt} (hsettled : Settled attempts) :
    FollowsLaw attempts ↔ SubscribesOnRetry attempts := by
  induction attempts with
  | nil => exact iff_of_true trivial .nil
  | cons attempt earlier ih =>
      obtain ⟨hslept, hearlier⟩ := hsettled
      constructor
      · rintro ⟨hfailed, -, hrest⟩
        refine List.isChain_cons.mpr ⟨?_, (ih hearlier).mp hrest⟩
        intro last hlast hunsubscribed hattempt
        obtain ⟨before, rfl⟩ := List.head?_eq_some_iff.mp hlast
        -- The code has slept for one second, the law asks for two at least.
        have hlaw := hfailed hattempt
        have hrefusals : refusals (last :: before) = 0 :=
          refusals_eq_zero (by simp [hunsubscribed])
        have hfailures : failures (last :: before) = failures before + 1 :=
          if_pos (.inr hunsubscribed)
        rw [hslept, hrefusals, hfailures, pace_zero] at hlaw
        have htwo := two_le_pace_succ (failures before)
        omega
      · intro hchain
        obtain ⟨hhead, hrest⟩ := List.isChain_cons.mp hchain
        refine ⟨fun hattempt => ?_, fun hsuccess => ?_, (ih hearlier).mpr hrest⟩
        · rw [hslept, refusals_eq_failures hrest]
          intro last hlast hunsubscribed
          exact hhead last hlast hunsubscribed hattempt
        · cases earlier with
          | nil => cases hsuccess
          | cons last before =>
              have hlast : last.outcome = some .successful := by
                simpa using hsuccess
              rw [hslept, refusals_eq_zero (by simp [hlast]), pace_zero]

/-- In every run of the three threads the sleeps follow the law, with the delay
between 1 and 30 throughout, exactly when no failed attempt comes right after
one that failed in `send_subscribe`. -/
theorem backoff_iff {observed : Observed}
    (hreach : machine.Reachable observed) :
    (FollowsLaw observed.attempts ∧ 1 ≤ observed.state.reconnectDelay ∧
        observed.state.reconnectDelay ≤ 30) ↔
      SubscribesOnRetry observed.attempts := by
  have hpaced := paced_of_reachable hreach
  rw [and_iff_left hpaced.delay_bounds]
  exact followsLaw_iff hpaced.settled_attempts

/-- One attempt, from the test of `running_` to the end of
`perform_connect`. -/
def attempt (reached : Bool) : List Action :=
  [.reader .testRunning, .reader .testConnected, .reader .sleep,
    .reader .rebuild, .io .returned, .reader .restart, .reader .joinIo,
    .reader .storeRunning, .reader .launchIo, .io .testRunning, .reader .pause,
    .reader (.performConnect reached)]

def lost : List Action := ReadLoop.startUp ++ [.reader (.read false)]

/-- Two attempts are refused, and the third is successful. -/
def refusedTwice : Observed where
  state := ReadLoop.reading
  attempts :=
    [⟨4, some .successful⟩, ⟨2, some .refused⟩, ⟨1, some .refused⟩]

theorem backoff_iff_refusedTwice :
    machine.run machine.initial
        (lost ++ attempt false ++ attempt false ++ attempt true ++
          [.reader (.sendSubscribe true)]) = some refusedTwice ∧
      FollowsLaw refusedTwice.attempts := by
  refine ⟨rfl, ((backoff_iff ⟨lost ++ attempt false ++ attempt false ++
    attempt true ++ [.reader (.sendSubscribe true)], rfl⟩).mpr ?_).1⟩
  decide

/-- The server accepts the connection and fails the subscription, and then
refuses the next connection. -/
def unsubscribedThenRefused : Observed where
  state :=
    { ReadLoop.reading with
      connected := false
      reconnectDelay := 2
      reconnectAttempt := 1
      reader := .testRunning }
  attempts := [⟨1, some .refused⟩, ⟨1, some .unsubscribed⟩]

/-- The second failed attempt in a row comes after one second, not two. -/
theorem unsubscribed_attempt_resets_backoff :
    ¬ ∀ observed, machine.Reachable observed → FollowsLaw observed.attempts := by
  intro hclaim
  have hlaw := hclaim unsubscribedThenRefused ⟨lost ++ attempt true ++
    [.reader (.sendSubscribe false)] ++ attempt false, rfl⟩
  have hslept := hlaw.1 (.inl rfl)
  exact absurd hslept (by decide)

end Datafeed.Backoff
