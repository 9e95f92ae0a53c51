import Datafeed.Core.Machine
import Mathlib.Data.Set.Insert

/-!
# Publish and subscribe

Members join and leave, ask for topics, and are given the messages of their
topics from then on.  The hub is the whole of it; a view is what the hub knows
of one member, and what that member hears is a function of its view and of the
events.  The messages in an inbox are therefore fixed by the events that concern
its owner, whatever the other members do.
-/

namespace Datafeed.PubSub

/-- The members present, the topics each of them asked for and the messages
each of them was given. -/
@[ext]
structure Hub (Member Topic Message : Type*) where
  online : Set Member
  subscribed : Member → Set Topic
  inbox : Member → List Message

inductive Event (Member Topic Message : Type*)
  | join (member : Member)
  | leave (member : Member)
  | subscribe (member : Member) (topics : Set Topic)
  /-- A message for the subscribers of a topic. -/
  | publish (topic : Topic) (message : Message)
  /-- A message for everyone present. -/
  | announce (message : Message)
  | tell (member : Member) (message : Message)

variable {Member Topic Message : Type*} [DecidableEq Member]

namespace Hub

def empty : Hub Member Topic Message := ⟨∅, fun _ => ∅, fun _ => []⟩

/-- Who comes has to be absent; who leaves, asks or is told something has to be
present. -/
def Admits (hub : Hub Member Topic Message) :
    Event Member Topic Message → Prop
  | .join member => member ∉ hub.online
  | .leave member | .subscribe member _ | .tell member _ => member ∈ hub.online
  | .publish _ _ | .announce _ => True

open Classical in
noncomputable def after (hub : Hub Member Topic Message) :
    Event Member Topic Message → Hub Member Topic Message
  | .join member =>
      { hub with
        online := insert member hub.online
        subscribed := Function.update hub.subscribed member ∅ }
  | .leave member =>
      { hub with
        online := hub.online \ {member}
        subscribed := Function.update hub.subscribed member ∅ }
  | .subscribe member topics =>
      { hub with
        subscribed := Function.update hub.subscribed member
          (hub.subscribed member ∪ topics) }
  | .publish topic message =>
      { hub with
        inbox := fun member =>
          if topic ∈ hub.subscribed member then hub.inbox member ++ [message]
          else hub.inbox member }
  | .announce message =>
      { hub with
        inbox := fun member =>
          if member ∈ hub.online then hub.inbox member ++ [message]
          else hub.inbox member }
  | .tell member message =>
      { hub with
        inbox := Function.update hub.inbox member
          (hub.inbox member ++ [message]) }

end Hub

open Classical in
noncomputable def machine :
    Machine (Hub Member Topic Message) (Event Member Topic Message) where
  initial := Hub.empty
  step hub event := if hub.Admits event then some (hub.after event) else none

theorem step_eq_some_iff {hub next : Hub Member Topic Message}
    {event : Event Member Topic Message} :
    machine.step hub event = some next ↔
      hub.Admits event ∧ hub.after event = next := by
  simp [machine]

/-! ## What one member sees -/

/-- Whether a member is present, and its topics. -/
@[ext]
structure View (Topic : Type*) where
  present : Prop
  topics : Set Topic

namespace View

/-- The view of a member that never came. -/
def absent : View Topic := ⟨False, ∅⟩

def after (member : Member) (view : View Topic) :
    Event Member Topic Message → View Topic
  | .join other => if other = member then ⟨True, ∅⟩ else view
  | .leave other => if other = member then absent else view
  | .subscribe other topics =>
      if other = member then { view with topics := view.topics ∪ topics }
      else view
  | .publish _ _ | .announce _ | .tell _ _ => view

open Classical in
/-- The messages that an event brings the member. -/
noncomputable def hears (member : Member) (view : View Topic) :
    Event Member Topic Message → List Message
  | .publish topic message => if topic ∈ view.topics then [message] else []
  | .announce message => if view.present then [message] else []
  | .tell other message => if other = member then [message] else []
  | .join _ | .leave _ | .subscribe _ _ => []

/-- The messages that a history brings the member, in order. -/
noncomputable def heard (member : Member) :
    View Topic → List (Event Member Topic Message) → List Message
  | _, [] => []
  | view, event :: events =>
      view.hears member event ++ heard member (view.after member event) events

end View

def Hub.view (hub : Hub Member Topic Message) (member : Member) : View Topic :=
  ⟨member ∈ hub.online, hub.subscribed member⟩

theorem Hub.view_after (hub : Hub Member Topic Message)
    (event : Event Member Topic Message) (member : Member) :
    (hub.after event).view member = (hub.view member).after member event := by
  cases event with
  | join other =>
      by_cases hsame : other = member
      · subst hsame
        simp [Hub.after, Hub.view, View.after]
      · simp [Hub.after, Hub.view, View.after, hsame, Ne.symm hsame]
  | leave other =>
      by_cases hsame : other = member
      · subst hsame
        simp [Hub.after, Hub.view, View.after, View.absent]
      · simp [Hub.after, Hub.view, View.after, hsame, Ne.symm hsame]
  | subscribe other topics =>
      by_cases hsame : other = member
      · subst hsame
        simp [Hub.after, Hub.view, View.after]
      · simp [Hub.after, Hub.view, View.after, hsame, Ne.symm hsame]
  | publish topic message => rfl
  | announce message => rfl
  | tell other message => rfl

theorem Hub.inbox_after (hub : Hub Member Topic Message)
    (event : Event Member Topic Message) (member : Member) :
    (hub.after event).inbox member =
      hub.inbox member ++ (hub.view member).hears member event := by
  cases event with
  | join other => simp [Hub.after, View.hears]
  | leave other => simp [Hub.after, View.hears]
  | subscribe other topics => simp [Hub.after, View.hears]
  | publish topic message =>
      by_cases htopic : topic ∈ hub.subscribed member
      · simp [Hub.after, Hub.view, View.hears, htopic]
      · simp [Hub.after, Hub.view, View.hears, htopic]
  | announce message =>
      by_cases honline : member ∈ hub.online
      · simp [Hub.after, Hub.view, View.hears, honline]
      · simp [Hub.after, Hub.view, View.hears, honline]
  | tell other message =>
      by_cases hsame : other = member
      · subst hsame
        simp [Hub.after, View.hears]
      · simp [Hub.after, View.hears, hsame, Ne.symm hsame]

/-- An inbox holds what its owner heard. -/
theorem inbox_run {hub final : Hub Member Topic Message}
    {events : List (Event Member Topic Message)}
    (hrun : machine.run hub events = some final) (member : Member) :
    final.inbox member =
      hub.inbox member ++ (hub.view member).heard member events := by
  induction events generalizing hub with
  | nil =>
      obtain rfl : hub = final := by simpa using hrun
      simp [View.heard]
  | cons event events ih =>
      obtain ⟨next, hstep, hrest⟩ := Machine.exists_of_run_cons hrun
      obtain ⟨-, rfl⟩ := step_eq_some_iff.mp hstep
      rw [ih hrest, hub.inbox_after, hub.view_after, View.heard,
        List.append_assoc]

theorem inbox_run_initial {final : Hub Member Topic Message}
    {events : List (Event Member Topic Message)}
    (hrun : machine.run machine.initial events = some final)
    (member : Member) :
    final.inbox member = View.absent.heard member events := by
  rw [inbox_run hrun]
  rfl

theorem view_run {hub final : Hub Member Topic Message}
    {events : List (Event Member Topic Message)}
    (hrun : machine.run hub events = some final) (member : Member) :
    final.view member = events.foldl (View.after member) (hub.view member) := by
  induction events generalizing hub with
  | nil =>
      obtain rfl : hub = final := by simpa using hrun
      rfl
  | cons event events ih =>
      obtain ⟨next, hstep, hrest⟩ := Machine.exists_of_run_cons hrun
      obtain ⟨-, rfl⟩ := step_eq_some_iff.mp hstep
      rw [ih hrest, hub.view_after, List.foldl_cons]

/-! ## The events that concern a member -/

/-- Every event but the comings, goings, requests and letters of others. -/
def Event.Concerns (member : Member) : Event Member Topic Message → Prop
  | .join other | .leave other | .subscribe other _ | .tell other _ =>
      other = member
  | .publish _ _ | .announce _ => True

instance (member : Member) :
    DecidablePred
      (Event.Concerns member : Event Member Topic Message → Prop) :=
  fun event =>
    match event with
    | .join other | .leave other | .subscribe other _ | .tell other _ =>
        inferInstanceAs (Decidable (other = member))
    | .publish _ _ | .announce _ => inferInstanceAs (Decidable True)

theorem View.after_of_not_concerns {member : Member} (view : View Topic)
    {event : Event Member Topic Message} (hothers : ¬ event.Concerns member) :
    view.after member event = view := by
  cases event with
  | join other => exact if_neg hothers
  | leave other => exact if_neg hothers
  | subscribe other topics => exact if_neg hothers
  | publish topic message => rfl
  | announce message => rfl
  | tell other message => rfl

theorem View.hears_of_not_concerns {member : Member} (view : View Topic)
    {event : Event Member Topic Message} (hothers : ¬ event.Concerns member) :
    view.hears member event = [] := by
  cases event with
  | join other => rfl
  | leave other => rfl
  | subscribe other topics => rfl
  | publish topic message => exact absurd trivial hothers
  | announce message => exact absurd trivial hothers
  | tell other message => exact if_neg hothers

/-- What a member hears depends on the events that concern it. -/
theorem View.heard_filter (member : Member) (view : View Topic)
    (events : List (Event Member Topic Message)) :
    view.heard member (events.filter fun event => event.Concerns member) =
      view.heard member events := by
  induction events generalizing view with
  | nil => rfl
  | cons event events ih =>
      by_cases hconcerns : event.Concerns member
      · rw [List.filter_cons_of_pos (by simpa using hconcerns), View.heard,
          View.heard, ih]
      · rw [List.filter_cons_of_neg (by simpa using hconcerns), View.heard,
          view.after_of_not_concerns hconcerns,
          view.hears_of_not_concerns hconcerns, ih]
        rfl

theorem View.foldl_after_filter (member : Member) (view : View Topic)
    (events : List (Event Member Topic Message)) :
    (events.filter fun event => event.Concerns member).foldl
        (View.after member) view =
      events.foldl (View.after member) view := by
  induction events generalizing view with
  | nil => rfl
  | cons event events ih =>
      by_cases hconcerns : event.Concerns member
      · rw [List.filter_cons_of_pos (by simpa using hconcerns),
          List.foldl_cons, List.foldl_cons, ih]
      · rw [List.filter_cons_of_neg (by simpa using hconcerns),
          List.foldl_cons, view.after_of_not_concerns hconcerns, ih]

/-! ## A part of the members -/

namespace Hub

open Classical in
/-- The hub of those members alone; an inbox stays as it is. -/
noncomputable def restrict (hub : Hub Member Topic Message)
    (present : Set Member) : Hub Member Topic Message where
  online := hub.online ∩ present
  subscribed member := if member ∈ present then hub.subscribed member else ∅
  inbox := hub.inbox

variable {hub : Hub Member Topic Message} {present : Set Member}
  {member : Member}

omit [DecidableEq Member] in
theorem subscribed_restrict (hpresent : member ∈ present) :
    (hub.restrict present).subscribed member = hub.subscribed member :=
  if_pos hpresent

omit [DecidableEq Member] in
theorem subscribed_restrict_of_notMem (habsent : member ∉ present) :
    (hub.restrict present).subscribed member = ∅ := if_neg habsent

omit [DecidableEq Member] in
theorem restrict_empty :
    (empty : Hub Member Topic Message).restrict present = empty := by
  have hsubscribed : ∀ member,
      (empty.restrict present : Hub Member Topic Message).subscribed member =
        ∅ := fun member => ite_self _
  exact Hub.ext (Set.empty_inter present) (funext hsubscribed) rfl

/-- A member that comes is one more of them. -/
theorem restrict_insert (honline : member ∈ hub.online)
    (hunsubscribed : hub.subscribed member = ∅) :
    hub.restrict (insert member present) =
      (hub.restrict present).after (.join member) := by
  ext other
  · by_cases hsame : other = member
    · simp [restrict, after, hsame, honline]
    · simp [restrict, after, hsame]
  · by_cases hsame : other = member
    · simp [restrict, after, hsame, hunsubscribed]
    · simp [restrict, after, hsame]
  · rfl

/-- A member that goes is one less. -/
theorem restrict_diff :
    hub.restrict (present \ {member}) =
      (hub.restrict present).after (.leave member) := by
  ext other
  · simp [restrict, after, and_assoc]
  · by_cases hsame : other = member
    · simp [restrict, after, hsame]
    · simp [restrict, after, hsame]
  · rfl

/-- Who is none of them comes and goes unseen. -/
theorem restrict_after_join (habsent : member ∉ present) :
    (hub.after (.join member)).restrict present = hub.restrict present := by
  ext other
  · by_cases hsame : other = member
    · simp [restrict, after, hsame, habsent]
    · simp [restrict, after, hsame]
  · by_cases hsame : other = member
    · simp [restrict, after, hsame, habsent]
    · simp [restrict, after, hsame]
  · rfl

theorem restrict_after_leave (habsent : member ∉ present) :
    (hub.after (.leave member)).restrict present = hub.restrict present := by
  ext other
  · by_cases hsame : other = member
    · simp [restrict, after, hsame, habsent]
    · simp [restrict, after, hsame]
  · by_cases hsame : other = member
    · simp [restrict, after, hsame, habsent]
    · simp [restrict, after, hsame]
  · rfl

theorem restrict_after_subscribe (hpresent : member ∈ present)
    (topics : Set Topic) :
    (hub.after (.subscribe member topics)).restrict present =
      (hub.restrict present).after (.subscribe member topics) := by
  ext other
  · rfl
  · by_cases hsame : other = member
    · simp [restrict, after, hsame, hpresent]
    · simp [restrict, after, hsame]
  · rfl

theorem restrict_after_tell (message : Message) :
    (hub.after (.tell member message)).restrict present =
      (hub.restrict present).after (.tell member message) := rfl

/-- A message for a topic passes nobody by whose subscribers are all of them. -/
theorem restrict_after_publish {topic : Topic}
    (hpresent : ∀ member, topic ∈ hub.subscribed member → member ∈ present)
    (message : Message) :
    (hub.after (.publish topic message)).restrict present =
      (hub.restrict present).after (.publish topic message) := by
  classical
  have hsubscribed : ∀ other,
      topic ∈ (hub.restrict present).subscribed other ↔
        topic ∈ hub.subscribed other := by
    intro other
    by_cases hother : other ∈ present
    · rw [subscribed_restrict hother]
    · rw [subscribed_restrict_of_notMem hother]
      exact iff_of_false (Set.notMem_empty topic) (mt (hpresent other) hother)
  refine Hub.ext rfl rfl (funext fun other => ?_)
  exact if_congr (hsubscribed other).symm rfl rfl

theorem restrict_after_announce (hpresent : hub.online ⊆ present)
    (message : Message) :
    (hub.after (.announce message)).restrict present =
      (hub.restrict present).after (.announce message) := by
  classical
  have honline : ∀ other,
      other ∈ (hub.restrict present).online ↔ other ∈ hub.online :=
    fun other => and_iff_left_of_imp fun hother => hpresent hother
  refine Hub.ext rfl rfl (funext fun other => ?_)
  exact if_congr (honline other).symm rfl rfl

end Hub

end Datafeed.PubSub
