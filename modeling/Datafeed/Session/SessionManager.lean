import Datafeed.Core.Machine
import Mathlib.Data.List.AList

/-!
# The session registry and its topic index

`session_manager` keeps two indexes under one mutex: the registered clients
with the topics each of them asked for, and for every topic the sessions that
receive it.  Subscribing to `all_` is expanded into five topics of the second
index while the first one records the name as given.  Sessions are non-null
pointers, so the null checks of the broadcasts always succeed; a topic without
an entry in `topic_subscribers_` is one with no subscriber.
-/

namespace Datafeed.SessionManager

/-- The members of `client_info` other than the session itself, which is the
key of the map. -/
structure ClientInfo where
  mode : String := "unknown"
  backtestDate : String := ""
  topics : List String := []
  deriving DecidableEq

/-- The map `topic_subscribers_`. -/
abbrev TopicIndex (Session : Type) := String → List Session

/-- The two indexes of `session_manager`. -/
structure Manager (Session : Type) where
  clients : AList fun _ : Session => ClientInfo
  topicSubscribers : TopicIndex Session

variable {Session : Type} [DecidableEq Session]

/-- The topics that `all_` stands for, spelled out again in
`remove_client`. -/
def expandedTopics : List String :=
  ["price_", "bid_", "ask_", "quantity_", "time_"]

/-- `subscribers.push_back(session)` unless the session is already listed. -/
def pushSubscriber (session : Session) (index : TopicIndex Session)
    (topic : String) : TopicIndex Session :=
  if session ∈ index topic then index
  else Function.update index topic (index topic ++ [session])

/-- The erase-remove idiom on the list of one topic: every occurrence goes. -/
def eraseSubscriber (session : Session) (index : TopicIndex Session)
    (topic : String) : TopicIndex Session :=
  Function.update index topic ((index topic).filter (· ≠ session))

/-! ## The operations -/

namespace Manager

def empty : Manager Session := ⟨∅, fun _ => []⟩

def addClient (session : Session) (manager : Manager Session) :
    Manager Session :=
  { manager with clients := manager.clients.insert session {} }

def removeClient (session : Session) (manager : Manager Session) :
    Manager Session :=
  match manager.clients.lookup session with
  | none => manager
  | some info =>
      let unsubscribed :=
        info.topics.foldl (eraseSubscriber session) manager.topicSubscribers
      { clients := manager.clients.erase session
        topicSubscribers :=
          expandedTopics.foldl (eraseSubscriber session) unsubscribed }

def setClientMode (session : Session) (mode date : String)
    (manager : Manager Session) : Manager Session :=
  match manager.clients.lookup session with
  | none => manager
  | some info =>
      { manager with
        clients := manager.clients.insert session
          { info with mode := mode, backtestDate := date } }

/-- One round of the loop of `add_client_topics`, on the topics of the client
and the index. -/
def addTopic (session : Session) (state : List String × TopicIndex Session)
    (topic : String) : List String × TopicIndex Session :=
  (if topic ∈ state.1 then state.1 else state.1 ++ [topic],
    if topic = "all_" then
      expandedTopics.foldl (pushSubscriber session) state.2
    else pushSubscriber session state.2 topic)

def addClientTopics (session : Session) (topics : List String)
    (manager : Manager Session) : Manager Session :=
  match manager.clients.lookup session with
  | none => manager
  | some info =>
      let merged := topics.foldl (addTopic session)
        (info.topics, manager.topicSubscribers)
      { clients := manager.clients.insert session
          { info with topics := merged.1 }
        topicSubscribers := merged.2 }

/-- One round of the loop of `remove_client_topics`; here `all_` is a topic
name like any other. -/
def removeTopic (session : Session) (state : List String × TopicIndex Session)
    (topic : String) : List String × TopicIndex Session :=
  (state.1.filter (· ≠ topic), eraseSubscriber session state.2 topic)

def removeClientTopics (session : Session) (topics : List String)
    (manager : Manager Session) : Manager Session :=
  match manager.clients.lookup session with
  | none => manager
  | some info =>
      let remaining := topics.foldl (removeTopic session)
        (info.topics, manager.topicSubscribers)
      { clients := manager.clients.insert session
          { info with topics := remaining.1 }
        topicSubscribers := remaining.2 }

/-- The calls of `send_message` made by `broadcast_to_topic`, in order. -/
def broadcastToTopic (topic message : String) (manager : Manager Session) :
    List (Session × String) :=
  (manager.topicSubscribers topic).map fun session => (session, message)

/-- The calls of `send_message` made by `broadcast_all`. -/
def broadcastAll (message : String) (manager : Manager Session) :
    List (Session × String) :=
  manager.clients.keys.map fun session => (session, message)

end Manager

open Manager

/-- The mutating calls of the registry. -/
inductive Operation (Session : Type)
  | addClient (session : Session)
  | removeClient (session : Session)
  | setClientMode (session : Session) (mode date : String)
  | addClientTopics (session : Session) (topics : List String)
  | removeClientTopics (session : Session) (topics : List String)
  deriving DecidableEq

/-- The registry under any sequence of calls, each atomic under `mutex_`.  A
session is only added while it is not registered: its constructor is the only
caller of `add_client`. -/
def machine : Machine (Manager Session) (Operation Session) where
  initial := Manager.empty
  step manager operation :=
    match operation with
    | .addClient session =>
        if session ∈ manager.clients then none
        else some (manager.addClient session)
    | .removeClient session => some (manager.removeClient session)
    | .setClientMode session mode date =>
        some (manager.setClientMode session mode date)
    | .addClientTopics session topics =>
        some (manager.addClientTopics session topics)
    | .removeClientTopics session topics =>
        some (manager.removeClientTopics session topics)

/-! ## What the two index primitives do -/

theorem mem_pushSubscriber {session other : Session}
    {index : TopicIndex Session} {topic queried : String} :
    other ∈ pushSubscriber session index topic queried ↔
      other ∈ index queried ∨ queried = topic ∧ other = session := by
  unfold pushSubscriber
  split
  · next hlisted =>
      constructor
      · exact Or.inl
      · rintro (hmem | ⟨rfl, rfl⟩)
        · exact hmem
        · exact hlisted
  · by_cases hqueried : queried = topic
    · subst hqueried
      simp
    · simp [hqueried]

theorem nodup_pushSubscriber {session : Session} {index : TopicIndex Session}
    {topic : String} (hnodup : ∀ queried, (index queried).Nodup)
    (queried : String) :
    (pushSubscriber session index topic queried).Nodup := by
  unfold pushSubscriber
  split
  · exact hnodup queried
  · next hnew =>
      by_cases hqueried : queried = topic
      · subst hqueried
        rw [Function.update_self, List.nodup_append]
        refine ⟨hnodup queried, List.nodup_singleton session, ?_⟩
        intro first hfirst second hsecond heq
        obtain rfl := List.mem_singleton.mp hsecond
        exact hnew (heq ▸ hfirst)
      · rw [Function.update_of_ne hqueried]
        exact hnodup queried

theorem mem_eraseSubscriber {session other : Session}
    {index : TopicIndex Session} {topic queried : String} :
    other ∈ eraseSubscriber session index topic queried ↔
      other ∈ index queried ∧ (queried = topic → other ≠ session) := by
  unfold eraseSubscriber
  by_cases hqueried : queried = topic
  · subst hqueried
    simp
  · simp [hqueried]

theorem nodup_eraseSubscriber {session : Session} {index : TopicIndex Session}
    {topic : String} (hnodup : ∀ queried, (index queried).Nodup)
    (queried : String) :
    (eraseSubscriber session index topic queried).Nodup := by
  unfold eraseSubscriber
  by_cases hqueried : queried = topic
  · subst hqueried
    rw [Function.update_self]
    exact (hnodup queried).filter _
  · rw [Function.update_of_ne hqueried]
    exact hnodup queried

theorem mem_foldl_pushSubscriber {session other : Session}
    {index : TopicIndex Session} {topics : List String} {queried : String} :
    other ∈ topics.foldl (pushSubscriber session) index queried ↔
      other ∈ index queried ∨ queried ∈ topics ∧ other = session := by
  induction topics generalizing index with
  | nil => simp
  | cons topic topics ih =>
      rw [List.foldl_cons, ih, mem_pushSubscriber, List.mem_cons]
      tauto

theorem nodup_foldl_pushSubscriber {session : Session}
    {index : TopicIndex Session} {topics : List String}
    (hnodup : ∀ queried, (index queried).Nodup) (queried : String) :
    (topics.foldl (pushSubscriber session) index queried).Nodup := by
  induction topics generalizing index with
  | nil => exact hnodup queried
  | cons topic topics ih => exact ih (nodup_pushSubscriber hnodup)

theorem mem_foldl_eraseSubscriber {session other : Session}
    {index : TopicIndex Session} {topics : List String} {queried : String} :
    other ∈ topics.foldl (eraseSubscriber session) index queried ↔
      other ∈ index queried ∧ (queried ∈ topics → other ≠ session) := by
  induction topics generalizing index with
  | nil => simp
  | cons topic topics ih =>
      rw [List.foldl_cons, ih, mem_eraseSubscriber, List.mem_cons]
      tauto

theorem nodup_foldl_eraseSubscriber {session : Session}
    {index : TopicIndex Session} {topics : List String}
    (hnodup : ∀ queried, (index queried).Nodup) (queried : String) :
    (topics.foldl (eraseSubscriber session) index queried).Nodup := by
  induction topics generalizing index with
  | nil => exact hnodup queried
  | cons topic topics ih => exact ih (nodup_eraseSubscriber hnodup)

/-! ## What the two loops do -/

/-- The topics whose lists `add_client_topics` extends for one name. -/
def grantedTopics (topic : String) : List String :=
  if topic = "all_" then expandedTopics else [topic]

theorem addTopic_snd (session : Session)
    (state : List String × TopicIndex Session) (topic : String) :
    (addTopic session state topic).2 =
      (grantedTopics topic).foldl (pushSubscriber session) state.2 := by
  by_cases hall : topic = "all_" <;> simp [addTopic, grantedTopics, hall]

theorem mem_foldl_addTopic_fst {session : Session} {topics : List String}
    {state : List String × TopicIndex Session} {queried : String} :
    queried ∈ (topics.foldl (addTopic session) state).1 ↔
      queried ∈ state.1 ∨ queried ∈ topics := by
  induction topics generalizing state with
  | nil => simp
  | cons topic topics ih =>
      have hround : queried ∈ (addTopic session state topic).1 ↔
          queried ∈ state.1 ∨ queried = topic := by
        unfold addTopic
        by_cases hlisted : topic ∈ state.1
        · rw [if_pos hlisted]
          constructor
          · exact Or.inl
          · rintro (hmem | rfl)
            · exact hmem
            · exact hlisted
        · simp [hlisted]
      rw [List.foldl_cons, ih, hround, List.mem_cons, or_assoc]

theorem mem_foldl_addTopic_snd {session other : Session} {topics : List String}
    {state : List String × TopicIndex Session} {queried : String} :
    other ∈ (topics.foldl (addTopic session) state).2 queried ↔
      other ∈ state.2 queried ∨
        (∃ topic ∈ topics, queried ∈ grantedTopics topic) ∧
          other = session := by
  induction topics generalizing state with
  | nil => simp
  | cons topic topics ih =>
      rw [List.foldl_cons, ih, addTopic_snd, mem_foldl_pushSubscriber]
      simp only [List.exists_mem_cons_iff]
      tauto

theorem nodup_foldl_addTopic_snd {session : Session} {topics : List String}
    {state : List String × TopicIndex Session}
    (hnodup : ∀ queried, (state.2 queried).Nodup) (queried : String) :
    ((topics.foldl (addTopic session) state).2 queried).Nodup := by
  induction topics generalizing state with
  | nil => exact hnodup queried
  | cons topic topics ih =>
      refine ih fun queried => ?_
      rw [addTopic_snd]
      exact nodup_foldl_pushSubscriber hnodup queried

theorem mem_foldl_removeTopic_fst {session : Session} {topics : List String}
    {state : List String × TopicIndex Session} {queried : String} :
    queried ∈ (topics.foldl (removeTopic session) state).1 ↔
      queried ∈ state.1 ∧ queried ∉ topics := by
  induction topics generalizing state with
  | nil => simp
  | cons topic topics ih =>
      rw [List.foldl_cons, ih, List.mem_cons]
      simp only [removeTopic, List.mem_filter, decide_eq_true_eq]
      tauto

theorem foldl_removeTopic_snd (session : Session) (topics : List String)
    (state : List String × TopicIndex Session) :
    (topics.foldl (removeTopic session) state).2 =
      topics.foldl (eraseSubscriber session) state.2 := by
  induction topics generalizing state with
  | nil => rfl
  | cons topic topics ih => exact ih _

/-! ## What each operation does to the two indexes -/

theorem mem_topicSubscribers_removeClient {session other : Session}
    {manager : Manager Session} {info : ClientInfo} {topic : String}
    (hlookup : manager.clients.lookup session = some info) :
    other ∈ (manager.removeClient session).topicSubscribers topic ↔
      other ∈ manager.topicSubscribers topic ∧
        (topic ∈ info.topics ∨ topic ∈ expandedTopics → other ≠ session) := by
  simp only [removeClient, hlookup, mem_foldl_eraseSubscriber]
  tauto

theorem mem_topicSubscribers_addClientTopics {session other : Session}
    {manager : Manager Session} {topics : List String} {info : ClientInfo}
    {topic : String} (hlookup : manager.clients.lookup session = some info) :
    other ∈ (manager.addClientTopics session topics).topicSubscribers topic ↔
      other ∈ manager.topicSubscribers topic ∨
        (∃ granting ∈ topics, topic ∈ grantedTopics granting) ∧
          other = session := by
  simp only [addClientTopics, hlookup, mem_foldl_addTopic_snd]

theorem mem_topicSubscribers_removeClientTopics {session other : Session}
    {manager : Manager Session} {topics : List String} {info : ClientInfo}
    {topic : String} (hlookup : manager.clients.lookup session = some info) :
    other ∈ (manager.removeClientTopics session topics).topicSubscribers topic ↔
      other ∈ manager.topicSubscribers topic ∧
        (topic ∈ topics → other ≠ session) := by
  simp only [removeClientTopics, hlookup, foldl_removeTopic_snd,
    mem_foldl_eraseSubscriber]

/-! ## Which sessions are registered -/

theorem mem_insert_known {clients : AList fun _ : Session => ClientInfo}
    {session known : Session} {old new : ClientInfo}
    (hlookup : clients.lookup known = some old) :
    session ∈ clients.insert known new ↔ session ∈ clients := by
  have hknown : known ∈ clients :=
    AList.lookup_isSome.mp (by rw [hlookup]; rfl)
  rw [AList.mem_insert]
  constructor
  · intro hmem
    rcases hmem with rfl | hmem
    · exact hknown
    · exact hmem
  · exact Or.inr

@[simp]
theorem mem_clients_addClient {manager : Manager Session}
    {session added : Session} :
    session ∈ (manager.addClient added).clients ↔
      session = added ∨ session ∈ manager.clients :=
  AList.mem_insert _

@[simp]
theorem mem_clients_removeClient {manager : Manager Session}
    {session removed : Session} :
    session ∈ (manager.removeClient removed).clients ↔
      session ≠ removed ∧ session ∈ manager.clients := by
  cases hlookup : manager.clients.lookup removed with
  | none =>
      have hgone := AList.lookup_eq_none.mp hlookup
      simp only [Manager.removeClient, hlookup]
      exact ⟨fun hmem => ⟨fun hsame => hgone (hsame ▸ hmem), hmem⟩, And.right⟩
  | some info =>
      simp only [Manager.removeClient, hlookup]
      exact AList.mem_erase

@[simp]
theorem mem_clients_setClientMode {manager : Manager Session}
    {session updated : Session} {mode date : String} :
    session ∈ (manager.setClientMode updated mode date).clients ↔
      session ∈ manager.clients := by
  cases hlookup : manager.clients.lookup updated with
  | none => simp [Manager.setClientMode, hlookup]
  | some info =>
      simp only [Manager.setClientMode, hlookup]
      exact mem_insert_known hlookup

@[simp]
theorem mem_clients_addClientTopics {manager : Manager Session}
    {session updated : Session} {topics : List String} :
    session ∈ (manager.addClientTopics updated topics).clients ↔
      session ∈ manager.clients := by
  cases hlookup : manager.clients.lookup updated with
  | none => simp [Manager.addClientTopics, hlookup]
  | some info =>
      simp only [Manager.addClientTopics, hlookup]
      exact mem_insert_known hlookup

@[simp]
theorem mem_clients_removeClientTopics {manager : Manager Session}
    {session updated : Session} {topics : List String} :
    session ∈ (manager.removeClientTopics updated topics).clients ↔
      session ∈ manager.clients := by
  cases hlookup : manager.clients.lookup updated with
  | none => simp [Manager.removeClientTopics, hlookup]
  | some info =>
      simp only [Manager.removeClientTopics, hlookup]
      exact mem_insert_known hlookup

/-! ## The invariant -/

/-- Every entry of the index belongs to a registered session whose own list
names the topic, or the topic is one of the five that `all_` expands to; and no
session is listed twice under a topic. -/
structure Indexed (manager : Manager Session) : Prop where
  recorded : ∀ topic session, session ∈ manager.topicSubscribers topic →
    ∃ info, manager.clients.lookup session = some info ∧
      (topic ∈ info.topics ∨ topic ∈ expandedTopics)
  nodup : ∀ topic, (manager.topicSubscribers topic).Nodup

theorem Indexed.registered {manager : Manager Session}
    (hindexed : Indexed manager) {topic : String} {session : Session}
    (hlisted : session ∈ manager.topicSubscribers topic) :
    session ∈ manager.clients := by
  obtain ⟨info, hlookup, -⟩ := hindexed.recorded topic session hlisted
  exact AList.lookup_isSome.mp (by rw [hlookup]; rfl)

theorem indexed_empty : Indexed (Manager.empty : Manager Session) where
  recorded _ _ hlisted := by simp [Manager.empty] at hlisted
  nodup _ := List.nodup_nil

theorem Indexed.addClient {manager : Manager Session}
    (hindexed : Indexed manager) {session : Session}
    (hnew : session ∉ manager.clients) :
    Indexed (manager.addClient session) where
  recorded topic other hlisted := by
    have hother : other ≠ session := by
      rintro rfl
      exact hnew (hindexed.registered hlisted)
    obtain ⟨info, hlookup, htopic⟩ := hindexed.recorded topic other hlisted
    exact ⟨info, by
      rw [Manager.addClient, AList.lookup_insert_ne hother, hlookup], htopic⟩
  nodup := hindexed.nodup

theorem Indexed.removeClient {manager : Manager Session}
    (hindexed : Indexed manager) (session : Session) :
    Indexed (manager.removeClient session) := by
  cases hlookup : manager.clients.lookup session with
  | none => simpa [Manager.removeClient, hlookup] using hindexed
  | some removed =>
      refine ⟨fun topic other hlisted => ?_, fun topic => ?_⟩
      · obtain ⟨hbefore, hkept⟩ :=
          (mem_topicSubscribers_removeClient hlookup).mp hlisted
        obtain ⟨info, hother, htopic⟩ := hindexed.recorded topic other hbefore
        have hne : other ≠ session := by
          rintro rfl
          obtain rfl : removed = info := by
            rw [hlookup] at hother
            exact Option.some.inj hother
          exact hkept htopic rfl
        refine ⟨info, ?_, htopic⟩
        simp only [Manager.removeClient, hlookup]
        rw [AList.lookup_erase_ne hne, hother]
      · simp only [Manager.removeClient, hlookup]
        exact nodup_foldl_eraseSubscriber
          (nodup_foldl_eraseSubscriber hindexed.nodup) topic

/-- Replacing the record of one session keeps an index entry recorded when
the new record keeps the topic. -/
theorem recorded_insert {manager : Manager Session} {session other : Session}
    {old new : ClientInfo} {topic : String}
    (hold : manager.clients.lookup session = some old)
    (hrecorded : ∃ info, manager.clients.lookup other = some info ∧
      (topic ∈ info.topics ∨ topic ∈ expandedTopics))
    (hkeep : other = session → topic ∈ old.topics → topic ∈ new.topics) :
    ∃ info, (manager.clients.insert session new).lookup other = some info ∧
      (topic ∈ info.topics ∨ topic ∈ expandedTopics) := by
  obtain ⟨info, hother, htopic⟩ := hrecorded
  by_cases hne : other = session
  · subst hne
    obtain rfl : old = info := by
      rw [hold] at hother
      exact Option.some.inj hother
    exact ⟨new, AList.lookup_insert _, htopic.imp_left (hkeep rfl)⟩
  · exact ⟨info, by rw [AList.lookup_insert_ne hne, hother], htopic⟩

theorem Indexed.setClientMode {manager : Manager Session}
    (hindexed : Indexed manager) (session : Session) (mode date : String) :
    Indexed (manager.setClientMode session mode date) := by
  cases hlookup : manager.clients.lookup session with
  | none => simpa [Manager.setClientMode, hlookup] using hindexed
  | some old =>
      simp only [Manager.setClientMode, hlookup]
      exact ⟨fun topic other hlisted =>
        recorded_insert hlookup (hindexed.recorded topic other hlisted)
          fun _ htopic => htopic, hindexed.nodup⟩

theorem mem_topics_of_mem_grantedTopics {topic granting : String}
    (hgranted : topic ∈ grantedTopics granting) :
    topic = granting ∨ topic ∈ expandedTopics := by
  unfold grantedTopics at hgranted
  split at hgranted
  · exact Or.inr hgranted
  · exact Or.inl (List.mem_singleton.mp hgranted)

theorem Indexed.addClientTopics {manager : Manager Session}
    (hindexed : Indexed manager) (session : Session) (topics : List String) :
    Indexed (manager.addClientTopics session topics) := by
  cases hlookup : manager.clients.lookup session with
  | none => simpa [Manager.addClientTopics, hlookup] using hindexed
  | some old =>
      refine ⟨fun topic other hlisted => ?_, fun topic => ?_⟩
      · rcases (mem_topicSubscribers_addClientTopics hlookup).mp hlisted with
          hbefore | ⟨⟨granting, hgranting, hgranted⟩, rfl⟩
        · simp only [Manager.addClientTopics, hlookup]
          exact recorded_insert hlookup
            (hindexed.recorded topic other hbefore) fun _ htopic =>
              mem_foldl_addTopic_fst.mpr (Or.inl htopic)
        · simp only [Manager.addClientTopics, hlookup]
          refine ⟨_, AList.lookup_insert _, ?_⟩
          refine (mem_topics_of_mem_grantedTopics hgranted).imp_left ?_
          rintro rfl
          exact mem_foldl_addTopic_fst.mpr (Or.inr hgranting)
      · simp only [Manager.addClientTopics, hlookup]
        exact nodup_foldl_addTopic_snd hindexed.nodup topic

theorem Indexed.removeClientTopics {manager : Manager Session}
    (hindexed : Indexed manager) (session : Session) (topics : List String) :
    Indexed (manager.removeClientTopics session topics) := by
  cases hlookup : manager.clients.lookup session with
  | none => simpa [Manager.removeClientTopics, hlookup] using hindexed
  | some old =>
      refine ⟨fun topic other hlisted => ?_, fun topic => ?_⟩
      · obtain ⟨hbefore, hkept⟩ :=
          (mem_topicSubscribers_removeClientTopics hlookup).mp hlisted
        simp only [Manager.removeClientTopics, hlookup]
        exact recorded_insert hlookup (hindexed.recorded topic other hbefore)
          fun hsame htopic => mem_foldl_removeTopic_fst.mpr
            ⟨htopic, fun hremoved => hkept hremoved hsame⟩
      · simp only [Manager.removeClientTopics, hlookup, foldl_removeTopic_snd]
        exact nodup_foldl_eraseSubscriber hindexed.nodup topic

theorem indexed_step {manager next : Manager Session}
    {operation : Operation Session} (hindexed : Indexed manager)
    (hstep : machine.step manager operation = some next) : Indexed next := by
  cases operation with
  | addClient session =>
      simp only [machine] at hstep
      split at hstep
      · cases hstep
      · next hnew =>
          obtain rfl := Option.some.inj hstep
          exact hindexed.addClient hnew
  | removeClient session =>
      obtain rfl := Option.some.inj hstep
      exact hindexed.removeClient session
  | setClientMode session mode date =>
      obtain rfl := Option.some.inj hstep
      exact hindexed.setClientMode session mode date
  | addClientTopics session topics =>
      obtain rfl := Option.some.inj hstep
      exact hindexed.addClientTopics session topics
  | removeClientTopics session topics =>
      obtain rfl := Option.some.inj hstep
      exact hindexed.removeClientTopics session topics

theorem indexed_of_reachable {manager : Manager Session}
    (hreach : machine.Reachable manager) : Indexed manager :=
  hreach.invariant indexed_empty fun _ _ _ hindexed hstep =>
    indexed_step hindexed hstep

/-! ## Broadcasts -/

omit [DecidableEq Session] in
theorem mem_broadcastToTopic {manager : Manager Session}
    {topic message text : String} {session : Session} :
    (session, text) ∈ manager.broadcastToTopic topic message ↔
      session ∈ manager.topicSubscribers topic ∧ text = message := by
  simp [broadcastToTopic, eq_comm]

/-- Under the invariant a broadcast calls `send_message` once for each
subscriber of the topic and for nobody else. -/
theorem count_broadcastToTopic {manager : Manager Session}
    (hindexed : Indexed manager) (topic message : String) (session : Session) :
    (manager.broadcastToTopic topic message).count (session, message) =
      if session ∈ manager.topicSubscribers topic then 1 else 0 := by
  have hinjective :
      Function.Injective fun other : Session => (other, message) :=
    fun _ _ heq => congrArg Prod.fst heq
  have hnodup : (manager.broadcastToTopic topic message).Nodup :=
    (hindexed.nodup topic).map hinjective
  rw [hnodup.count]
  simp [mem_broadcastToTopic]

/-- Only `add_client` registers a session. -/
theorem not_mem_clients_step {manager next : Manager Session}
    {operation : Operation Session} {session : Session}
    (hgone : session ∉ manager.clients)
    (hother : operation ≠ .addClient session)
    (hstep : machine.step manager operation = some next) :
    session ∉ next.clients := by
  cases operation with
  | addClient added =>
      simp only [machine] at hstep
      split at hstep
      · cases hstep
      · obtain rfl := Option.some.inj hstep
        have hne : session ≠ added := fun hsame => hother (by rw [hsame])
        simp [hne, hgone]
  | removeClient removed =>
      obtain rfl := Option.some.inj hstep
      simp [hgone]
  | setClientMode updated mode date =>
      obtain rfl := Option.some.inj hstep
      simpa using hgone
  | addClientTopics updated topics =>
      obtain rfl := Option.some.inj hstep
      simpa using hgone
  | removeClientTopics updated topics =>
      obtain rfl := Option.some.inj hstep
      simpa using hgone

/-- A session stays unregistered along every run that does not add it again. -/
theorem not_mem_clients_run {manager final : Manager Session}
    {operations : List (Operation Session)} {session : Session}
    (hgone : session ∉ manager.clients)
    (hother : .addClient session ∉ operations)
    (hrun : machine.run manager operations = some final) :
    session ∉ final.clients := by
  induction operations generalizing manager with
  | nil =>
      obtain rfl : manager = final := by simpa using hrun
      exact hgone
  | cons operation operations ih =>
      obtain ⟨next, hstep, hrest⟩ := Machine.exists_of_run_cons hrun
      rw [List.mem_cons, not_or] at hother
      exact ih (not_mem_clients_step hgone (Ne.symm hother.1) hstep) hother.2
        hrest

/-- Two sessions, one of which subscribed through `all_` with duplicates. -/
def sampleManager : Manager ℕ :=
  (((((Manager.empty.addClient 1).addClient 2).addClientTopics 1
    ["all_", "ticker_", "all_", "price_"]).addClientTopics 2
    ["price_"]).removeClientTopics 1 ["all_"])

theorem reachable_sampleManager : machine.Reachable sampleManager :=
  ⟨[.addClient 1, .addClient 2,
    .addClientTopics 1 ["all_", "ticker_", "all_", "price_"],
    .addClientTopics 2 ["price_"], .removeClientTopics 1 ["all_"]], rfl⟩

end Datafeed.SessionManager
