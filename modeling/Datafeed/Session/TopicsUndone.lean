import Datafeed.Session.SessionManager

/-!
# Removing the topics that were added

`add_client_topics` expands `all_` into five lists, `remove_client_topics` takes
each name as it is.  A removal undoes an addition only when the list spells out
what `all_` stands for.
-/

namespace Datafeed.SessionManager

open Manager

variable {Session : Type} [DecidableEq Session]

/-- The client's own list has the topic. -/
def Records (manager : Manager Session) (session : Session) (topic : String) :
    Prop :=
  ∃ info, manager.clients.lookup session = some info ∧ topic ∈ info.topics

section Lookup

variable {manager : Manager Session} {session other : Session}
  {info : ClientInfo} {topics : List String} {topic : String}

theorem records_iff_of_lookup
    (hlookup : manager.clients.lookup session = some info) :
    Records manager session topic ↔ topic ∈ info.topics := by
  simp [Records, hlookup]

/-- Replacing the record of a session leaves the other records alone. -/
theorem records_insert_of_ne {index : TopicIndex Session}
    (hother : other ≠ session) :
    Records ⟨manager.clients.insert session info, index⟩ other topic ↔
      Records manager other topic := by
  simp only [Records, AList.lookup_insert_ne hother]

theorem records_addClientTopics
    (hlookup : manager.clients.lookup session = some info) :
    Records (manager.addClientTopics session topics) other topic ↔
      Records manager other topic ∨ other = session ∧ topic ∈ topics := by
  simp only [addClientTopics, hlookup]
  by_cases hother : other = session
  · subst hother
    rw [records_iff_of_lookup (AList.lookup_insert _),
      records_iff_of_lookup hlookup]
    simp [mem_foldl_addTopic_fst]
  · rw [records_insert_of_ne hother]
    simp [hother]

theorem records_removeClientTopics
    (hlookup : manager.clients.lookup session = some info) :
    Records (manager.removeClientTopics session topics) other topic ↔
      Records manager other topic ∧ (other = session → topic ∉ topics) := by
  simp only [removeClientTopics, hlookup]
  by_cases hother : other = session
  · subst hother
    rw [records_iff_of_lookup (AList.lookup_insert _),
      records_iff_of_lookup hlookup]
    simp [mem_foldl_removeTopic_fst]
  · rw [records_insert_of_ne hother]
    simp [hother]

theorem records_removeClient
    (hlookup : manager.clients.lookup session = some info) :
    Records (manager.removeClient session) other topic ↔
      other ≠ session ∧ Records manager other topic := by
  simp only [Records, removeClient, hlookup]
  by_cases hother : other = session
  · subst hother
    simp [AList.lookup_erase]
  · simp [AList.lookup_erase_ne hother, hother]

theorem exists_lookup_addClientTopics
    (hlookup : manager.clients.lookup session = some info)
    (topics : List String) :
    ∃ added, (manager.addClientTopics session topics).clients.lookup session =
      some added := by
  simp only [addClientTopics, hlookup]
  exact ⟨_, AList.lookup_insert _⟩

end Lookup

/-! ## What a client names it receives -/

/-- Nothing is listed under `all_` itself, and a client is listed under every
other topic it has named. -/
structure Listed (manager : Manager Session) : Prop where
  all : ∀ session, session ∉ manager.topicSubscribers "all_"
  named : ∀ session topic, Records manager session topic → topic ≠ "all_" →
    session ∈ manager.topicSubscribers topic

theorem listed_empty : Listed (Manager.empty : Manager Session) where
  all _ := List.not_mem_nil
  named session topic hrecords _ := by
    obtain ⟨info, hlookup, -⟩ := hrecords
    cases hlookup

theorem all_not_granted (granting : String) :
    "all_" ∉ grantedTopics granting := by
  unfold grantedTopics
  split
  · decide
  · next hother => simpa using Ne.symm hother

section Operations

variable {manager : Manager Session}

theorem Listed.addClient (hlisted : Listed manager) {session : Session}
    (hnew : session ∉ manager.clients) :
    Listed (manager.addClient session) where
  all := hlisted.all
  named other topic hrecords htopic := by
    by_cases hother : other = session
    · subst hother
      rw [Manager.addClient,
        records_iff_of_lookup (AList.lookup_insert _)] at hrecords
      cases hrecords
    · rw [Manager.addClient, records_insert_of_ne hother] at hrecords
      exact hlisted.named other topic hrecords htopic

theorem Listed.removeClient (hlisted : Listed manager) (session : Session) :
    Listed (manager.removeClient session) := by
  cases hlookup : manager.clients.lookup session with
  | none => simpa [Manager.removeClient, hlookup] using hlisted
  | some info =>
      refine ⟨fun other hmem => ?_, fun other topic hrecords htopic => ?_⟩
      · exact hlisted.all other
          ((mem_topicSubscribers_removeClient hlookup).mp hmem).1
      · obtain ⟨hother, hbefore⟩ := (records_removeClient hlookup).mp hrecords
        rw [mem_topicSubscribers_removeClient hlookup]
        exact ⟨hlisted.named other topic hbefore htopic, fun _ => hother⟩

theorem Listed.setClientMode (hlisted : Listed manager) (session : Session)
    (mode date : String) :
    Listed (manager.setClientMode session mode date) := by
  cases hlookup : manager.clients.lookup session with
  | none => simpa [Manager.setClientMode, hlookup] using hlisted
  | some info =>
      have hrecords : ∀ other topic,
          Records (manager.setClientMode session mode date) other topic ↔
            Records manager other topic := by
        intro other topic
        simp only [Manager.setClientMode, hlookup]
        by_cases hother : other = session
        · subst hother
          rw [records_iff_of_lookup (AList.lookup_insert _),
            records_iff_of_lookup hlookup]
        · exact records_insert_of_ne hother
      have hindex : (manager.setClientMode session mode date).topicSubscribers =
          manager.topicSubscribers := by
        simp only [Manager.setClientMode, hlookup]
      refine ⟨fun other => ?_, fun other topic hnext htopic => ?_⟩
      · rw [hindex]
        exact hlisted.all other
      · rw [hindex]
        exact hlisted.named other topic ((hrecords other topic).mp hnext) htopic

theorem Listed.addClientTopics (hlisted : Listed manager) (session : Session)
    (topics : List String) :
    Listed (manager.addClientTopics session topics) := by
  cases hlookup : manager.clients.lookup session with
  | none => simpa [Manager.addClientTopics, hlookup] using hlisted
  | some info =>
      refine ⟨fun other hmem => ?_, fun other topic hrecords htopic => ?_⟩
      · rcases (mem_topicSubscribers_addClientTopics hlookup).mp hmem with
          hbefore | ⟨⟨granting, -, hgranted⟩, -⟩
        · exact hlisted.all other hbefore
        · exact all_not_granted granting hgranted
      · rw [mem_topicSubscribers_addClientTopics hlookup]
        rcases (records_addClientTopics hlookup).mp hrecords with
          hbefore | ⟨rfl, hadded⟩
        · exact Or.inl (hlisted.named other topic hbefore htopic)
        · refine Or.inr ⟨⟨topic, hadded, ?_⟩, rfl⟩
          simp [grantedTopics, htopic]

theorem Listed.removeClientTopics (hlisted : Listed manager)
    (session : Session) (topics : List String) :
    Listed (manager.removeClientTopics session topics) := by
  cases hlookup : manager.clients.lookup session with
  | none => simpa [Manager.removeClientTopics, hlookup] using hlisted
  | some info =>
      refine ⟨fun other hmem => ?_, fun other topic hrecords htopic => ?_⟩
      · exact hlisted.all other
          ((mem_topicSubscribers_removeClientTopics hlookup).mp hmem).1
      · obtain ⟨hbefore, hkept⟩ :=
          (records_removeClientTopics hlookup).mp hrecords
        rw [mem_topicSubscribers_removeClientTopics hlookup]
        exact ⟨hlisted.named other topic hbefore htopic,
          fun hremoved hsame => hkept hsame hremoved⟩

end Operations

theorem listed_step {manager next : Manager Session}
    {operation : Operation Session} (hlisted : Listed manager)
    (hstep : machine.step manager operation = some next) : Listed next := by
  cases operation with
  | addClient session =>
      obtain ⟨hnew, hnext⟩ := Option.ite_none_left_eq_some.mp hstep
      obtain rfl := Option.some.inj hnext
      exact hlisted.addClient hnew
  | removeClient session =>
      obtain rfl := Option.some.inj hstep
      exact hlisted.removeClient session
  | setClientMode session mode date =>
      obtain rfl := Option.some.inj hstep
      exact hlisted.setClientMode session mode date
  | addClientTopics session topics =>
      obtain rfl := Option.some.inj hstep
      exact hlisted.addClientTopics session topics
  | removeClientTopics session topics =>
      obtain rfl := Option.some.inj hstep
      exact hlisted.removeClientTopics session topics

theorem listed_of_reachable {manager : Manager Session}
    (hreach : machine.Reachable manager) : Listed manager :=
  hreach.invariant listed_empty fun _ _ _ hlisted hstep =>
    listed_step hlisted hstep

/-! ## An addition and its removal -/

/-- The session receives none of the topics that the list grants. -/
def ReceivesNone (manager : Manager Session) (session : Session)
    (topics : List String) : Prop :=
  ∀ granting ∈ topics, ∀ topic ∈ grantedTopics granting,
    session ∉ manager.topicSubscribers topic

/-- The index and the topics of the clients are the same in both. -/
structure SameTopics (manager next : Manager Session) : Prop where
  subscribers : ∀ topic session,
    session ∈ next.topicSubscribers topic ↔
      session ∈ manager.topicSubscribers topic
  recorded : ∀ topic session,
    Records next session topic ↔ Records manager session topic

/-- If the list names `all_`, it names the five topics too, and the client has
not named `all_` before. -/
def SpellsOutAll (manager : Manager Session) (session : Session)
    (topics : List String) : Prop :=
  "all_" ∈ topics →
    (∀ topic ∈ expandedTopics, topic ∈ topics) ∧
      ¬ Records manager session "all_"

section Undone

variable {manager : Manager Session} {session other : Session}
  {info : ClientInfo} {topics : List String} {topic : String}

theorem mem_topicSubscribers_removed
    (hlookup : manager.clients.lookup session = some info) :
    other ∈ ((manager.addClientTopics session topics).removeClientTopics
        session topics).topicSubscribers topic ↔
      (other ∈ manager.topicSubscribers topic ∨
        (∃ granting ∈ topics, topic ∈ grantedTopics granting) ∧
          other = session) ∧
        (topic ∈ topics → other ≠ session) := by
  obtain ⟨added, hadded⟩ :=
    exists_lookup_addClientTopics hlookup topics
  rw [mem_topicSubscribers_removeClientTopics hadded,
    mem_topicSubscribers_addClientTopics hlookup]

theorem records_removed
    (hlookup : manager.clients.lookup session = some info) :
    Records ((manager.addClientTopics session topics).removeClientTopics
        session topics) other topic ↔
      (Records manager other topic ∨ other = session ∧ topic ∈ topics) ∧
        (other = session → topic ∉ topics) := by
  obtain ⟨added, hadded⟩ :=
    exists_lookup_addClientTopics hlookup topics
  rw [records_removeClientTopics hadded, records_addClientTopics hlookup]

end Undone

theorem SpellsOutAll.mem_of_granted {manager : Manager Session}
    {session : Session} {topics : List String}
    (hspells : SpellsOutAll manager session topics) {granting topic : String}
    (hgranting : granting ∈ topics) (hgranted : topic ∈ grantedTopics granting) :
    topic ∈ topics := by
  unfold grantedTopics at hgranted
  split at hgranted
  · next hall => exact (hspells (hall ▸ hgranting)).1 topic hgranted
  · exact List.mem_singleton.mp hgranted ▸ hgranting

theorem Listed.not_received {manager : Manager Session}
    (hlisted : Listed manager) {session : Session} {topics : List String}
    (hnone : ReceivesNone manager session topics) {topic : String}
    (htopic : topic ∈ topics) :
    session ∉ manager.topicSubscribers topic := by
  by_cases hall : topic = "all_"
  · subst hall
    exact hlisted.all session
  · exact hnone topic htopic topic (by simp [grantedTopics, hall])

/-- An addition of topics that the session did not receive is undone by their
removal just when `all_` is spelled out where it is named. -/
theorem sameTopics_iff {manager : Manager Session}
    (hreach : machine.Reachable manager) {session : Session}
    (hregistered : session ∈ manager.clients) {topics : List String}
    (hnone : ReceivesNone manager session topics) :
    SameTopics manager
        ((manager.addClientTopics session topics).removeClientTopics
          session topics) ↔
      SpellsOutAll manager session topics := by
  have hlisted := listed_of_reachable hreach
  obtain ⟨info, hlookup⟩ :=
    Option.isSome_iff_exists.mp (AList.lookup_isSome.mpr hregistered)
  constructor
  · intro hsame hall
    refine ⟨fun topic htopic => ?_, fun hrecords => ?_⟩
    · by_contra hmissing
      have hgranted : topic ∈ grantedTopics "all_" := htopic
      have hafter := (mem_topicSubscribers_removed hlookup).mpr
        ⟨Or.inr ⟨⟨"all_", hall, hgranted⟩, rfl⟩,
          fun hnamed => absurd hnamed hmissing⟩
      exact hnone "all_" hall topic hgranted
        ((hsame.subscribers topic session).mp hafter)
    · have hafter := (hsame.recorded "all_" session).mpr hrecords
      exact ((records_removed hlookup).mp hafter).2 rfl hall
  · intro hspells
    constructor
    · intro topic other
      rw [mem_topicSubscribers_removed hlookup]
      constructor
      · rintro ⟨hbefore | ⟨⟨granting, hgranting, hgranted⟩, hsame⟩, hkept⟩
        · exact hbefore
        · exact absurd hsame (hkept (hspells.mem_of_granted hgranting hgranted))
      · intro hbefore
        refine ⟨Or.inl hbefore, ?_⟩
        rintro htopic rfl
        exact hlisted.not_received hnone htopic hbefore
    · intro topic other
      rw [records_removed hlookup]
      constructor
      · rintro ⟨hbefore | ⟨hsame, htopic⟩, hkept⟩
        · exact hbefore
        · exact absurd htopic (hkept hsame)
      · intro hbefore
        refine ⟨Or.inl hbefore, ?_⟩
        rintro rfl htopic
        by_cases hall : topic = "all_"
        · subst hall
          exact (hspells htopic).2 hbefore
        · exact hlisted.not_received hnone htopic
            (hlisted.named other topic hbefore hall)

/-- A session that has just been registered. -/
def registered : Manager ℕ := Manager.empty.addClient 1

theorem reachable_registered : machine.Reachable registered :=
  ⟨[.addClient 1], rfl⟩

theorem mem_registered : 1 ∈ registered.clients :=
  AList.mem_keys.mpr (by decide)

theorem receivesNone_registered (topics : List String) :
    ReceivesNone registered 1 topics :=
  fun _ _ _ _ => List.not_mem_nil

/-- Two sessions, of which the second receives two topics. -/
def beside : Manager ℕ :=
  (registered.addClient 2).addClientTopics 2 ["bid_", "price_", "bid_"]

/-- `all_` twice, with everything it grants. -/
def spelledOut : List String :=
  "all_" :: grantedTopics "all_" ++ ["all_", "price_"]

theorem sameTopics_price :
    2 ∈ beside.topicSubscribers "price_" ∧
      1 ∈ (beside.addClientTopics 1 spelledOut).topicSubscribers "price_" ∧
      SameTopics beside
        ((beside.addClientTopics 1 spelledOut).removeClientTopics 1
          spelledOut) := by
  have hreach : machine.Reachable beside :=
    ⟨[.addClient 1, .addClient 2,
      .addClientTopics 2 ["bid_", "price_", "bid_"]], rfl⟩
  have hregistered : 1 ∈ beside.clients := AList.mem_keys.mpr (by decide)
  have hnone : ReceivesNone beside 1 spelledOut := by
    unfold ReceivesNone
    decide
  have hspells : SpellsOutAll beside 1 spelledOut := by
    refine fun _ => ⟨by decide, ?_⟩
    rintro ⟨info, hlookup, hrecorded⟩
    cases hlookup
    cases hrecorded
  refine ⟨by decide, by decide, ?_⟩
  exact (sameTopics_iff hreach hregistered hnone).mpr hspells

/-- After a subscription to everything, its removal leaves five topics. -/
theorem not_sameTopics_all :
    machine.Reachable registered ∧ 1 ∈ registered.clients ∧
      ReceivesNone registered 1 ["all_"] ∧
      ¬ SameTopics registered
        ((registered.addClientTopics 1 ["all_"]).removeClientTopics 1
          ["all_"]) := by
  refine ⟨reachable_registered, mem_registered,
    receivesNone_registered ["all_"], fun hsame => ?_⟩
  have hreceives : 1 ∈ ((registered.addClientTopics 1 ["all_"]).removeClientTopics
      1 ["all_"]).topicSubscribers "price_" := by
    decide
  exact absurd ((hsame.subscribers "price_" 1).mp hreceives) List.not_mem_nil

end Datafeed.SessionManager
