import Wamp.Proofs.Broker.Run
import Wamp.Proofs.Holdings
import Wamp.Proofs.Resolution

/-!
# The tables of a broker

A broker stores who subscribes to what twice, and the topic of a subscription in its directory a
second time.  The invariant below says that the tables agree.  Every operation keeps it as long
as the counter of the subscription identifiers has room.
-/

namespace Wamp.Broker

/-- The topic and the policy of a subscription. -/
def named (broker : Broker) (id : Id) : Option (String × MatchPolicy) :=
  (broker.subscriptions[id]?).map fun found => (found.topic, found.policy)

def Subscribes (broker : Broker) (session id : Id) : Prop :=
  ∃ found, broker.subscriptions[id]? = some found ∧ session ∈ found.subscribers

/-- The subscriptions bear their own identifiers and have subscribers, and the directory lists
them and nothing else. -/
structure Catalogued (broker : Broker) : Prop where
  id_eq : ∀ (id : Id) (found : Subscription), broker.subscriptions[id]? = some found →
    found.id = id
  subscribed : ∀ (id : Id) (found : Subscription), broker.subscriptions[id]? = some found →
    found.subscribers.isEmpty = false
  lists : broker.directory.Lists broker.named

/-- All tables of a broker agree: besides the catalogue, exactly the attached sessions have a row
among the holdings, and it names the subscriptions that the session belongs to. -/
structure Tables (broker : Broker) : Prop extends broker.Catalogued where
  attached_iff : ∀ session, session ∈ broker.held ↔ broker.isAttached session = true
  holds_iff : ∀ session id, broker.held.Holds session id ↔ broker.Subscribes session id
  counted : ∀ id, id ∈ broker.subscriptions → 0 < id ∧ id ≤ broker.ids.last.toNat

theorem named_eq_some {broker : Broker} {id : Id} {found : Subscription}
    (hfound : broker.subscriptions[id]? = some found) :
    broker.named id = some (found.topic, found.policy) := by
  simp [named, hfound]

theorem tables_empty : ({} : Broker).Tables where
  id_eq := by simp
  subscribed := by simp
  lists :=
    { inStep := Uri.Directory.inStep_empty
      get?_iff := by simp [Uri.Directory.get?, named] }
  attached_iff := by simp [isAttached]
  holds_iff := by simp [Holdings.not_holds_empty, Subscribes]
  counted := by simp

theorem Tables.attached_of_subscribes {broker : Broker} (htables : broker.Tables)
    {session id : Id} (hsubscribes : broker.Subscribes session id) :
    broker.isAttached session = true := by
  rw [← htables.attached_iff]
  exact ((htables.holds_iff session id).mpr hsubscribes).mem

theorem Tables.next_not_mem {broker : Broker} (htables : broker.Tables)
    (hroom : broker.ids.last.toNat < maxId.toNat) :
    broker.subscriptions[broker.ids.next.1]? = none := by
  cases hfound : broker.subscriptions[broker.ids.next.1]? with
  | none => rfl
  | some found =>
      have hle : broker.ids.next.2.last.toNat ≤ broker.ids.last.toNat :=
        (htables.counted _ (Table.mem_of_getElem? hfound)).2
      rw [IdCounter.last_next hroom] at hle
      omega

/-! ## Resolution of topics -/

section Resolving

variable {broker : Broker}

theorem Catalogued.isLive (hcatalogued : broker.Catalogued) {id : Id}
    {name : String × MatchPolicy} (hname : broker.named id = some name) :
    broker.isLive id = true := by
  obtain ⟨found, hfound, -⟩ := Option.map_eq_some_iff.mp hname
  simp [Broker.isLive, hfound, hcatalogued.subscribed id found hfound]

theorem Catalogued.getElem?_of_resolve? (hcatalogued : broker.Catalogued) {uri : String}
    {policy : MatchPolicy} {found : Subscription}
    (hresolved : broker.resolve? uri = some (policy, found)) :
    broker.subscriptions[found.id]? = some found := by
  unfold resolve? at hresolved
  split at hresolved
  next => contradiction
  next entry _ =>
    obtain ⟨same, hfound, hpair⟩ := Option.map_eq_some_iff.mp hresolved
    obtain ⟨-, rfl⟩ := Prod.mk.inj hpair
    rw [hcatalogued.id_eq _ _ hfound, hfound]

/-- A topic finds no subscription exactly if none covers it. -/
theorem Catalogued.resolve?_eq_none_iff (hcatalogued : broker.Catalogued) (uri : String) :
    broker.resolve? uri = none ↔ ∀ (id : Id) (found : Subscription),
      broker.subscriptions[id]? = some found → ¬ Uri.Covers found.topic found.policy uri := by
  unfold resolve?
  cases hentry : broker.directory.resolve? uri broker.isLive with
  | none =>
      refine ⟨fun _ id found hfound => ?_, fun _ => rfl⟩
      have hname := named_eq_some hfound
      exact hcatalogued.lists.not_covers_of_resolve?_eq_none hentry
        ⟨id, hname, hcatalogued.isLive hname⟩
  | some entry =>
      obtain ⟨stored, hname, -, hprefers⟩ :=
        hcatalogued.lists.prefers_of_resolve?_eq_some hentry
      obtain ⟨found, hfound, hpair⟩ := Option.map_eq_some_iff.mp hname
      obtain ⟨rfl, hpolicy⟩ := Prod.mk.inj hpair
      have hcovers := hprefers.covers
      rw [← hpolicy] at hcovers
      simp only [hfound, Option.map_some, reduceCtorEq, false_iff]
      exact fun huncovered => huncovered entry.value found hfound hcovers

end Resolving

/-! ## Removing subscribers -/

section Removing

variable {broker : Broker}

/-- Taking out a subscriber never renames a subscription. -/
theorem named_removeSubscriber (broker : Broker) (session id other : Id)
    {name : String × MatchPolicy}
    (hname : (broker.removeSubscriber session id).1.named other = some name) :
    broker.named other = some name := by
  unfold removeSubscriber at hname
  cases hfound : broker.subscriptions[id]? with
  | none => simpa [hfound] using hname
  | some found =>
      simp only [hfound] at hname
      by_cases hsame : id = other
      · subst hsame
        split at hname
        next => simp [named] at hname
        next =>
          rw [named_eq_some hfound]
          simpa [named] using hname
      · split at hname
        next => simpa [named, Std.ExtTreeMap.getElem?_erase, hsame] using hname
        next => simpa [named, Std.ExtTreeMap.getElem?_insert, hsame] using hname

theorem subscribes_removeSubscriber (broker : Broker) (session id other held : Id) :
    (broker.removeSubscriber session id).1.Subscribes other held ↔
      ¬ (session = other ∧ id = held) ∧ broker.Subscribes other held := by
  unfold removeSubscriber Subscribes
  cases hfound : broker.subscriptions[id]? with
  | none =>
      simp only
      constructor
      · rintro ⟨found, hheld, hmem⟩
        refine ⟨?_, found, hheld, hmem⟩
        rintro ⟨-, rfl⟩
        rw [hfound] at hheld
        contradiction
      · exact And.right
  | some found =>
      simp only
      by_cases hsame : id = held
      · subst hsame
        split
        next hempty =>
          have hgone : other ∉ found.subscribers.erase session := by
            rw [Std.ExtTreeSet.isEmpty_iff.mp hempty]
            exact Std.ExtTreeSet.not_mem_empty
          have honly : other ∈ found.subscribers → session = other := by
            simpa [Std.ExtTreeSet.mem_erase, not_imp_not] using hgone
          simpa [hfound, not_imp_not] using honly
        next =>
          simp [hfound, Std.ExtTreeSet.mem_erase]
      · split
        next => simp [Std.ExtTreeMap.getElem?_erase, hsame]
        next => simp [Std.ExtTreeMap.getElem?_insert, hsame]

theorem Catalogued.removeSubscriber (hcatalogued : broker.Catalogued) (session id : Id) :
    (broker.removeSubscriber session id).1.Catalogued := by
  unfold Broker.removeSubscriber
  cases hfound : broker.subscriptions[id]? with
  | none => exact hcatalogued
  | some found =>
      simp only
      split
      next =>
        refine ⟨Table.forall_erase hcatalogued.id_eq id,
          Table.forall_erase hcatalogued.subscribed id,
          (hcatalogued.lists.erase (named_eq_some hfound)).congr ?_⟩
        intro other
        by_cases hsame : id = other
        · simp [named, hsame]
        · simp [named, Std.ExtTreeMap.getElem?_erase, hsame, Ne.symm hsame]
      next hleft =>
        have hid := hcatalogued.id_eq id found hfound
        refine ⟨Table.forall_insert hcatalogued.id_eq hid,
          Table.forall_insert hcatalogued.subscribed (by simpa using hleft),
          hcatalogued.lists.congr ?_⟩
        intro other
        by_cases hsame : id = other
        · subst hsame
          simp [named, hfound]
        · simp [named, Std.ExtTreeMap.getElem?_insert, hsame]

theorem Catalogued.removeSubscriberFromAll (hcatalogued : broker.Catalogued) (session : Id)
    (ids : List Id) : (broker.removeSubscriberFromAll session ids).1.Catalogued := by
  induction ids generalizing broker with
  | nil => exact hcatalogued
  | cons id rest ih => exact ih (hcatalogued.removeSubscriber session id)

theorem subscribes_removeSubscriberFromAll (broker : Broker) (session : Id) (ids : List Id)
    (other held : Id) :
    (broker.removeSubscriberFromAll session ids).1.Subscribes other held ↔
      ¬ (session = other ∧ held ∈ ids) ∧ broker.Subscribes other held := by
  induction ids generalizing broker with
  | nil => simp [Broker.removeSubscriberFromAll]
  | cons id rest ih =>
      simp only [Broker.removeSubscriberFromAll]
      rw [ih, subscribes_removeSubscriber, List.mem_cons]
      tauto

theorem named_removeSubscriberFromAll (broker : Broker) (session : Id) (ids : List Id)
    (other : Id) {name : String × MatchPolicy}
    (hname : (broker.removeSubscriberFromAll session ids).1.named other = some name) :
    broker.named other = some name := by
  induction ids generalizing broker with
  | nil => exact hname
  | cons id rest ih => exact broker.named_removeSubscriber session id other (ih _ hname)

theorem named_departed (broker : Broker) (session : Id) (ids : List Id) (other : Id)
    {name : String × MatchPolicy} (hname : (broker.departed session ids).named other = some name) :
    broker.named other = some name := by
  let detached : Broker :=
    { broker with
      sessions := broker.sessions.erase session
      held := broker.held.erase session }
  exact detached.named_removeSubscriberFromAll session ids other hname

end Removing

theorem mem_subscriptions_iff {broker : Broker} {id : Id} :
    id ∈ broker.subscriptions ↔ (broker.named id).isSome := by
  rw [Std.ExtTreeMap.mem_iff_isSome_getElem?]
  simp [named]

/-- A broker whose subscriptions were all there before has no new identifiers. -/
theorem Tables.counted_of_named {broker left : Broker} (htables : broker.Tables)
    (hids : left.ids = broker.ids)
    (hnamed : ∀ id name, left.named id = some name → broker.named id = some name) :
    ∀ id, id ∈ left.subscriptions → 0 < id ∧ id ≤ left.ids.last.toNat := by
  intro id hmem
  rw [mem_subscriptions_iff, Option.isSome_iff_exists] at hmem
  obtain ⟨name, hname⟩ := hmem
  rw [hids]
  apply htables.counted id
  rw [mem_subscriptions_iff, hnamed id name hname]
  rfl

/-! ## The invariant after each operation -/

theorem Tables.addSession {broker : Broker} (htables : broker.Tables) (session : Session) :
    (broker.addSession session).state.Tables := by
  unfold Broker.addSession
  split
  next => exact htables
  next hnew =>
    have hrow : session.id ∉ broker.held := by
      rw [htables.attached_iff]
      exact hnew
    refine { htables.toCatalogued with attached_iff := ?_, holds_iff := ?_, counted := ?_ }
    · intro other
      have hother := htables.attached_iff other
      simp only [isAttached] at hother
      simp [isAttached, Std.ExtTreeMap.mem_insert, hother]
    · intro other id
      exact (Holdings.holds_open hrow other id).trans (htables.holds_iff other id)
    · exact htables.counted

theorem Tables.removeSession {broker : Broker} (htables : broker.Tables) (session : Id) :
    (broker.removeSession session).state.Tables := by
  by_cases hattached : broker.isAttached session = true
  · let detached : Broker :=
      { broker with
        sessions := broker.sessions.erase session
        held := broker.held.erase session }
    let ids := (broker.held.getD session ∅).toList
    have hcatalogued : detached.Catalogued := { htables.toCatalogued with }
    have hleft : (broker.departed session ids).Catalogued :=
      hcatalogued.removeSubscriberFromAll session ids
    obtain ⟨subscriptions, directory, hstate⟩ := broker.departed_eq session ids
    rw [state_removeSession hattached]
    refine { hleft with attached_iff := ?_, holds_iff := ?_, counted := ?_ }
    · intro other
      have hother := htables.attached_iff other
      rw [hstate]
      simp only [isAttached] at hother
      simp [isAttached, Std.ExtTreeMap.mem_erase, hother]
    · intro other id
      have hserved := detached.subscribes_removeSubscriberFromAll session ids other id
      have hheld : (broker.departed session ids).held = broker.held.erase session := by
        rw [hstate]
      have hkept : detached.Subscribes other id ↔ broker.Subscribes other id := Iff.rfl
      change _ ↔ (detached.removeSubscriberFromAll session ids).1.Subscribes other id
      rw [hserved, hheld, hkept, ← htables.holds_iff other id]
      exact Holdings.holds_close _ session other id
    · apply htables.counted_of_named
      · rw [hstate]
      · intro id name hname
        exact broker.named_departed session ids id hname
  · rw [Broker.removeSession, if_neg hattached]
    exact htables

theorem Tables.unsubscribe {broker : Broker} (htables : broker.Tables) (session : Id)
    (request : Unsubscribe) : (broker.unsubscribe session request).state.Tables := by
  unfold Broker.unsubscribe
  split
  next => exact htables
  next row hrow =>
    split
    next =>
      let released : Broker :=
        { broker with held := broker.held.insert session (row.erase request.subscription) }
      have hcatalogued : released.Catalogued := { htables.toCatalogued with }
      have hleft := hcatalogued.removeSubscriber session request.subscription
      obtain ⟨subscriptions, directory, hstate⟩ :=
        released.removeSubscriber_eq session request.subscription
      simp only [Outcome.state_granted]
      change (released.removeSubscriber session request.subscription).1.Tables
      refine { hleft with attached_iff := ?_, holds_iff := ?_, counted := ?_ }
      · intro other
        rw [hstate]
        exact (Table.mem_insert_iff (Table.mem_of_getElem? hrow) _ other).trans
          (htables.attached_iff other)
      · intro other id
        rw [subscribes_removeSubscriber]
        have hheld : (released.removeSubscriber session request.subscription).1.held =
            released.held := by
          rw [hstate]
        have hkept : released.Subscribes other id ↔ broker.Subscribes other id := Iff.rfl
        rw [hheld, hkept, ← htables.holds_iff other id]
        exact Holdings.holds_take hrow request.subscription other id
      · apply htables.counted_of_named
        · rw [hstate]
        · intro id name hname
          exact released.named_removeSubscriber session _ id hname
    next hheld =>
      have hmissing : request.subscription ∉ row := by
        simpa [Std.ExtTreeSet.contains_iff_mem] using hheld
      rw [Holdings.take_of_not_mem hrow hmissing]
      exact htables

/-- How the subscription of a topic is provided: an old one as it stands, or a new one without
subscribers under the next identifier. -/
structure Provides (broker next : Broker) (topic : String) (id : Id) (found : Subscription) :
    Prop where
  getElem?_self : next.subscriptions[id]? = some found
  id_eq : found.id = id
  topic_eq : found.topic = topic
  members : ∀ session, session ∈ found.subscribers ↔ broker.Subscribes session id
  others : ∀ other, other ≠ id → next.subscriptions[other]? = broker.subscriptions[other]?
  old_or_new : broker.named id = next.named id ∨ id = broker.ids.next.1
  lists : next.directory.Lists next.named
  sessions_eq : next.sessions = broker.sessions
  held_eq : next.held = broker.held
  counted : 0 < id ∧ id ≤ next.ids.last.toNat
  last_le : broker.ids.last.toNat ≤ next.ids.last.toNat

theorem Tables.provides {broker : Broker} (htables : broker.Tables)
    (hroom : broker.ids.last.toNat < maxId.toNat) (request : Subscribe) :
    ∃ id next notes found, broker.subscriptionFor request = (id, next, notes) ∧
      broker.Provides next request.topic id found := by
  unfold subscriptionFor
  cases hentry : broker.directory.get? request.topic with
  | some entry =>
      have hnamed := (htables.lists.get?_iff _ _ _).mp hentry
      obtain ⟨found, hfound, hname⟩ := Option.map_eq_some_iff.mp hnamed
      simp only [Prod.mk.injEq] at hname
      exact ⟨_, _, _, found, rfl, {
        getElem?_self := hfound
        id_eq := htables.id_eq _ _ hfound
        topic_eq := hname.1
        members := by simp [Subscribes, hfound]
        others := fun _ _ => rfl
        old_or_new := Or.inl rfl
        lists := htables.lists
        sessions_eq := rfl
        held_eq := rfl
        counted := htables.counted _ (Table.mem_of_getElem? hfound)
        last_le := Nat.le_refl _ }⟩
  | none =>
      let policy := MatchPolicy.ofOptions request.options
      let created : Subscription := {
        id := broker.ids.next.1
        topic := request.topic
        policy
        subscribers := ∅ }
      let next : Broker :=
        { broker with
          ids := broker.ids.next.2
          subscriptions := broker.subscriptions.insert broker.ids.next.1 created
          directory := broker.directory.insert request.topic policy broker.ids.next.1 }
      have hfresh := htables.next_not_mem hroom
      have hlast := IdCounter.last_next hroom
      have hnew : broker.named broker.ids.next.1 = none := by
        simp [named, hfresh]
      refine ⟨broker.ids.next.1, next, _, created, rfl, {
        getElem?_self := Std.ExtTreeMap.getElem?_insert_self
        id_eq := rfl
        topic_eq := rfl
        members := ?_
        others := ?_
        old_or_new := Or.inr rfl
        lists := (htables.lists.insert hentry hnew policy).congr ?_
        sessions_eq := rfl
        held_eq := rfl
        counted := ?_
        last_le := ?_ }⟩
      · simp [created, Subscribes, hfresh]
      · intro other hother
        simp [next, Std.ExtTreeMap.getElem?_insert, Ne.symm hother]
      · intro other
        by_cases hsame : other = broker.ids.next.1
        · simp [next, created, named, hsame]
        · simp [next, named, Std.ExtTreeMap.getElem?_insert, hsame, Ne.symm hsame]
      · have hpos : 0 < broker.ids.next.2.last.toNat := by omega
        exact ⟨hpos, Nat.le_refl _⟩
      · simp only [next]
        omega

theorem named_modify (broker : Broker) (session id : Id) (held : Holdings) (other : Id) :
    named
      { broker with
        subscriptions := broker.subscriptions.modify id fun found =>
          { found with subscribers := found.subscribers.insert session }
        held } other = broker.named other := by
  unfold named
  rw [Std.ExtTreeMap.getElem?_modify]
  split
  next hsame =>
    rw [Std.LawfulEqCmp.compare_eq_iff_eq] at hsame
    subst hsame
    cases broker.subscriptions[id]? <;> rfl
  next => rfl

theorem Tables.subscribe {broker : Broker} (htables : broker.Tables)
    (hroom : broker.ids.last.toNat < maxId.toNat) (session : Id) (request : Subscribe) :
    (broker.subscribe session request).state.Tables := by
  unfold Broker.subscribe
  split
  next hattached =>
    obtain ⟨id, next, notes, found, hchosen, hprovides⟩ := htables.provides hroom request
    rw [hchosen]
    have hself : (next.subscriptions.modify id fun found =>
        { found with subscribers := found.subscribers.insert session })[id]? =
        some { found with subscribers := found.subscribers.insert session } := by
      rw [Std.ExtTreeMap.getElem?_modify_self, hprovides.getElem?_self]
      rfl
    have hothers : ∀ other, other ≠ id → (next.subscriptions.modify id fun found =>
        { found with subscribers := found.subscribers.insert session })[other]? =
        broker.subscriptions[other]? := by
      intro other hother
      rw [Std.ExtTreeMap.getElem?_modify, ← hprovides.others other hother]
      simp [Ne.symm hother]
    simp only [Outcome.state_granted]
    constructor
    · constructor
      · intro other left hleft
        by_cases hsame : other = id
        · subst hsame
          rw [hself, Option.some.injEq] at hleft
          rw [← hleft]
          exact hprovides.id_eq
        · rw [hothers other hsame] at hleft
          exact htables.id_eq other left hleft
      · intro other left hleft
        by_cases hsame : other = id
        · subst hsame
          rw [hself, Option.some.injEq] at hleft
          rw [← hleft]
          exact Std.ExtTreeSet.isEmpty_eq_false_iff.mpr Std.ExtTreeSet.insert_ne_empty
        · rw [hothers other hsame] at hleft
          exact htables.subscribed other left hleft
      · apply hprovides.lists.congr
        intro other
        exact named_modify next session id _ other
    · intro other
      have hmem : session ∈ broker.held := (htables.attached_iff session).mpr hattached
      unfold isAttached
      rw [hprovides.sessions_eq, hprovides.held_eq]
      exact (Table.mem_insert_iff hmem _ other).trans (htables.attached_iff other)
    · intro other held
      rw [hprovides.held_eq, Holdings.holds_give, htables.holds_iff]
      unfold Subscribes
      by_cases hsame : held = id
      · subst hsame
        have hmembers := hprovides.members other
        unfold Subscribes at hmembers
        rw [hself, ← hmembers]
        simp [Std.ExtTreeSet.mem_insert]
      · rw [hothers held hsame]
        simp [Ne.symm hsame]
    · intro other hmem
      rw [Std.ExtTreeMap.mem_modify] at hmem
      by_cases hsame : other = id
      · subst hsame
        exact hprovides.counted
      · have hold : other ∈ broker.subscriptions := by
          rw [Std.ExtTreeMap.mem_iff_isSome_getElem?] at hmem ⊢
          rwa [hprovides.others other hsame] at hmem
        have hcounted := htables.counted other hold
        have hlast := hprovides.last_le
        exact ⟨hcounted.1, Nat.le_trans hcounted.2 hlast⟩
  next => exact htables

theorem state_publish (broker : Broker) (ambient : Ambient) (session : Id)
    (request : Publish) : (broker.publish ambient session request).state = broker := by
  unfold publish
  split
  next => rfl
  next =>
    simp only
    split <;> rfl

theorem Tables.perform {broker : Broker} (htables : broker.Tables)
    (hroom : broker.ids.last.toNat < maxId.toNat) (operation : Operation) :
    (broker.perform operation).state.Tables := by
  cases operation with
  | attach session => exact htables.addSession session
  | detach session => exact htables.removeSession session
  | receive session message =>
      cases message with
      | subscribe request => exact htables.subscribe hroom session request
      | unsubscribe request => exact htables.unsubscribe session request
      | _ => exact htables
  | publish ambient session request =>
      simp only [Broker.perform]
      rw [state_publish]
      exact htables
  | disclose on => exact { htables with }

theorem tables_final (operations : List Operation)
    (hdrawn : (drawnIds operations).length < maxId.toNat) :
    (Run.final perform {} operations).Tables := by
  apply Run.final_induction_of_drawn Tables countsUp
    (fun broker operation hroom htables => htables.perform hroom operation) tables_empty
  simpa [drawnIds] using hdrawn

/-! ## The directory of a run -/

section Canonical

variable {broker : Broker}

theorem canonical_removeSubscriber (hcanonical : broker.directory.Canonical)
    (session subscription : Id) :
    (broker.removeSubscriber session subscription).1.directory.Canonical := by
  unfold removeSubscriber
  cases broker.subscriptions[subscription]? with
  | none => exact hcanonical
  | some found =>
      simp only
      split
      next => exact hcanonical.erase found.topic
      next => exact hcanonical

theorem canonical_removeSubscriberFromAll (hcanonical : broker.directory.Canonical)
    (session : Id) (subscriptions : List Id) :
    (broker.removeSubscriberFromAll session subscriptions).1.directory.Canonical := by
  induction subscriptions generalizing broker with
  | nil => exact hcanonical
  | cons subscription rest ih =>
      exact ih (canonical_removeSubscriber hcanonical session subscription)

/-- Whatever identifiers are drawn, the directory stays canonical. -/
theorem canonical_perform (hcanonical : broker.directory.Canonical) (operation : Operation) :
    (broker.perform operation).state.directory.Canonical := by
  cases operation with
  | attach session =>
      simp only [perform, addSession]
      split <;> exact hcanonical
  | detach session =>
      simp only [perform, removeSession]
      split
      next =>
        rw [Outcome.state_granted]
        exact canonical_removeSubscriberFromAll (by exact hcanonical) session _
      next => exact hcanonical
  | receive session message =>
      cases message with
      | subscribe request =>
          simp only [perform, receive, subscribe]
          split
          next =>
            simp only [Outcome.state_granted, subscriptionFor]
            split
            next => exact hcanonical
            next => exact hcanonical.insert request.topic _ _
          next => exact hcanonical
      | unsubscribe request =>
          simp only [perform, receive, unsubscribe]
          split
          next => exact hcanonical
          next =>
            split
            next =>
              rw [Outcome.state_granted]
              exact canonical_removeSubscriber (by exact hcanonical) session request.subscription
            next => exact hcanonical
      | _ => exact hcanonical
  | publish ambient session request =>
      simp only [perform, publish]
      split
      next => exact hcanonical
      next => split <;> exact hcanonical
  | disclose on => exact hcanonical

theorem canonical_final (operations : List Operation) :
    (Run.final perform {} operations).directory.Canonical :=
  Run.final_induction (fun broker : Broker => broker.directory.Canonical)
    (fun _ operation hcanonical => canonical_perform hcanonical operation)
    Uri.Directory.canonical_empty operations

end Canonical

end Wamp.Broker
