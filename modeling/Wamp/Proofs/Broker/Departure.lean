import Wamp.Proofs.Broker.Tables

/-!
# Sessions that leave a broker

A session that is detached is taken out of one subscription after the other, and a subscription goes
with its last subscriber.  What is left is said entry by entry: each subscription is what it was
without the session, in whatever order the subscriptions are visited.
-/

namespace Wamp

/-- A subscription without one of its subscribers, if there are others. -/
def Subscription.without (found : Subscription) (session : Id) : Option Subscription :=
  let subscribers := found.subscribers.erase session
  if subscribers.isEmpty then none else some { found with subscribers }

theorem Subscription.without_of_not_mem {found : Subscription} {session : Id}
    (hmissing : session ∉ found.subscribers) (hserved : found.subscribers.isEmpty = false) :
    found.without session = some found := by
  simp [without, Table.erase_of_not_mem hmissing, hserved]

namespace Broker

variable {broker : Broker} {session : Id}

/-- What a session leaves behind when it is detached. -/
structure Detached (broker : Broker) (session : Id) (left : Broker) : Prop where
  frame : left =
    { broker with
      sessions := broker.sessions.erase session
      held := broker.held.erase session
      subscriptions := left.subscriptions
      directory := left.directory }
  /-- Each subscription loses the session, and goes if nobody else subscribes to it. -/
  subscription : ∀ id : Id, left.subscriptions[id]? =
    (broker.subscriptions[id]?).bind fun found => found.without session
  untouched : ∀ (id : Id) (found : Subscription), broker.subscriptions[id]? = some found →
    session ∉ found.subscribers → left.subscriptions[id]? = some found
  /-- The directory lists the subscriptions that are left, and nothing else. -/
  listed : ∀ topic policy id, left.directory.get? topic = some { policy, value := id } ↔
    ∃ found, left.subscriptions[id]? = some found ∧ found.topic = topic ∧ found.policy = policy
  deleted : ∀ (id : Id) (found : Subscription), broker.subscriptions[id]? = some found →
    left.subscriptions[id]? = none → left.hasSubscription found.topic = false
  /-- A topic that no subscription covers any longer is not resolved. -/
  unresolved_iff : ∀ uri, left.resolve? uri = none ↔ ∀ (id : Id) (found : Subscription),
    left.subscriptions[id]? = some found → ¬ Uri.Covers found.topic found.policy uri
  resolved : ∀ uri policy found, left.resolve? uri = some (policy, found) →
    left.subscriptions[found.id]? = some found
  unordered : ∀ subscriptions : List Id,
    subscriptions.Perm (broker.held.getD session ∅).toList →
    broker.departed session subscriptions = left

/-! ## One subscription after the other -/

theorem getElem?_removeSubscriber (broker : Broker) (session id other : Id) :
    (broker.removeSubscriber session id).1.subscriptions[other]? =
      if id = other then
        (broker.subscriptions[other]?).bind fun found => found.without session
      else broker.subscriptions[other]? := by
  unfold removeSubscriber Subscription.without
  cases hfound : broker.subscriptions[id]? with
  | none =>
      by_cases hsame : id = other
      · simp [← hsame, hfound]
      · simp [hsame]
  | some found =>
      by_cases hsame : id = other
      · subst hsame
        simp only [hfound, if_true, Option.bind_some]
        split <;> simp
      · simp only [if_neg hsame]
        split <;> simp [Std.ExtTreeMap.getElem?_erase, Std.ExtTreeMap.getElem?_insert, hsame]

theorem fst_removeSubscriberFromAll (broker : Broker) (session : Id) (ids : List Id) :
    (broker.removeSubscriberFromAll session ids).1 =
      ids.foldl (fun left id => (left.removeSubscriber session id).1) broker := by
  induction ids generalizing broker with
  | nil => rfl
  | cons id rest ih => exact ih (broker.removeSubscriber session id).1

theorem getElem?_removeSubscriberFromAll (broker : Broker) (session : Id) {ids : List Id}
    (honce : ids.Nodup) (other : Id) :
    (broker.removeSubscriberFromAll session ids).1.subscriptions[other]? =
      if other ∈ ids then
        (broker.subscriptions[other]?).bind fun found => found.without session
      else broker.subscriptions[other]? := by
  rw [fst_removeSubscriberFromAll]
  exact Table.getElem?_foldl Broker.subscriptions (fun _ => True) (fun _ _ => id)
    (fun broker id other _ => broker.getElem?_removeSubscriber session id other) trivial honce other

/-- In which order a session is taken out of its subscriptions makes no difference. -/
theorem Catalogued.removeSubscriberFromAll_perm (hcatalogued : broker.Catalogued)
    (hcanonical : broker.directory.Canonical) (session : Id) {ids permuted : List Id}
    (honce : ids.Nodup) (hperm : permuted.Perm ids) :
    (broker.removeSubscriberFromAll session permuted).1 =
      (broker.removeSubscriberFromAll session ids).1 := by
  have hsubscriptions : (broker.removeSubscriberFromAll session permuted).1.subscriptions =
      (broker.removeSubscriberFromAll session ids).1.subscriptions := by
    apply Std.ExtTreeMap.ext_getElem?
    intro other
    rw [getElem?_removeSubscriberFromAll broker session (hperm.nodup_iff.mpr honce),
      getElem?_removeSubscriberFromAll broker session honce]
    simp only [hperm.mem_iff]
  have hnamed : ∀ id, (broker.removeSubscriberFromAll session ids).1.named id =
      (broker.removeSubscriberFromAll session permuted).1.named id := by
    intro id
    rw [named, named, hsubscriptions]
  have hdirectory : (broker.removeSubscriberFromAll session permuted).1.directory =
      (broker.removeSubscriberFromAll session ids).1.directory :=
    (hcatalogued.removeSubscriberFromAll session permuted).lists.ext
      ((hcatalogued.removeSubscriberFromAll session ids).lists.congr fun id => (hnamed id).symm)
      (canonical_removeSubscriberFromAll hcanonical session permuted)
      (canonical_removeSubscriberFromAll hcanonical session ids)
  obtain ⟨_, _, hforth⟩ := broker.removeSubscriberFromAll_eq session permuted
  obtain ⟨_, _, hback⟩ := broker.removeSubscriberFromAll_eq session ids
  rw [hforth, hback] at hsubscriptions hdirectory ⊢
  simp only at hsubscriptions hdirectory
  rw [hsubscriptions, hdirectory]

/-! ## What is left -/

/-- The directory of a broker lists its subscriptions. -/
theorem Catalogued.get?_eq_some_iff (hcatalogued : broker.Catalogued) (topic : String)
    (policy : MatchPolicy) (id : Id) :
    broker.directory.get? topic = some { policy, value := id } ↔
      ∃ found, broker.subscriptions[id]? = some found ∧ found.topic = topic ∧
        found.policy = policy := by
  rw [hcatalogued.lists.get?_iff, named, Option.map_eq_some_iff]
  simp only [Prod.mk.injEq]

/-- The topic of a subscription that is gone is not listed, since no other one shares it. -/
theorem Catalogued.hasSubscription_of_gone (hcatalogued : broker.Catalogued) {left : Broker}
    (hleft : left.Catalogued)
    (hnamed : ∀ id name, left.named id = some name → broker.named id = some name) {id : Id}
    {found : Subscription} (hfound : broker.subscriptions[id]? = some found)
    (hgone : left.subscriptions[id]? = none) : left.hasSubscription found.topic = false := by
  unfold hasSubscription
  cases hentry : left.directory.get? found.topic with
  | none => rfl
  | some entry =>
      have hname := (hleft.lists.get?_iff _ entry.policy entry.value).mp hentry
      obtain rfl := hcatalogued.lists.unique (hnamed _ _ hname) (named_eq_some hfound)
      simp [named, hgone] at hname

/-- Every subscription is what it was without the session, whether it is visited or not. -/
theorem Tables.getElem?_departed (htables : broker.Tables) (session id : Id) :
    (broker.departed session (broker.held.getD session ∅).toList).subscriptions[id]? =
      (broker.subscriptions[id]?).bind fun found => found.without session := by
  let detached : Broker :=
    { broker with
      sessions := broker.sessions.erase session
      held := broker.held.erase session }
  refine (detached.getElem?_removeSubscriberFromAll session (Holdings.nodup_toList _) id).trans ?_
  split
  next => rfl
  next hnot =>
    rw [Std.ExtTreeSet.mem_toList, Holdings.mem_getD_iff, htables.holds_iff] at hnot
    change broker.subscriptions[id]? = _
    cases hfound : broker.subscriptions[id]? with
    | none => rfl
    | some found =>
        have hmissing : session ∉ found.subscribers := fun hmem => hnot ⟨found, hfound, hmem⟩
        rw [Option.bind_some,
          Subscription.without_of_not_mem hmissing (htables.subscribed id found hfound)]

theorem Tables.detached_removeSession (htables : broker.Tables)
    (hcanonical : broker.directory.Canonical) (hattached : broker.isAttached session = true) :
    broker.Detached session (broker.removeSession session).state := by
  let detached : Broker :=
    { broker with
      sessions := broker.sessions.erase session
      held := broker.held.erase session }
  have hcatalogued : detached.Catalogued := { htables.toCatalogued with }
  have hleft := (htables.removeSession session).toCatalogued
  rw [state_removeSession hattached] at hleft ⊢
  have hsubscription := htables.getElem?_departed session
  constructor
  case frame =>
    obtain ⟨_, _, hframe⟩ := broker.departed_eq session (broker.held.getD session ∅).toList
    rw [hframe]
  case subscription => exact hsubscription
  case untouched =>
    intro id found hfound hmissing
    rw [hsubscription, hfound, Option.bind_some,
      Subscription.without_of_not_mem hmissing (htables.subscribed id found hfound)]
  case listed => exact hleft.get?_eq_some_iff
  case deleted =>
    intro id found hfound hgone
    exact htables.hasSubscription_of_gone hleft
      (fun other _ => broker.named_departed session _ other) hfound hgone
  case unresolved_iff => exact hleft.resolve?_eq_none_iff
  case resolved => exact fun uri policy found hresolved => hleft.getElem?_of_resolve? hresolved
  case unordered =>
    intro subscriptions hperm
    exact hcatalogued.removeSubscriberFromAll_perm hcanonical session
      (Holdings.nodup_toList _) hperm

end Broker

end Wamp
