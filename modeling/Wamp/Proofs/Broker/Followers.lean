import Mathlib.Data.List.Induction
import Wamp.Proofs.Broker.Tables

/-!
# Who follows what

Seen from outside, a broker is a relation between sessions and topics.  A session follows a topic
from the answer to its subscription until it gives the identifier back or is detached, and the
policy of a topic is the one asked for when it last got its first follower.  Both are read off the
sequence of changes alone.  Below, the tables of a broker are shown to follow every change.
-/

namespace Wamp

/-- What changes the relation between sessions and topics. -/
inductive SubscriberChange where
  /-- A session was told the identifier under which it follows a topic. -/
  | joined (session : Id) (topic : String) (policy : MatchPolicy) (id : Id)
  /-- A session gave an identifier back. -/
  | left (session id : Id)
  | detached (session : Id)
  deriving DecidableEq

namespace SubscriberChange

/-- A session was told an identifier for a topic, and has neither given it back nor been detached
since. -/
def Follows (changes : List SubscriberChange) (session : Id) (topic : String) (id : Id) : Prop :=
  ∃ before policy after, changes = before ++ .joined session topic policy id :: after ∧
    .left session id ∉ after ∧ .detached session ∉ after

def Followed (changes : List SubscriberChange) (topic : String) : Prop :=
  ∃ session id, Follows changes session topic id

/-- The policy that was asked for when a topic without followers got the first of those that it
has had without interruption. -/
def PolicyOf (changes : List SubscriberChange) (topic : String) (policy : MatchPolicy) : Prop :=
  ∃ before session id after, changes = before ++ .joined session topic policy id :: after ∧
    ¬ Followed before topic ∧
    ∀ middle rest, after = middle ++ rest →
      Followed (before ++ .joined session topic policy id :: middle) topic

variable {changes : List SubscriberChange} {change : SubscriberChange}

theorem not_follows_nil (session : Id) (topic : String) (id : Id) :
    ¬ Follows [] session topic id := by
  rintro ⟨before, policy, after, hsplit, -⟩
  simp at hsplit

theorem not_followed_nil (topic : String) : ¬ Followed [] topic := by
  rintro ⟨session, id, hfollows⟩
  exact not_follows_nil session topic id hfollows

theorem not_policyOf_nil (topic : String) (policy : MatchPolicy) : ¬ PolicyOf [] topic policy := by
  rintro ⟨before, session, id, after, hsplit, -⟩
  simp at hsplit

theorem follows_concat_iff {session : Id} {topic : String} {id : Id} :
    Follows (changes ++ [change]) session topic id ↔
      (∃ policy, change = .joined session topic policy id) ∨
        (Follows changes session topic id ∧ change ≠ .left session id ∧
          change ≠ .detached session) := by
  constructor
  · rintro ⟨before, policy, after, hsplit, hleft, hdetached⟩
    rcases Run.concat_eq_append_cons hsplit with ⟨-, -, rfl⟩ | ⟨rest, rfl, rfl⟩
    · exact Or.inl ⟨policy, rfl⟩
    · right
      simp only [List.mem_append, List.mem_singleton, not_or] at hleft hdetached
      exact ⟨⟨before, policy, rest, rfl, hleft.1, hdetached.1⟩, Ne.symm hleft.2,
        Ne.symm hdetached.2⟩
  · rintro (⟨policy, rfl⟩ | ⟨⟨before, policy, after, rfl, hleft, hdetached⟩, hkept, hattached⟩)
    · exact ⟨changes, policy, [], rfl, by simp, by simp⟩
    · refine ⟨before, policy, after ++ [change], by simp, ?_, ?_⟩
      · simpa using ⟨hleft, Ne.symm hkept⟩
      · simpa using ⟨hdetached, Ne.symm hattached⟩

theorem PolicyOf.followed {topic : String} {policy : MatchPolicy}
    (hpolicy : PolicyOf changes topic policy) : Followed changes topic := by
  obtain ⟨before, session, id, after, rfl, -, hfollowed⟩ := hpolicy
  exact hfollowed after [] (by simp)

/-- Who finds a topic without followers and stays decides on its policy. -/
theorem policyOf_of_stays {before after : List SubscriberChange} {session id : Id} {topic : String}
    {policy : MatchPolicy} (hfree : ¬ Followed before topic) (hleft : .left session id ∉ after)
    (hdetached : .detached session ∉ after) :
    PolicyOf (before ++ .joined session topic policy id :: after) topic policy := by
  refine ⟨before, session, id, after, rfl, hfree, ?_⟩
  rintro middle rest rfl
  rw [List.mem_append, not_or] at hleft hdetached
  exact ⟨session, id, before, policy, middle, rfl, hleft.1, hdetached.1⟩

/-- A topic keeps its policy as long as it is followed. -/
theorem policyOf_concat_iff_of_followed {topic : String} {policy : MatchPolicy}
    (hbefore : Followed changes topic) :
    PolicyOf (changes ++ [change]) topic policy ↔
      PolicyOf changes topic policy ∧ Followed (changes ++ [change]) topic := by
  constructor
  · intro hpolicy
    have hafter := hpolicy.followed
    obtain ⟨before, session, id, after, hsplit, hfree, hfollowed⟩ := hpolicy
    rcases Run.concat_eq_append_cons hsplit with ⟨-, rfl, -⟩ | ⟨rest, rfl, rfl⟩
    · exact absurd hbefore hfree
    · refine ⟨⟨before, session, id, rest, rfl, hfree, ?_⟩, hafter⟩
      rintro middle more rfl
      exact hfollowed middle (more ++ [change]) (by simp)
  · rintro ⟨⟨before, session, id, after, rfl, hfree, hfollowed⟩, hafter⟩
    refine ⟨before, session, id, after ++ [change], by simp, hfree, ?_⟩
    intro middle rest hsplit
    rcases List.eq_nil_or_concat rest with rfl | ⟨more, last, rfl⟩
    · rw [List.append_nil] at hsplit
      rw [← hsplit]
      simpa using hafter
    · have hconcat : after ++ [change] = (middle ++ more) ++ [last] := by simpa using hsplit
      exact hfollowed middle more (List.append_inj_left' hconcat rfl)

theorem policyOf_concat_iff_of_not_followed {topic : String} {policy : MatchPolicy}
    (hbefore : ¬ Followed changes topic) :
    PolicyOf (changes ++ [change]) topic policy ↔
      ∃ session id, change = .joined session topic policy id := by
  constructor
  · rintro ⟨before, session, id, after, hsplit, hfree, hfollowed⟩
    rcases Run.concat_eq_append_cons hsplit with ⟨-, -, rfl⟩ | ⟨rest, rfl, rfl⟩
    · exact ⟨session, id, rfl⟩
    · exact absurd (hfollowed rest [change] rfl) hbefore
  · rintro ⟨session, id, rfl⟩
    refine ⟨changes, session, id, [], rfl, hbefore, ?_⟩
    intro middle rest hsplit
    have hmiddle : middle = [] := (List.append_eq_nil_iff.mp hsplit.symm).1
    rw [hmiddle]
    exact ⟨session, id, follows_concat_iff.mpr (Or.inl ⟨policy, rfl⟩)⟩

end SubscriberChange

namespace Broker

open SubscriberChange

/-- The tables of a broker agree with a sequence of changes about who follows what. -/
structure Tracks (broker : Broker) (changes : List SubscriberChange) : Prop where
  follows_iff : ∀ session topic id, Follows changes session topic id ↔
    broker.Subscribes session id ∧ ∃ policy, broker.named id = some (topic, policy)
  policy_iff : ∀ topic policy, PolicyOf changes topic policy ↔
    ∃ id, broker.named id = some (topic, policy)

/-- How a topic comes by its identifier: it has one already, or it gets a new one together with a
policy. -/
inductive Names (broker state : Broker) (topic : String) (policy : MatchPolicy) (id : Id) :
    Prop where
  | old (found : MatchPolicy) (hname : broker.named id = some (topic, found))
      (hsame : ∀ other, state.named other = broker.named other)
  | new (hfree : ∀ other found, broker.named other ≠ some (topic, found))
      (hnone : broker.named id = none)
      (hnames : ∀ other, state.named other =
        if other = id then some (topic, policy) else broker.named other)

variable {broker state : Broker} {changes : List SubscriberChange}

theorem tracks_empty : ({} : Broker).Tracks [] where
  follows_iff session topic id := by
    simp [not_follows_nil, Subscribes]
  policy_iff topic policy := by
    simp [not_policyOf_nil, named]

theorem Tracks.congr (htracks : broker.Tracks changes)
    (hsame : state.subscriptions = broker.subscriptions) : state.Tracks changes where
  follows_iff := by
    unfold Subscribes named
    rw [hsame]
    exact htracks.follows_iff
  policy_iff := by
    unfold named
    rw [hsame]
    exact htracks.policy_iff

theorem Subscribes.named {session id : Id} (hsubscribes : broker.Subscribes session id) :
    ∃ name, broker.named id = some name := by
  obtain ⟨found, hfound, -⟩ := hsubscribes
  exact ⟨_, named_eq_some hfound⟩

theorem Catalogued.exists_subscribes (hcatalogued : broker.Catalogued) {id : Id}
    {name : String × MatchPolicy} (hname : broker.named id = some name) :
    ∃ session, broker.Subscribes session id := by
  obtain ⟨found, hfound, -⟩ := Option.map_eq_some_iff.mp hname
  have hnonempty := Std.ExtTreeSet.isEmpty_eq_false_iff.mp (hcatalogued.subscribed id found hfound)
  rw [Std.ExtTreeSet.eq_empty_iff_forall_not_mem] at hnonempty
  obtain ⟨session, hmem⟩ := not_forall_not.mp hnonempty
  exact ⟨session, found, hfound, hmem⟩

theorem Tracks.followed_iff (htracks : broker.Tracks changes) (hcatalogued : broker.Catalogued)
    (topic : String) :
    Followed changes topic ↔ ∃ id policy, broker.named id = some (topic, policy) := by
  constructor
  · rintro ⟨session, id, hfollows⟩
    exact ⟨id, ((htracks.follows_iff _ _ _).mp hfollows).2⟩
  · rintro ⟨id, policy, hname⟩
    obtain ⟨session, hsubscribes⟩ := hcatalogued.exists_subscribes hname
    exact ⟨session, id, (htracks.follows_iff _ _ _).mpr ⟨hsubscribes, policy, hname⟩⟩

/-! ## Followers that go -/

/-- A change that takes followers away, and with the last one of a topic its subscription. -/
theorem Tracks.take (htracks : broker.Tracks changes) (htables : broker.Tables)
    (hstate : state.Tables) {change : SubscriberChange}
    (hchange : ∀ session topic policy id, change ≠ .joined session topic policy id)
    (hsubscribes : ∀ session id, state.Subscribes session id ↔
      broker.Subscribes session id ∧ change ≠ .left session id ∧ change ≠ .detached session)
    (hnamed : ∀ id name, state.named id = some name → broker.named id = some name) :
    state.Tracks (changes ++ [change]) := by
  have hkept : ∀ session id, state.Subscribes session id → ∀ name,
      broker.named id = some name → state.named id = some name := by
    intro session id hleft name hname
    obtain ⟨other, hother⟩ := hleft.named
    rw [hnamed id other hother, Option.some.injEq] at hname
    rw [hother, hname]
  have hfollows : ∀ session topic id, Follows (changes ++ [change]) session topic id ↔
      state.Subscribes session id ∧ ∃ policy, state.named id = some (topic, policy) := by
    intro session topic id
    rw [follows_concat_iff, htracks.follows_iff]
    constructor
    · rintro (⟨policy, hjoined⟩ | ⟨⟨hold, policy, hname⟩, hstays⟩)
      · exact absurd hjoined (hchange _ _ _ _)
      · have hleft := (hsubscribes session id).mpr ⟨hold, hstays⟩
        exact ⟨hleft, policy, hkept session id hleft _ hname⟩
    · rintro ⟨hleft, policy, hname⟩
      obtain ⟨hold, hstays⟩ := (hsubscribes session id).mp hleft
      exact Or.inr ⟨⟨hold, policy, hnamed id _ hname⟩, hstays⟩
  refine ⟨hfollows, ?_⟩
  intro topic policy
  -- A topic keeps its policy with the followers that remain, and loses it with the last of them.
  by_cases hbefore : Followed changes topic
  · rw [policyOf_concat_iff_of_followed hbefore, htracks.policy_iff]
    constructor
    · rintro ⟨⟨id, hname⟩, session, other, hfollowed⟩
      obtain ⟨hleft, found, hother⟩ := (hfollows session topic other).mp hfollowed
      have hsame := htables.lists.unique hname (hnamed other _ hother)
      subst hsame
      exact ⟨id, hkept session id hleft _ hname⟩
    · rintro ⟨id, hname⟩
      obtain ⟨session, hleft⟩ := hstate.exists_subscribes hname
      exact ⟨⟨id, hnamed id _ hname⟩, session, id,
        (hfollows session topic id).mpr ⟨hleft, policy, hname⟩⟩
  · rw [policyOf_concat_iff_of_not_followed hbefore]
    constructor
    · rintro ⟨session, id, hjoined⟩
      exact absurd hjoined (hchange _ _ _ _)
    · rintro ⟨id, hname⟩
      refine absurd ?_ hbefore
      exact (htracks.followed_iff htables.toCatalogued topic).mpr ⟨id, policy, hnamed id _ hname⟩

theorem Tracks.removeSession (htracks : broker.Tracks changes) (htables : broker.Tables)
    {session : Id} (hattached : broker.isAttached session = true) :
    (broker.removeSession session).state.Tracks (changes ++ [.detached session]) := by
  have hstate := htables.removeSession session
  let ids := (broker.held.getD session ∅).toList
  obtain ⟨_, _, hheld⟩ := broker.departed_eq session ids
  rw [state_removeSession hattached] at hstate ⊢
  apply htracks.take htables hstate
  · simp
  · intro other id
    have hclosed := broker.held.holds_close session other id
    rw [Std.ExtTreeSet.mem_toList, Holdings.mem_getD_iff] at hclosed
    rw [← hstate.holds_iff, hheld, ← htables.holds_iff]
    refine hclosed.trans ?_
    simp only [ne_eq, reduceCtorEq, not_false_eq_true, SubscriberChange.detached.injEq, true_and]
    constructor
    · rintro ⟨hother, hholds⟩
      refine ⟨hholds, ?_⟩
      rintro rfl
      exact hother ⟨rfl, hholds⟩
    · rintro ⟨hholds, hother⟩
      exact ⟨fun hsame => hother hsame.1, hholds⟩
  · intro id name hname
    exact broker.named_departed session ids id hname

theorem Tracks.unsubscribe (htracks : broker.Tracks changes) (htables : broker.Tables)
    {session : Id} {request : Unsubscribe} {reply : Routed}
    (hanswer : (broker.unsubscribe session request).answer = .ok reply) :
    (broker.unsubscribe session request).state.Tracks
      (changes ++ [.left session request.subscription]) := by
  have hstate := htables.unsubscribe session request
  unfold Broker.unsubscribe at hanswer hstate ⊢
  split at hanswer
  next => simp at hanswer
  next row hrow =>
    split at hanswer
    next hheld =>
      let released : Broker :=
        { broker with held := broker.held.insert session (row.erase request.subscription) }
      obtain ⟨_, _, hleft⟩ := released.removeSubscriber_eq session request.subscription
      simp only [hrow, if_pos hheld, Outcome.state_granted] at hstate ⊢
      change (released.removeSubscriber session request.subscription).1.Tables at hstate
      change (released.removeSubscriber session request.subscription).1.Tracks _
      apply htracks.take htables hstate
      · simp
      · intro other id
        have htaken := Holdings.holds_take hrow request.subscription other id
        rw [← hstate.holds_iff, hleft, ← htables.holds_iff]
        refine htaken.trans ?_
        simp only [ne_eq, SubscriberChange.left.injEq, reduceCtorEq, not_false_eq_true, and_true]
        exact and_comm
      · intro id name hname
        exact released.named_removeSubscriber session _ id hname
    next => simp at hanswer

/-! ## Followers that come -/

theorem Names.kept {topic : String} {policy : MatchPolicy} {id : Id}
    (hnames : Names broker state topic policy id) {other : Id} {name : String × MatchPolicy}
    (hname : broker.named other = some name) : state.named other = some name := by
  cases hnames with
  | old found hself hsame => rw [hsame, hname]
  | new hfree hnone hnames =>
      have hother : other ≠ id := by
        rintro rfl
        rw [hnone] at hname
        contradiction
      rw [hnames, if_neg hother, hname]

theorem Names.named_self {topic : String} {policy : MatchPolicy} {id : Id}
    (hnames : Names broker state topic policy id) :
    ∃ found, state.named id = some (topic, found) := by
  cases hnames with
  | old found hname hsame => exact ⟨found, by rw [hsame, hname]⟩
  | new hfree hnone hnames => exact ⟨policy, by rw [hnames, if_pos rfl]⟩

/-- A topic that has a name keeps it, and only the topic that is asked for gets a new one. -/
theorem Names.exists_named_iff {topic : String} {policy : MatchPolicy} {id : Id}
    (hnames : Names broker state topic policy id) (name : String × MatchPolicy) :
    (∃ held, state.named held = some name) ↔
      (∃ held, broker.named held = some name) ∨
        (name = (topic, policy) ∧ ∀ other found, broker.named other ≠ some (topic, found)) := by
  constructor
  · rintro ⟨held, hname⟩
    cases hnames with
    | old found hself hsame => exact Or.inl ⟨held, (hsame held).symm.trans hname⟩
    | new hfree hnone hnames =>
        rw [hnames] at hname
        split at hname
        next => exact Or.inr ⟨(Option.some.inj hname).symm, hfree⟩
        next => exact Or.inl ⟨held, hname⟩
  · rintro (⟨held, hname⟩ | ⟨rfl, hunnamed⟩)
    · exact ⟨held, hnames.kept hname⟩
    · cases hnames with
      | old found hself hsame => exact absurd hself (hunnamed id found)
      | new hfree hnone hnames => exact ⟨id, by rw [hnames, if_pos rfl]⟩

/-- A change that makes a session follow a topic. -/
theorem Tracks.join (htracks : broker.Tracks changes) (htables : broker.Tables)
    {session id : Id} {topic : String} {policy : MatchPolicy}
    (hsubscribes : ∀ other held, state.Subscribes other held ↔
      (session = other ∧ id = held) ∨ broker.Subscribes other held)
    (hnames : Names broker state topic policy id) :
    state.Tracks (changes ++ [.joined session topic policy id]) := by
  constructor
  · intro other subject held
    rw [follows_concat_iff, htracks.follows_iff, hsubscribes]
    constructor
    · rintro (⟨_, hjoined⟩ | ⟨⟨hfollows, found, hname⟩, -⟩)
      · cases hjoined
        exact ⟨Or.inl ⟨rfl, rfl⟩, hnames.named_self⟩
      · exact ⟨Or.inr hfollows, found, hnames.kept hname⟩
    · rintro ⟨⟨rfl, rfl⟩ | hfollows, found, hname⟩
      · obtain ⟨same, hself⟩ := hnames.named_self
        rw [hself, Option.some.injEq, Prod.mk.injEq] at hname
        rw [hname.1]
        exact Or.inl ⟨policy, rfl⟩
      · obtain ⟨first, hfirst⟩ := hfollows.named
        rw [hnames.kept hfirst, Option.some.injEq] at hname
        rw [hname] at hfirst
        exact Or.inr ⟨⟨hfollows, found, hfirst⟩, by simp, by simp⟩
  · intro subject found
    -- Only a topic without followers takes the policy that is asked for.
    have hold := htracks.followed_iff htables.toCatalogued subject
    rw [hnames.exists_named_iff]
    by_cases hbefore : Followed changes subject
    · have hafter : Followed (changes ++ [.joined session topic policy id]) subject := by
        obtain ⟨other, held, hfollows⟩ := hbefore
        exact ⟨other, held, follows_concat_iff.mpr (Or.inr ⟨hfollows, by simp, by simp⟩)⟩
      rw [policyOf_concat_iff_of_followed hbefore, htracks.policy_iff, and_iff_left hafter]
      constructor
      · exact Or.inl
      · rintro (hnamed | ⟨hname, hfree⟩)
        · exact hnamed
        · cases hname
          obtain ⟨other, first, hother⟩ := hold.mp hbefore
          exact absurd hother (hfree other first)
    · rw [policyOf_concat_iff_of_not_followed hbefore]
      constructor
      · rintro ⟨_, _, hjoined⟩
        cases hjoined
        refine Or.inr ⟨rfl, ?_⟩
        intro other first hother
        exact hbefore (hold.mpr ⟨other, first, hother⟩)
      · rintro (⟨held, hname⟩ | ⟨hname, -⟩)
        · exact absurd (hold.mpr ⟨held, found, hname⟩) hbefore
        · cases hname
          exact ⟨session, id, rfl⟩

theorem Tables.names_of_subscriptionFor (htables : broker.Tables)
    (hroom : broker.ids.last.toNat < maxId.toNat) (request : Subscribe) :
    ∃ id next notes, broker.subscriptionFor request = (id, next, notes) ∧
      next.held = broker.held ∧
      Names broker next request.topic (MatchPolicy.ofOptions request.options) id := by
  unfold subscriptionFor
  cases hentry : broker.directory.get? request.topic with
  | some entry =>
      have hname := (htables.lists.get?_iff _ _ _).mp hentry
      exact ⟨_, _, _, rfl, rfl, .old entry.policy hname fun _ => rfl⟩
  | none =>
      have hnone : broker.named broker.ids.next.1 = none := by
        simp [named, htables.next_not_mem hroom]
      have hinserted : ∀ fresh created other,
          ((broker.subscriptions.insert fresh created)[other]?).map
              (fun found => (found.topic, found.policy)) =
            if other = fresh then some (created.topic, created.policy)
            else broker.named other := by
        intro fresh created other
        by_cases hsame : other = fresh
        · simp [hsame]
        · simp [named, Std.ExtTreeMap.getElem?_insert, hsame, Ne.symm hsame]
      refine ⟨_, _, _, rfl, rfl, .new ?_ hnone (hinserted _ _)⟩
      intro other found hname
      rw [← htables.lists.get?_iff, hentry] at hname
      contradiction

theorem Tracks.subscribe (htracks : broker.Tracks changes) (htables : broker.Tables)
    (hroom : broker.ids.last.toNat < maxId.toNat) {session : Id}
    (hattached : broker.isAttached session = true) (request : Subscribe) :
    ∃ id, (broker.subscribe session request).answer =
        .ok {
          recipient := session
          message := .subscribed { request := request.request, subscription := id } } ∧
      (broker.subscribe session request).state.Tracks (changes ++
        [.joined session request.topic (MatchPolicy.ofOptions request.options) id]) := by
  have hstate := htables.subscribe hroom session request
  obtain ⟨id, next, notes, hchosen, hheld, hnames⟩ :=
    htables.names_of_subscriptionFor hroom request
  unfold Broker.subscribe at hstate ⊢
  simp only [if_pos hattached, hchosen, Outcome.state_granted, Outcome.answer_granted]
    at hstate ⊢
  refine ⟨id, rfl, htracks.join htables ?_ ?_⟩
  · intro other held
    have hgiven := broker.held.holds_give session id other held
    rw [← hstate.holds_iff, ← htables.holds_iff, hheld]
    exact hgiven
  · cases hnames with
    | old found hname hsame =>
        exact .old found hname fun other =>
          (named_modify next session id _ other).trans (hsame other)
    | new hfree hnone hnames =>
        exact .new hfree hnone fun other =>
          (named_modify next session id _ other).trans (hnames other)

end Broker

end Wamp
