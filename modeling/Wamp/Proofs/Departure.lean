import Wamp.Proofs.Broker.Attachment
import Wamp.Proofs.Broker.Departure
import Wamp.Proofs.Dealer.Departure

/-!
# Sessions that leave

Whatever a run has led to, a session that is detached is gone from the tables of the broker and of
the dealer, and nothing else has changed.
-/

namespace Wamp

/-- A session that is detached is all that a broker or a dealer loses, besides what nobody else
subscribes to or serves and the calls that nobody else waits for, in whatever order its
memberships and calls are visited. -/
theorem departure_of_run :
    (∀ (operations : List Broker.Operation) (session : Id),
      let broker := Run.final Broker.perform {} operations
      (Broker.drawnIds operations).length < maxId.toNat → broker.isAttached session = true →
      (broker.removeSession session).answer = .ok () ∧
        broker.Detached session (broker.removeSession session).state) ∧
    (∀ (operations : List Dealer.Operation) (session : Id),
      let dealer := Run.final Dealer.perform {} operations
      (Dealer.drawnIds operations).length < maxId.toNat → dealer.isAttached session = true →
      (dealer.removeSession session).answer = .ok () ∧
        dealer.Detached session (dealer.removeSession session).state) := by
  constructor
  · intro operations session broker hdrawn hattached
    have htables : broker.Tables := Broker.tables_final operations hdrawn
    have hcanonical := Broker.canonical_final operations
    exact ⟨broker.answer_removeSession hattached,
      htables.detached_removeSession hcanonical hattached⟩
  · intro operations session dealer hdrawn hattached
    have htables : dealer.Tables := Dealer.tables_final operations
    have hindexed : dealer.Indexed := (Dealer.inFlight_final operations hdrawn).1.indexed
    have hcanonical := Dealer.canonical_final operations
    exact ⟨dealer.answer_removeSession hattached,
      htables.detached_removeSession hindexed hcanonical hattached⟩

/-- Session 1 is alone with the topic `a.b`, which the prefix of session 2 covers as well, and both
share another topic. -/
def coveredTopic : List Broker.Operation :=
  let prefixed : Dict := (∅ : Dict).insert "match" (.text "prefix")
  let member (id : Id) : Session :=
    { id, realm := "realm1", authid := "", authrole := "", staticSerializer := false }
  [.attach (member 1), .attach (member 2),
    .receive 1 (.subscribe { request := 1, options := ∅, topic := "a.b" }),
    .receive 2 (.subscribe { request := 1, options := prefixed, topic := "a." }),
    .receive 1 (.subscribe { request := 2, options := ∅, topic := "com.news" }),
    .receive 2 (.subscribe { request := 2, options := ∅, topic := "com.news" })]

/-- Sessions 1 and 2 take turns with `com.sum`, and session 2 is alone with `com.own`.  It is due
when it waits for two calls itself, and serves one of session 3. -/
def servingInTurn : List Dealer.Operation :=
  let ambient (drawnId : Id) : Ambient := { drawnId, drawnIndex := 0, now := "" }
  let inTurn : Dict := (∅ : Dict).insert "invoke" (.text "roundrobin")
  let member (id : Id) : Session :=
    { id, realm := "realm1", authid := "", authrole := "", staticSerializer := false }
  [.attach (member 1), .attach (member 2), .attach (member 3),
    .receive (ambient 7) 1 (.register { request := 1, options := inTurn, procedure := "com.sum" }),
    .receive (ambient 8) 2 (.register { request := 1, options := inTurn, procedure := "com.sum" }),
    .receive (ambient 9) 2 (.register { request := 2, options := ∅, procedure := "com.own" }),
    .receive (ambient 0) 2 (.call { request := 3, options := ∅, procedure := "com.sum" }),
    .receive (ambient 0) 3 (.call { request := 1, options := ∅, procedure := "com.sum" }),
    .receive (ambient 0) 2 (.call { request := 4, options := ∅, procedure := "com.sum" })]

theorem departure_of_sharing :
    let broker := Run.final Broker.perform {} coveredTopic
    let dealer := Run.final Dealer.perform {} servingInTurn
    (Broker.drawnIds coveredTopic).length < maxId.toNat ∧ broker.isAttached 1 = true ∧
      broker.Detached 1 (broker.removeSession 1).state ∧
      (Dealer.drawnIds servingInTurn).length < maxId.toNat ∧ dealer.isAttached 2 = true ∧
      dealer.Detached 2 (dealer.removeSession 2).state := by
  intro broker dealer
  obtain ⟨hbrokers, hdealers⟩ := departure_of_run
  have hdrawn : (Broker.drawnIds coveredTopic).length < maxId.toNat := by decide +kernel
  have hcounted : (Dealer.drawnIds servingInTurn).length < maxId.toNat := by decide +kernel
  have hattached : broker.isAttached 1 = true := by decide +kernel
  have hserving : dealer.isAttached 2 = true := by decide +kernel
  obtain ⟨-, hleft⟩ := hbrokers coveredTopic 1 hdrawn hattached
  obtain ⟨-, hquit⟩ := hdealers servingInTurn 2 hcounted hserving
  exact ⟨hdrawn, hattached, hleft, hcounted, hserving, hquit⟩

/-- The topic of a subscription that is deleted can still be resolved, where another subscription
covers it. -/
theorem deleted_topic_resolves :
    let broker := Run.final Broker.perform {} coveredTopic
    let left := (broker.removeSession 1).state
    (Broker.drawnIds coveredTopic).length < maxId.toNat ∧ broker.isAttached 1 = true ∧
      (broker.subscriptions[1]?).map Subscription.topic = some "a.b" ∧
      left.subscriptions[1]? = none ∧ left.hasSubscription "a.b" = false ∧
      (left.resolve? "a.b").map (fun found => found.2.id) = some 2 := by
  decide +kernel

end Wamp
