import Wamp.Broker
import Wamp.Proofs.Run

/-!
# Runs of a broker

The operations of a broker under one type, so that a run is a list of them.
-/

namespace Wamp.Broker

inductive Operation where
  | attach (session : Session)
  | detach (session : Id)
  | receive (session : Id) (message : Message)
  | publish (ambient : Ambient) (session : Id) (request : Publish)
  | disclose (on : Bool)

/-- Performs an operation; the answer is what has to be delivered. -/
def perform (broker : Broker) : Operation → Reply (List Routed)
  | .attach session =>
    let outcome := broker.addSession session
    { outcome with answer := outcome.answer.map fun () => [] }
  | .detach session =>
    let outcome := broker.removeSession session
    { outcome with answer := outcome.answer.map fun () => [] }
  | .receive session message =>
    let outcome := broker.receive session message
    { outcome with answer := outcome.answer.map fun routed => [routed] }
  | .publish ambient session request =>
    let outcome := broker.publish ambient session request
    { outcome with answer := outcome.answer.map Publication.outbound }
  | .disclose on => .granted (broker.setDisclosure on) []

/-- The subscription identifiers that a run of a new broker draws. -/
def drawnIds (operations : List Operation) : List Id :=
  Run.drawn perform Broker.ids {} operations

/-! ## What removing subscribers leaves alone -/

theorem removeSubscriber_eq (broker : Broker) (session subscription : Id) :
    ∃ subscriptions directory, (broker.removeSubscriber session subscription).1 =
      { broker with subscriptions, directory } := by
  unfold removeSubscriber
  cases broker.subscriptions[subscription]? with
  | none => exact ⟨_, _, rfl⟩
  | some found =>
      simp only
      split <;> exact ⟨_, _, rfl⟩

theorem removeSubscriberFromAll_eq (broker : Broker) (session : Id)
    (subscriptions : List Id) :
    ∃ left directory, (broker.removeSubscriberFromAll session subscriptions).1 =
      { broker with subscriptions := left, directory } := by
  induction subscriptions generalizing broker with
  | nil => exact ⟨_, _, rfl⟩
  | cons subscription rest ih =>
      obtain ⟨once, directory, hfirst⟩ := broker.removeSubscriber_eq session subscription
      obtain ⟨left, shrunk, hrest⟩ := ih (broker.removeSubscriber session subscription).1
      refine ⟨left, shrunk, ?_⟩
      simp only [removeSubscriberFromAll]
      rw [hrest, hfirst]

/-- The state of a broker from which a session is detached that is taken out of the given
subscriptions one after the other. -/
def departed (broker : Broker) (session : Id) (subscriptions : List Id) : Broker :=
  let detached :=
    { broker with
      sessions := broker.sessions.erase session
      held := broker.held.erase session }
  (detached.removeSubscriberFromAll session subscriptions).1

theorem departed_eq (broker : Broker) (session : Id) (subscriptions : List Id) :
    ∃ left directory, broker.departed session subscriptions =
      { broker with
        sessions := broker.sessions.erase session
        held := broker.held.erase session
        subscriptions := left, directory } := by
  unfold departed
  exact removeSubscriberFromAll_eq _ _ _

theorem state_removeSession {broker : Broker} {session : Id}
    (hattached : broker.isAttached session = true) :
    (broker.removeSession session).state =
      broker.departed session (broker.held.getD session ∅).toList := by
  unfold removeSession
  rw [if_pos hattached]
  rfl

/-! ## Drawing identifiers -/

theorem ids_addSession (broker : Broker) (session : Session) :
    (broker.addSession session).state.ids = broker.ids := by
  unfold addSession
  split <;> rfl

theorem ids_removeSession (broker : Broker) (session : Id) :
    (broker.removeSession session).state.ids = broker.ids := by
  by_cases hattached : broker.isAttached session = true
  · obtain ⟨_, _, hleft⟩ := broker.departed_eq session (broker.held.getD session ∅).toList
    rw [state_removeSession hattached, hleft]
  · rw [removeSession, if_neg hattached, Outcome.state_refused]

/-- Only a new subscription draws an identifier. -/
theorem countsUp : Run.CountsUp perform Broker.ids := by
  intro broker operation
  cases operation with
  | attach session => exact Or.inl (broker.ids_addSession session)
  | detach session => exact Or.inl (broker.ids_removeSession session)
  | receive session message =>
      cases message with
      | subscribe request =>
          simp only [perform, receive, subscribe]
          split
          next =>
            simp only [Outcome.state_granted, subscriptionFor]
            split
            · exact Or.inl rfl
            · exact Or.inr rfl
          next => exact Or.inl rfl
      | unsubscribe request =>
          left
          simp only [perform, receive, unsubscribe]
          split
          next => rfl
          next subscriptions _ =>
            split
            next =>
              obtain ⟨_, _, hleft⟩ := removeSubscriber_eq
                { broker with
                  held := broker.held.insert session
                    (subscriptions.erase request.subscription) }
                session request.subscription
              simp only [Outcome.state_granted]
              rw [hleft]
            next => rfl
      | _ => exact Or.inl rfl
  | publish ambient session request =>
      left
      simp only [perform, publish]
      split
      next => rfl
      next =>
        split <;> rfl
  | disclose on => exact Or.inl rfl

end Wamp.Broker
