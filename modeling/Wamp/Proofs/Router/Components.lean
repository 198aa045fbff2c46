import Wamp.Proofs.Broker.Sending
import Wamp.Proofs.Dealer.Ledger
import Wamp.Proofs.Router.Run

/-!
# The components of a router

An operation of a router amounts to at most one operation of its broker and at most one of its
dealer.  A run of the router takes either of them through a run of its own that draws the same
identifiers, so whatever holds of all runs of a broker or of a dealer holds inside a router.
-/

namespace Wamp.Router

/-- The part of an operation that the broker of a realm performs. -/
def Operation.forBroker? (realm : String) : Operation → Option Broker.Operation
  | .attach session => if session.realm = realm then some (.attach session) else none
  | .detach session => some (.detach session)
  | .receive ambient session message =>
    match message with
    | .publish request => some (.publish ambient session request)
    | .subscribe _ | .unsubscribe _ => some (.receive session message)
    | _ => none

/-- The part of an operation that the dealer of a realm performs. -/
def Operation.forDealer? (realm : String) : Operation → Option AnnouncingDealer.Operation
  | .attach session => if session.realm = realm then some (.serve (.attach session)) else none
  | .detach session => some (.serve (.detach session))
  | .receive ambient session message =>
    match message with
    | .register _ | .unregister _ | .call _ | .yield _ | .cancel _ | .error _ =>
      some (.serve (.receive ambient session message))
    | _ => none

/-! ## One operation -/

section Step

variable {router : Router}

theorem Together.state_attach (htogether : router.Together) {session : Session}
    (hrealm : session.realm = router.realm) :
    (router.attach session).state =
      { router with
        broker := (router.broker.addSession session).state
        dealer := (router.dealer.addSession session).state } := by
  have hattaches := htogether.attaches session
  generalize router.attach session = outcome at hattaches
  cases hattaches with
  | refused _ _ hstate hcause =>
      have hattached := hcause.resolve_left (not_not_intro hrealm)
      rw [hstate, router.broker.addSession_of_attached hattached,
        (htogether.addSession_of_attached hattached).1]
      rfl
  | granted _ _ _ hstate => exact hstate

theorem realm_perform (router : Router) (operation : Operation) :
    (router.perform operation).state.realm = router.realm := by
  cases operation with
  | attach session =>
      simp only [perform, attach]
      split
      next =>
        split
        next => rfl
        next => split <;> rfl
      next => rfl
  | detach session =>
      simp only [perform]
      rw [state_detach]
  | receive ambient session message => cases message <;> rfl

theorem Together.broker_perform (htogether : router.Together) (operation : Operation) :
    (router.perform operation).state.broker =
      (operation.forBroker? router.realm).elim router.broker fun part =>
        (router.broker.perform part).state := by
  cases operation with
  | attach session =>
      simp only [Router.perform, Operation.forBroker?]
      split
      next hrealm =>
        rw [htogether.state_attach hrealm]
        rfl
      next hrealm =>
        unfold Router.attach
        rw [if_neg hrealm]
        rfl
  | detach session =>
      simp only [Router.perform]
      rw [state_detach]
      rfl
  | receive ambient session message =>
      simp only [Router.perform]
      rw [broker_receive]
      cases message with
      | publish request => exact (router.broker.state_publish ambient session request).symm
      | _ => rfl

theorem Together.dealer_perform (htogether : router.Together) (operation : Operation) :
    (router.perform operation).state.dealer =
      (operation.forDealer? router.realm).elim router.dealer fun part =>
        (router.dealer.perform part).state := by
  cases operation with
  | attach session =>
      simp only [Router.perform, Operation.forDealer?]
      split
      next hrealm =>
        rw [htogether.state_attach hrealm]
        rfl
      next hrealm =>
        unfold Router.attach
        rw [if_neg hrealm]
        rfl
  | detach session =>
      simp only [Router.perform]
      rw [state_detach]
      rfl
  | receive ambient session message => cases message <;> rfl

theorem answer_of_forBroker? (router : Router) {ambient : Ambient} {session : Id}
    {message : Message} {part : Broker.Operation}
    (hpart : Operation.forBroker? router.realm (.receive ambient session message) = some part) :
    (router.receive ambient session message).answer =
      (router.broker.perform part).answer.mapError .broker := by
  cases message with
  | publish request =>
      obtain rfl := Option.some.inj hpart
      simp only [receive, route, ofBroker, Broker.perform]
      cases (router.broker.publish ambient session request).answer <;> rfl
  | subscribe | unsubscribe =>
      obtain rfl := Option.some.inj hpart
      simp only [receive, route, ofBroker, Broker.perform]
      cases (router.broker.receive session _).answer <;> rfl
  | _ => simp [Operation.forBroker?] at hpart

theorem answer_of_forDealer? (router : Router) {ambient : Ambient} {session : Id}
    {message : Message} {part : AnnouncingDealer.Operation}
    (hpart : Operation.forDealer? router.realm (.receive ambient session message) = some part) :
    (router.receive ambient session message).answer =
      (router.dealer.perform part).answer.mapError .dealer := by
  cases message with
  | register | unregister | call | yield | cancel | error =>
      obtain rfl := Option.some.inj hpart
      rfl
  | _ => simp [Operation.forDealer?] at hpart

theorem receive_of_forBroker? {realm : String} {operation : Operation} {ambient : Ambient}
    {session : Id} {request : Publish}
    (hpart : operation.forBroker? realm = some (.publish ambient session request)) :
    operation = .receive ambient session (.publish request) := by
  cases operation with
  | attach details =>
      simp only [Operation.forBroker?] at hpart
      split at hpart <;> simp at hpart
  | detach session => simp [Operation.forBroker?] at hpart
  | receive ambient session message =>
      cases message with
      | publish request => simpa [Operation.forBroker?] using hpart
      | _ => simp [Operation.forBroker?] at hpart

theorem receive_of_forDealer? {realm : String} {operation : Operation} {ambient : Ambient}
    {session : Id} {message : Message}
    (hpart : operation.forDealer? realm = some (.serve (.receive ambient session message))) :
    operation = .receive ambient session message := by
  cases operation with
  | attach details =>
      simp only [Operation.forDealer?] at hpart
      split at hpart <;> simp at hpart
  | detach session => simp [Operation.forDealer?] at hpart
  | receive ambient session message =>
      cases message with
      | register | unregister | call | yield | cancel | error =>
          simpa [Operation.forDealer?] using hpart
      | _ => simp [Operation.forDealer?] at hpart

end Step

/-! ## What is sent -/

section Sent

variable {routed : List Routed} {sent : Routed}

theorem kind_of_broker {broker : Broker} {part : Broker.Operation}
    (hanswer : (broker.perform part).answer = .ok routed) (hsent : sent ∈ routed) :
    sent.message.kind ∈ [.event, .published, .subscribed, .unsubscribed] := by
  cases Broker.sends_of_mem hanswer hsent <;> simp [Message.kind]

theorem kind_of_dealer {dealer : Dealer} {part : Dealer.Operation}
    (hanswer : (dealer.perform part).answer = .ok routed) (hsent : sent ∈ routed) :
    sent.message.kind ∈
      [.registered, .unregistered, .error, .invocation, .interrupt, .result] := by
  have hserves := Dealer.serves_of_granted hanswer
  generalize (dealer.perform part).state = state at hserves
  cases hserves with
  | attached | detached | disclosed => simp at hsent
  | aborted =>
      rw [List.mem_cons, List.mem_singleton] at hsent
      rcases hsent with rfl | rfl <;> simp [Dealer.interruption, Dealer.failure, Message.kind]
  | _ =>
      rw [List.mem_singleton] at hsent
      subst hsent
      simp [Dealer.interruption, Dealer.failure, Message.kind]

/-- Everything that a router sends was sent by its broker or by its dealer. -/
theorem part_of_sent {router : Router} {operation : Operation}
    (hanswer : (router.perform operation).answer = .ok routed) (hsent : sent ∈ routed) :
    (∃ part, operation.forBroker? router.realm = some part ∧
      (router.broker.perform part).answer = .ok routed) ∨
    ∃ part, operation.forDealer? router.realm = some (.serve part) ∧
      (router.dealer.dealer.perform part).answer = .ok routed := by
  cases operation with
  | attach session | detach session =>
      have hnone : routed = [] := by
        simp only [perform, map_eq_ok_iff] at hanswer
        simp_all
      simp [hnone] at hsent
  | receive ambient session message =>
      have hreceived : (router.receive ambient session message).answer = .ok routed := hanswer
      cases message with
      | publish | subscribe | unsubscribe =>
          left
          rw [router.answer_of_forBroker? rfl, mapError_eq_ok_iff] at hreceived
          exact ⟨_, rfl, hreceived⟩
      | register | unregister | call | yield | cancel | error =>
          right
          rw [router.answer_of_forDealer? rfl, mapError_eq_ok_iff] at hreceived
          exact ⟨_, rfl, hreceived⟩
      | _ => contradiction

/-- What a broker never sends comes from the dealer. -/
theorem dealer_of_sent {router : Router} {operation : Operation}
    (hanswer : (router.perform operation).answer = .ok routed) (hsent : sent ∈ routed)
    (hkind : sent.message.kind ∉ [.event, .published, .subscribed, .unsubscribed]) :
    ∃ part, operation.forDealer? router.realm = some (.serve part) ∧
      (router.dealer.dealer.perform part).answer = .ok routed := by
  rcases part_of_sent hanswer hsent with ⟨part, -, hbroker⟩ | hdealer
  · exact absurd (kind_of_broker hbroker hsent) hkind
  · exact hdealer

/-- What a dealer never sends comes from the broker. -/
theorem broker_of_sent {router : Router} {operation : Operation}
    (hanswer : (router.perform operation).answer = .ok routed) (hsent : sent ∈ routed)
    (hkind : sent.message.kind ∉
      [.registered, .unregistered, .error, .invocation, .interrupt, .result]) :
    ∃ part, operation.forBroker? router.realm = some part ∧
      (router.broker.perform part).answer = .ok routed := by
  rcases part_of_sent hanswer hsent with hbroker | ⟨part, -, hdealer⟩
  · exact hbroker
  · exact absurd (kind_of_dealer hdealer hsent) hkind

end Sent

/-! ## Runs -/

/-- The run that a new router takes its broker through. -/
def brokering (realm : String) (settings : Settings) (operations : List Operation) :
    List Broker.Operation :=
  .disclose settings.autoDisclosePublisher :: operations.filterMap (Operation.forBroker? realm)

/-- The run that a new router takes its dealer through. -/
def dealing (realm : String) (settings : Settings) (operations : List Operation) :
    List AnnouncingDealer.Operation :=
  .serve (.disclose settings.autoDiscloseCaller) ::
    operations.filterMap (Operation.forDealer? realm)

/-- The invocation identifiers that a run of a new router draws. -/
def drawnInvocations (realm : String) (settings : Settings) (operations : List Operation) :
    List Id :=
  Run.drawn perform (fun router => router.dealer.dealer.ids) (ofSettings realm settings) operations

def newBoard (settings : Settings) : Board :=
  { queueSize := settings.metaEventQueueSize }

section Run

/-- A router of a realm whose components know the same sessions. -/
def Serves (realm : String) (router : Router) : Prop :=
  router.Together ∧ router.realm = realm

variable (realm : String) (settings : Settings) (operations : List Operation)

theorem serves_ofSettings : Serves realm (ofSettings realm settings) :=
  ⟨rfl, rfl⟩

theorem Serves.perform {realm : String} (router : Router) (operation : Operation)
    (hserves : Serves realm router) : Serves realm (router.perform operation).state :=
  ⟨hserves.1.perform operation, (router.realm_perform operation).trans hserves.2⟩

theorem Serves.broker_perform {realm : String} (router : Router) (operation : Operation)
    (hserves : Serves realm router) :
    (router.perform operation).state.broker =
      (operation.forBroker? realm).elim router.broker fun part =>
        (router.broker.perform part).state := by
  rw [hserves.1.broker_perform, hserves.2]

theorem Serves.dealer_perform {realm : String} (router : Router) (operation : Operation)
    (hserves : Serves realm router) :
    (router.perform operation).state.dealer =
      (operation.forDealer? realm).elim router.dealer fun part =>
        (router.dealer.perform part).state := by
  rw [hserves.1.dealer_perform, hserves.2]

theorem broker_final :
    (Run.final perform (ofSettings realm settings) operations).broker =
      Run.final Broker.perform {} (brokering realm settings operations) :=
  Run.final_part Router.broker (Operation.forBroker? realm) (Serves realm) Serves.perform
    Serves.broker_perform (serves_ofSettings realm settings) operations

theorem dealer_final :
    (Run.final perform (ofSettings realm settings) operations).dealer =
      Run.final AnnouncingDealer.perform { board := newBoard settings }
        (dealing realm settings operations) :=
  Run.final_part Router.dealer (Operation.forDealer? realm) (Serves realm) Serves.perform
    Serves.dealer_perform (serves_ofSettings realm settings) operations

theorem drawnInvocations_eq :
    drawnInvocations realm settings operations =
      AnnouncingDealer.drawnIds (newBoard settings) (dealing realm settings operations) :=
  Run.drawn_part Router.dealer (Operation.forDealer? realm) (Serves realm) Serves.perform
    Serves.dealer_perform (fun announcing => announcing.dealer.ids)
    (serves_ofSettings realm settings) operations

end Run

theorem dealing_append (realm : String) (settings : Settings) (before after : List Operation) :
    dealing realm settings (before ++ after) =
      dealing realm settings before ++ after.filterMap (Operation.forDealer? realm) := by
  simp [dealing]

end Wamp.Router
