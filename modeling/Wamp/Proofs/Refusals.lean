import Wamp.Proofs.Broker.Run
import Wamp.Proofs.Dealer.Announcing
import Wamp.Proofs.Holdings
import Wamp.Router

/-!
# Refusals leave no trace

Some operations begin to change the state before their last check.  Giving back a subscription or
a registration first strikes it from what the session holds, and a call is put in flight before
its callee is looked up.  Even so, whoever is refused finds the broker, the dealer or the router as
it was.
-/

namespace Wamp

/-- An operation on a state leaves no trace when it is refused: the state stays as it is, and no
note is taken. -/
def Outcome.LeavesNoTrace {State Error Note Answer : Type} (state : State)
    (outcome : Outcome State Error Note Answer) : Prop :=
  ∀ error, outcome.answer = .error error → outcome = .refused state error

section Outcome

variable {State Error Note Answer : Type} {state : State}

theorem leavesNoTrace_refused (error : Error) :
    (Outcome.refused state error : Outcome State Error Note Answer).LeavesNoTrace state := by
  intro other hanswer
  rw [Outcome.answer_refused, Except.error.injEq] at hanswer
  rw [hanswer]

theorem leavesNoTrace_granted (next : State) (answer : Answer) (notes : List Note) :
    (Outcome.granted next answer notes :
      Outcome State Error Note Answer).LeavesNoTrace state := by
  intro error hanswer
  simp at hanswer

/-- Reading the answer of an operation in another way does not change what it leaves behind. -/
theorem Outcome.LeavesNoTrace.map {outcome : Outcome State Error Note Answer}
    (hclean : outcome.LeavesNoTrace state) {Other : Type} (f : Answer → Other) :
    ({ state := outcome.state
       answer := outcome.answer.map f
       notes := outcome.notes } : Outcome State Error Note Other).LeavesNoTrace state := by
  intro error hanswer
  cases hold : outcome.answer with
  | ok answer => simp [hold, Except.map] at hanswer
  | error other =>
      have hsame : other = error := by simpa [hold, Except.map] using hanswer
      rw [hclean other hold, hsame]
      rfl

end Outcome

/-! ## Brokers -/

namespace Broker

variable (broker : Broker)

theorem leavesNoTrace_addSession (session : Session) :
    (broker.addSession session).LeavesNoTrace broker := by
  unfold addSession
  split
  next => exact leavesNoTrace_refused _
  next => exact leavesNoTrace_granted _ _ _

theorem leavesNoTrace_removeSession (session : Id) :
    (broker.removeSession session).LeavesNoTrace broker := by
  unfold removeSession
  split
  next => exact leavesNoTrace_granted _ _ _
  next => exact leavesNoTrace_refused _

theorem leavesNoTrace_subscribe (session : Id) (request : Subscribe) :
    (broker.subscribe session request).LeavesNoTrace broker := by
  unfold subscribe
  split
  next => exact leavesNoTrace_granted _ _ _
  next => exact leavesNoTrace_refused _

theorem leavesNoTrace_unsubscribe (session : Id) (request : Unsubscribe) :
    (broker.unsubscribe session request).LeavesNoTrace broker := by
  unfold unsubscribe
  split
  next => exact leavesNoTrace_refused _
  next row hrow =>
    split
    next => exact leavesNoTrace_granted _ _ _
    next hheld =>
      have hmissing : request.subscription ∉ row := by
        simpa [Std.ExtTreeSet.contains_iff_mem] using hheld
      rw [Holdings.take_of_not_mem hrow hmissing]
      exact leavesNoTrace_refused _

theorem leavesNoTrace_publish (ambient : Ambient) (session : Id) (request : Publish) :
    (broker.publish ambient session request).LeavesNoTrace broker := by
  unfold publish
  split
  next => exact leavesNoTrace_refused _
  next =>
    simp only
    split
    next => exact leavesNoTrace_granted _ _ _
    next => exact leavesNoTrace_granted _ _ _

theorem leavesNoTrace_receive (session : Id) (message : Message) :
    (broker.receive session message).LeavesNoTrace broker := by
  cases message with
  | subscribe request => exact broker.leavesNoTrace_subscribe session request
  | unsubscribe request => exact broker.leavesNoTrace_unsubscribe session request
  | _ => exact leavesNoTrace_refused _

theorem leavesNoTrace_perform (operation : Operation) :
    (broker.perform operation).LeavesNoTrace broker := by
  cases operation with
  | attach session => exact (broker.leavesNoTrace_addSession session).map _
  | detach session => exact (broker.leavesNoTrace_removeSession session).map _
  | receive session message => exact (broker.leavesNoTrace_receive session message).map _
  | publish ambient session request =>
      exact (broker.leavesNoTrace_publish ambient session request).map _
  | disclose on => exact leavesNoTrace_granted _ _ _

end Broker

/-! ## Dealers -/

theorem Dealer.leavesNoTrace_perform (dealer : Dealer) (operation : Operation) :
    (dealer.perform operation).LeavesNoTrace dealer := by
  have hsettles := dealer.settles_perform operation
  generalize dealer.perform operation = outcome at hsettles
  cases hsettles with
  | refused error => exact leavesNoTrace_refused error
  | granted state routed notes => exact leavesNoTrace_granted state routed notes

open ErrorUri in
/-- A procedure that is taken is a reply and no refusal, but it leaves no trace either. -/
theorem Dealer.register_of_error {dealer : Dealer} {ambient : Ambient} {session : Id}
    {request : Register} {routed : List Routed}
    (hanswer : (dealer.register ambient session request).answer = .ok routed)
    {recipient : Id} {reply : ErrorReply}
    (hmem : { recipient, message := .error reply } ∈ routed) :
    dealer.register ambient session request =
      .granted dealer [failure session .register request.request procedureAlreadyExists]
        [.registrationRejected session request.procedure
          (InvocationPolicy.ofOptions request.options)] := by
  have hregistered : ∀ registered, routed ≠ [{
      recipient := session, message := .registered registered }] := by
    rintro registered rfl
    simp at hmem
  unfold register at hanswer ⊢
  split
  next hattached =>
    simp only [if_pos hattached] at hanswer ⊢
    split
    next entry hentry =>
      simp only [hentry] at hanswer
      split
      next => rfl
      next found hfound =>
        simp only [hfound] at hanswer
        split
        next hadmits =>
          rw [if_pos hadmits] at hanswer
          simp only [enroll, Outcome.answer_granted, Except.ok.injEq] at hanswer
          exact absurd hanswer.symm (hregistered _)
        next => rfl
    next hentry =>
      simp only [hentry, enroll, Outcome.answer_granted, Except.ok.injEq] at hanswer
      exact absurd hanswer.symm (hregistered _)
  next hattached =>
    rw [if_neg hattached] at hanswer
    simp at hanswer

namespace AnnouncingDealer

theorem leavesNoTrace_absorb {dealer : Dealer} {Answer : Type} {outcome : Dealer.Reply Answer}
    (hclean : outcome.LeavesNoTrace dealer) (board : Board) :
    (absorb board outcome).LeavesNoTrace { dealer, board } := by
  intro error hanswer
  rw [hclean error hanswer]
  rfl

theorem leavesNoTrace_perform (announcing : AnnouncingDealer) (operation : Operation) :
    (announcing.perform operation).LeavesNoTrace announcing := by
  cases operation with
  | serve operation =>
      exact leavesNoTrace_absorb (announcing.dealer.leavesNoTrace_perform operation) _
  | enable | take consumer | drop consumer => exact leavesNoTrace_granted _ _ _

theorem receive_register_of_error {announcing : AnnouncingDealer} {ambient : Ambient}
    {session : Id} {request : Register} {routed : List Routed}
    (hanswer : (announcing.receive ambient session (.register request)).answer = .ok routed)
    {recipient : Id} {reply : ErrorReply}
    (hmem : { recipient, message := .error reply } ∈ routed) :
    (announcing.receive ambient session (.register request)).state = announcing ∧
      ∀ announcement, .announced announcement ∉
        (announcing.dealer.receive ambient session (.register request)).notes := by
  have hregister : announcing.dealer.receive ambient session (.register request) = _ :=
    Dealer.register_of_error hanswer hmem
  constructor
  · unfold receive
    rw [hregister]
    rfl
  · rw [hregister]
    simp

end AnnouncingDealer

/-! ## Routers -/

namespace Router

variable (router : Router)

theorem leavesNoTrace_ofBroker {Answer : Type} {outcome : Broker.Reply Answer}
    (hclean : outcome.LeavesNoTrace router.broker) :
    (router.ofBroker outcome).LeavesNoTrace router := by
  intro error hanswer
  cases hold : outcome.answer with
  | ok answer => simp [ofBroker, hold] at hanswer
  | error other =>
      have hsame : .broker other = error := by
        simpa [ofBroker, hold] using hanswer
      rw [hclean other hold, ← hsame]
      rfl

theorem leavesNoTrace_ofDealer {Answer : Type} {outcome : AnnouncingDealer.Reply Answer}
    (hclean : outcome.LeavesNoTrace router.dealer) :
    (router.ofDealer outcome).LeavesNoTrace router := by
  intro error hanswer
  cases hold : outcome.answer with
  | ok answer => simp [ofDealer, hold] at hanswer
  | error other =>
      have hsame : .dealer other = error := by
        simpa [ofDealer, hold] using hanswer
      rw [hclean other hold, ← hsame]
      rfl

theorem leavesNoTrace_route (ambient : Ambient) (session : Id) (message : Message) :
    (router.route ambient session message).LeavesNoTrace router := by
  have hdealer := router.dealer.leavesNoTrace_perform (.serve (.receive ambient session message))
  cases message with
  | publish request =>
      exact (router.leavesNoTrace_ofBroker
        (router.broker.leavesNoTrace_publish ambient session request)).map _
  | subscribe request | unsubscribe request =>
      exact (router.leavesNoTrace_ofBroker
        (router.broker.leavesNoTrace_receive session _)).map _
  | register | unregister | call | yield | cancel | error =>
      exact router.leavesNoTrace_ofDealer hdealer
  | _ => exact leavesNoTrace_refused _

/-- A router that rejects a message does no more than write that down. -/
theorem receive_of_error {ambient : Ambient} {session : Id} {message : Message}
    {error : RouterError}
    (hanswer : (router.receive ambient session message).answer = .error error) :
    router.receive ambient session message =
      { state := router
        answer := .error error
        notes := [entry .warn "message_rejected" "message rejected"
          [("session_id", .number session), ("msg_type", .text message.kind.name),
            ("err", .text error.message)]] } := by
  unfold receive at hanswer ⊢
  rw [router.leavesNoTrace_route ambient session message error hanswer]
  rfl

theorem receive_register_of_error {ambient : Ambient} {session : Id} {request : Register}
    {routed : List Routed}
    (hanswer : (router.receive ambient session (.register request)).answer = .ok routed)
    {recipient : Id} {reply : ErrorReply}
    (hmem : { recipient, message := .error reply } ∈ routed) :
    (router.receive ambient session (.register request)).state = router := by
  cases hold : (router.dealer.receive ambient session (.register request)).answer with
  | error error => simp [receive, route, ofDealer, hold] at hanswer
  | ok answer =>
      have hsame : answer = routed := by
        simpa [receive, route, ofDealer, hold] using hanswer
      rw [hsame] at hold
      have hstate := (AnnouncingDealer.receive_register_of_error hold hmem).1
      exact congrArg (fun dealer => { router with dealer }) hstate

end Router

/-- Whatever a broker, a dealer or a router refuses, it stays as it was in every respect, and the
dealer announces nothing.  The same goes for a registration that is answered with an error. -/
theorem refusals_leave_no_trace :
    (∀ (broker : Broker) (operation : Broker.Operation),
      (broker.perform operation).LeavesNoTrace broker) ∧
    (∀ (dealer : Dealer) (operation : Dealer.Operation),
      (dealer.perform operation).LeavesNoTrace dealer) ∧
    (∀ (announcing : AnnouncingDealer) (operation : AnnouncingDealer.Operation),
      (announcing.perform operation).LeavesNoTrace announcing) ∧
    (∀ (router : Router) (ambient : Ambient) (session : Id) (message : Message)
      (error : RouterError), (router.receive ambient session message).answer = .error error →
      (router.receive ambient session message).state = router ∧
        (router.receive ambient session message).notes =
          [Router.entry .warn "message_rejected" "message rejected"
            [("session_id", .number session), ("msg_type", .text message.kind.name),
              ("err", .text error.message)]]) ∧
    (∀ (announcing : AnnouncingDealer) (ambient : Ambient) (session : Id) (request : Register)
      (routed : List Routed) (recipient : Id) (reply : ErrorReply),
      (announcing.receive ambient session (.register request)).answer = .ok routed →
      { recipient, message := .error reply } ∈ routed →
      (announcing.receive ambient session (.register request)).state = announcing ∧
        ∀ announcement, .announced announcement ∉
          (announcing.dealer.receive ambient session (.register request)).notes) ∧
    ∀ (router : Router) (ambient : Ambient) (session : Id) (request : Register)
      (routed : List Routed) (recipient : Id) (reply : ErrorReply),
      (router.receive ambient session (.register request)).answer = .ok routed →
      { recipient, message := .error reply } ∈ routed →
      (router.receive ambient session (.register request)).state = router := by
  refine ⟨Broker.leavesNoTrace_perform, Dealer.leavesNoTrace_perform,
    AnnouncingDealer.leavesNoTrace_perform, ?_, ?_, ?_⟩
  · intro router ambient session message error hanswer
    rw [router.receive_of_error hanswer]
    exact ⟨rfl, rfl⟩
  · intro announcing ambient session request routed recipient reply hanswer hmem
    exact AnnouncingDealer.receive_register_of_error hanswer hmem
  · intro router ambient session request routed recipient reply hanswer hmem
    exact router.receive_register_of_error hanswer hmem

end Wamp
