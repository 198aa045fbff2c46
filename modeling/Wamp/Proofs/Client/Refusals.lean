import Wamp.Proofs.Client.Correlation
import Wamp.Proofs.Refusals

/-!
# Refusals of a client session

A message that a client session refuses changes nothing, with one exception.  The confirmation of
a request to give up a holding closes the request even if the holding is not held any more and the
message is refused.  There is no such request as long as no two requests to give up the same
holding are open at once.
-/

namespace Wamp

/-- The kind of the requests to give up a holding. -/
def Holding.releaseKind : Holding → MessageKind
  | .subscription => .unsubscribe
  | .registration => .unregister

/-- How a holding is reported that is not held. -/
def Holding.unknown (id : Id) : Holding → ClientError
  | .subscription => .unknownSubscription id
  | .registration => .unknownRegistration id

theorem Message.settled?_of_released? {message : Message} {holding : Holding} {request : Id}
    (hreleased : message.released? = some (holding, request)) :
    message.settled? = some (holding.releaseKind, request) := by
  cases message with
  | unsubscribed | unregistered =>
      obtain ⟨rfl, rfl⟩ := Prod.mk.inj (Option.some.inj hreleased)
      rfl
  | _ => simp [released?] at hreleased

namespace Client

/-- A message confirms a request to give up something that is not held any more. -/
def Belated (client : Client) (message : Message) : Prop :=
  ∃ holding request id, message.released? = some (holding, request) ∧
    (client.releasing holding)[request]? = some id ∧ id ∉ client.held holding

/-! ## One message -/

section

variable (client : Client) {message : Message} {holding : Holding} {request id : Id}

theorem awaits_releaseKind_iff :
    client.Awaits holding.releaseKind request ↔
      ∃ id, (client.releasing holding)[request]? = some id := by
  cases holding <;>
    simp only [Awaits, awaits?, Holding.releaseKind, releasing, Option.some.injEq,
      Std.ExtTreeMap.contains_eq_isSome_getElem?, Option.isSome_iff_exists]

/-- A client session takes no notes, so what it refuses leaves no trace but in its state. -/
theorem leavesNoTrace_of_state {reply : Reply}
    (hstate : ∀ error, reply.answer = .error error → reply.state = client) :
    reply.LeavesNoTrace client := by
  intro error herror
  obtain ⟨state, answer, notes⟩ := reply
  obtain rfl : notes = [] := List.eq_nil_iff_forall_not_mem.mpr fun note _ => note.elim
  obtain rfl : answer = .error error := herror
  obtain rfl : state = client := hstate error rfl
  rfl

theorem leavesNoTrace_send (message : Message) : (client.send message).LeavesNoTrace client :=
  client.leavesNoTrace_of_state fun _ => client.state_send_of_error

theorem receive_belated (hreleased : message.released? = some (holding, request))
    (hopen : (client.releasing holding)[request]? = some id) (hgone : id ∉ client.held holding) :
    client.receive message =
      .refused (client.settle holding.releaseKind request) (holding.unknown id) := by
  cases message with
  | unsubscribed reply =>
      obtain ⟨rfl, rfl⟩ := Prod.mk.inj (Option.some.inj hreleased)
      have hunsubscribing : client.unsubscribing[reply.request]? = some id := hopen
      have hsubscriptions : id ∉ client.subscriptions := hgone
      simp [receive, receiveUnsubscribed, hunsubscribing, hsubscriptions, Holding.releaseKind,
        Holding.unknown]
  | unregistered reply =>
      obtain ⟨rfl, rfl⟩ := Prod.mk.inj (Option.some.inj hreleased)
      have hunregistering : client.unregistering[reply.request]? = some id := hopen
      have hregistrations : id ∉ client.registrations := hgone
      simp [receive, receiveUnregistered, hunregistering, hregistrations, Holding.releaseKind,
        Holding.unknown]
  | _ => simp [Message.released?] at hreleased

theorem leavesNoTrace_receive (hbelated : ¬ client.Belated message) :
    (client.receive message).LeavesNoTrace client := by
  cases message with
  | unregistered reply =>
      simp only [receive, receiveUnregistered]
      split
      next => exact leavesNoTrace_refused _
      next id hopen =>
        split
        next => exact leavesNoTrace_granted _ _ _
        next hgone =>
          have hnot : id ∉ client.registrations := by simpa using hgone
          exact absurd ⟨.registration, reply.request, id, rfl, hopen, hnot⟩ hbelated
  | unsubscribed reply =>
      simp only [receive, receiveUnsubscribed]
      split
      next => exact leavesNoTrace_refused _
      next id hopen =>
        split
        next => exact leavesNoTrace_granted _ _ _
        next hgone =>
          have hnot : id ∉ client.subscriptions := by simpa using hgone
          exact absurd ⟨.subscription, reply.request, id, rfl, hopen, hnot⟩ hbelated
  | result reply =>
      simp only [receive]
      split
      next => split <;> exact leavesNoTrace_granted _ _ _
      next => exact leavesNoTrace_refused _
  | error reply =>
      simp only [receive, receiveError]
      split
      next => exact leavesNoTrace_refused _
      next => exact leavesNoTrace_refused _
      next => exact leavesNoTrace_granted _ _ _
  | registered | invocation | interrupt | published | subscribed | event =>
      simp only [receive]
      split
      next => exact leavesNoTrace_granted _ _ _
      next => exact leavesNoTrace_refused _
  | goodbye => exact leavesNoTrace_granted _ _ _
  | _ => exact leavesNoTrace_refused _

/-- A refusal leaves a trace exactly if it is that of a belated confirmation, for that closes a
request which was open. -/
theorem leavesNoTrace_receive_iff :
    (client.receive message).LeavesNoTrace client ↔ ¬ client.Belated message := by
  refine ⟨?_, client.leavesNoTrace_receive⟩
  rintro hclean ⟨holding, request, id, hreleased, hopen, hgone⟩
  have hrefused := client.receive_belated hreleased hopen hgone
  have hkept := hclean (holding.unknown id) (by rw [hrefused]; rfl)
  have hsame : client.settle holding.releaseKind request = client := by
    rw [hrefused] at hkept
    exact congrArg Outcome.state hkept
  have hawaits : client.Awaits holding.releaseKind request :=
    client.awaits_releaseKind_iff.mpr ⟨id, hopen⟩
  rw [← hsame, awaits_settle] at hawaits
  exact hawaits.2 ⟨rfl, rfl⟩

/-- What is given up has to be held when the request is sent. -/
theorem mem_held_of_releasing (hreleasing : message.releasing? = some (holding, request, id))
    (hok : (client.send message).answer = .ok ()) : id ∈ client.held holding := by
  cases message with
  | unsubscribe asked =>
      obtain ⟨rfl, hsame⟩ := Prod.mk.inj (Option.some.inj hreleasing)
      obtain ⟨-, rfl⟩ := Prod.mk.inj hsame
      exact (client.answer_send_unsubscribe asked).mp hok
  | unregister asked =>
      obtain ⟨rfl, hsame⟩ := Prod.mk.inj (Option.some.inj hreleasing)
      obtain ⟨-, rfl⟩ := Prod.mk.inj hsame
      exact (client.answer_send_unregister asked).mp hok
  | _ => simp [Message.releasing?] at hreleasing

end

/-! ## One request at a time -/

/-- An operation asks to give up a holding while another request to give it up is open. -/
def pipelines (client : Client) : Operation → Bool
  | .send message =>
    message.releasing?.any fun (holding, request, id) =>
      (client.releasing holding).toList.any fun (other, released) =>
        other != request && released == id
  | .receive _ => false

theorem eq_of_not_pipelines {client : Client} {message : Message} {holding : Holding}
    {request id : Id} (halone : client.pipelines (.send message) = false)
    (hreleasing : message.releasing? = some (holding, request, id)) {other : Id}
    (hopen : (client.releasing holding)[other]? = some id) : other = request := by
  by_contra hne
  have hmem : (other, id) ∈ (client.releasing holding).toList :=
    Std.ExtTreeMap.mem_toList_iff_getElem?_eq_some.mpr hopen
  simp only [pipelines, hreleasing, Option.any_some, List.any_eq_false, Bool.and_eq_true,
    bne_iff_ne, ne_eq, beq_iff_eq, not_and] at halone
  exact halone _ hmem hne rfl

/-- What an open request is to give up is held, and no other open request is about the same. -/
structure Timely (client : Client) : Prop where
  held : ∀ (holding : Holding) (request id : Id),
    (client.releasing holding)[request]? = some id → id ∈ client.held holding
  alone : ∀ (holding : Holding) (request other id : Id),
    (client.releasing holding)[request]? = some id →
      (client.releasing holding)[other]? = some id → request = other

theorem timely_new : ({} : Client).Timely where
  held holding request id hopen := by
    cases holding <;> simp [releasing] at hopen
  alone holding request other id hopen := by
    cases holding <;> simp [releasing] at hopen

namespace Timely

variable {client : Client} {message : Message}

theorem not_belated (htimely : client.Timely) (message : Message) : ¬ client.Belated message := by
  rintro ⟨holding, request, id, -, hopen, hgone⟩
  exact hgone (htimely.held holding request id hopen)

theorem send (htimely : client.Timely) (halone : client.pipelines (.send message) = false)
    (hok : (client.send message).answer = .ok ()) : (client.send message).state.Timely := by
  -- An open request is the one that is sent, or it was open before.
  have hcases : ∀ {holding : Holding} {request id : Id},
      ((client.send message).state.releasing holding)[request]? = some id →
        message.releasing? = some (holding, request, id) ∨
          (client.releasing holding)[request]? = some id := by
    intro holding request id hopen
    rw [client.getElem?_releasing_send hok, Option.or_eq_some_iff] at hopen
    rcases hopen with hnamed | ⟨-, hopen⟩
    · simp only [Operation.named?] at hnamed
      split at hnamed
      next released asked named hreleasing =>
        rw [Option.ite_none_right_eq_some, Option.some.injEq] at hnamed
        obtain ⟨⟨rfl, rfl⟩, rfl⟩ := hnamed
        exact Or.inl hreleasing
      next => contradiction
    · exact Or.inr hopen
  constructor
  · intro holding request id hopen
    rw [held_send]
    rcases hcases hopen with hreleasing | hopen
    · exact client.mem_held_of_releasing hreleasing hok
    · exact htimely.held holding request id hopen
  · intro holding request other id hopen hother
    rcases hcases hopen with hreleasing | hearlier
    · rcases hcases hother with hsame | hbefore
      · rw [hreleasing, Option.some.injEq, Prod.mk.injEq, Prod.mk.injEq] at hsame
        exact hsame.2.1
      · exact (eq_of_not_pipelines halone hreleasing hbefore).symm
    · rcases hcases hother with hreleasing | hbefore
      · exact eq_of_not_pipelines halone hreleasing hearlier
      · exact htimely.alone holding request other id hearlier hbefore

theorem receive (htimely : client.Timely) : (client.receive message).state.Timely := by
  constructor
  · intro holding request id hopen
    have hearlier := client.getElem?_releasing_receive hopen
    rw [mem_held_receive]
    refine Or.inr ⟨htimely.held holding request id hearlier, ?_⟩
    -- The confirmed request would be this one, which is still open.
    rintro ⟨-, confirmed, hreleased, hconfirmed⟩
    obtain rfl := htimely.alone holding confirmed request id hconfirmed hearlier
    have hawaits : (client.receive message).state.Awaits holding.releaseKind confirmed :=
      awaits_releaseKind_iff _ |>.mpr ⟨id, hopen⟩
    rw [awaits_receive] at hawaits
    exact hawaits.2 (Message.settled?_of_released? hreleased)
  · intro holding request other id hopen hother
    exact htimely.alone holding request other id (client.getElem?_releasing_receive hopen)
      (client.getElem?_releasing_receive hother)

theorem perform (htimely : client.Timely) {operation : Operation}
    (halone : client.pipelines operation = false) :
    (client.perform operation).state.Timely := by
  cases operation with
  | send message =>
      cases hanswer : (client.send message).answer with
      | ok => exact htimely.send halone hanswer
      | error error =>
          have hkept : (client.perform (.send message)).state = client :=
            client.state_send_of_error hanswer
          rwa [hkept]
  | receive message => exact htimely.receive

end Timely

theorem timely_final {operations : List Operation}
    (halone : Run.Throughout perform (fun client operation => client.pipelines operation = false)
      {} operations) : (Run.final perform {} operations).Timely := by
  induction operations using List.reverseRecOn with
  | nil => exact timely_new
  | append_singleton operations operation ih =>
      obtain ⟨hearlier, hlast⟩ := Run.throughout_concat.mp halone
      rw [Run.final_concat]
      exact (ih hearlier).perform hlast

/-- In every run, whatever is refused leaves the session as it was, but for a confirmation that
comes when its holding is not held any more: that one closes its request.  It does not come up in
a run that never asks to give up a holding while another request to give it up is open. -/
theorem refusals_of_run (operations : List Operation) :
    let client := Run.final perform {} operations
    (∀ message, (client.send message).LeavesNoTrace client) ∧
    (∀ message, (client.receive message).LeavesNoTrace client ↔ ¬ client.Belated message) ∧
    (∀ message holding request id, message.released? = some (holding, request) →
      (client.releasing holding)[request]? = some id → id ∉ client.held holding →
      client.receive message =
        .refused (client.settle holding.releaseKind request) (holding.unknown id)) ∧
    (Run.Throughout perform (fun client operation => client.pipelines operation = false)
      {} operations → ∀ operation, (client.perform operation).LeavesNoTrace client) := by
  intro client
  refine ⟨client.leavesNoTrace_send, fun _ => client.leavesNoTrace_receive_iff,
    fun _ _ _ _ => client.receive_belated, ?_⟩
  intro halone operation
  have htimely : client.Timely := timely_final halone
  cases operation with
  | send message => exact client.leavesNoTrace_send message
  | receive message => exact client.leavesNoTrace_receive (htimely.not_belated message)

section Subscriptions

def newSubscription (request subscription : Id) (topic : String) : List Operation :=
  [.send (.subscribe { request, options := ∅, topic }),
    .receive (.subscribed { request, subscription })]

def releases (request subscription : Id) : Operation :=
  .send (.unsubscribe { request, subscription })

def confirmed (request : Id) : Operation :=
  .receive (.unsubscribed { request })

/-- A subscription is given up, granted anew and given up again, while another one is about to be
given up. -/
def renewedSubscription : List Operation :=
  newSubscription 1 9 "com.news" ++ newSubscription 2 8 "com.weather" ++
    [releases 3 9, releases 4 8, confirmed 3] ++ newSubscription 5 9 "com.news" ++ [releases 6 9]

theorem refusals_renewedSubscription :
    Run.Throughout perform (fun client operation => client.pipelines operation = false)
      {} renewedSubscription ∧
    let client := Run.final perform {} renewedSubscription
    client.unsubscribing.toList = [(4, 8), (6, 9)] ∧
      client.perform (confirmed 3) =
        .refused client (.unknownRequest .unsubscribed 3) ∧
      client.perform (releases 7 5) = .refused client (.unknownSubscription 5) := by
  have halone : Run.Throughout perform
      (fun client operation => client.pipelines operation = false) {} renewedSubscription := by
    decide +kernel
  obtain ⟨-, -, -, hrefusals⟩ := refusals_of_run renewedSubscription
  exact ⟨halone, by decide +kernel,
    hrefusals halone (confirmed 3) _ (by decide +kernel),
    hrefusals halone (releases 7 5) _ (by decide +kernel)⟩

/-- Two requests to give up one subscription are open when the first is confirmed. -/
def pipelinedReleases : List Operation :=
  newSubscription 1 9 "com.news" ++ [releases 2 9, releases 3 9, confirmed 2]

/-- The second confirmation is refused, but its request is gone. -/
theorem leaves_trace_pipelinedReleases :
    let client := Run.final perform {} pipelinedReleases
    let outcome := client.perform (confirmed 3)
    outcome.answer = .error (.unknownSubscription 9) ∧
      client.unsubscribing.toList = [(3, 9)] ∧ outcome.state.unsubscribing.toList = [] ∧
      ¬ outcome.LeavesNoTrace client := by
  intro client outcome
  have hrefused : outcome.answer = .error (.unknownSubscription 9) := by decide +kernel
  have hopen : client.unsubscribing.toList = [(3, 9)] := by decide +kernel
  have hclosed : outcome.state.unsubscribing.toList = [] := by decide +kernel
  refine ⟨hrefused, hopen, hclosed, fun hclean => ?_⟩
  rw [hclean _ hrefused, Outcome.state_refused, hopen] at hclosed
  contradiction

end Subscriptions

end Client

end Wamp
