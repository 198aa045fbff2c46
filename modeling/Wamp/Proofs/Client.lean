import Wamp.Client
import Wamp.Dealer

/-!
# The calls and the holdings of a client session

How the record of the calls that await their final reply follows what the client sends and
receives, one message at a time and for all that is delivered to its session at once.  What the
client holds changes only by the four replies that say so, and these are accepted when they come
right after the request.
-/

namespace Wamp

/-- The call that a result or an error answers. -/
def Message.answeredCall? : Message → Option Id
  | .result reply => some reply.request
  | .error reply => if reply.answers = .call then some reply.request else none
  | _ => none

/-- The call that a final reply ends; a progressive result ends none. -/
def Message.endedCall? : Message → Option Id
  | .result reply => if reply.details.flag "progress" then none else some reply.request
  | .error reply => if reply.answers = .call then some reply.request else none
  | _ => none

/-- A message that arrives leaves the holdings of its recipient as they are. -/
def Message.keepsHoldings : Message → Bool
  | .registered _ | .unregistered _ | .subscribed _ | .unsubscribed _ => false
  | _ => true

def Routed.answeredCall? (routed : Routed) : Option CallKey :=
  routed.message.answeredCall?.map fun request => { caller := routed.recipient, request }

def Routed.endedCall? (routed : Routed) : Option CallKey :=
  routed.message.endedCall?.map fun request => { caller := routed.recipient, request }

theorem Routed.answeredCall?_eq_some {routed : Routed} {key : CallKey} :
    routed.answeredCall? = some key ↔
      routed.recipient = key.caller ∧ routed.message.answeredCall? = some key.request := by
  unfold answeredCall?
  rw [Option.map_eq_some_iff]
  constructor
  · rintro ⟨request, hanswered, rfl⟩
    exact ⟨rfl, hanswered⟩
  · rintro ⟨hcaller, hanswered⟩
    exact ⟨key.request, hanswered, by rw [hcaller]⟩

theorem Routed.endedCall?_eq_some {routed : Routed} {key : CallKey} :
    routed.endedCall? = some key ↔
      routed.recipient = key.caller ∧ routed.message.endedCall? = some key.request := by
  unfold endedCall?
  rw [Option.map_eq_some_iff]
  constructor
  · rintro ⟨request, hended, rfl⟩
    exact ⟨rfl, hended⟩
  · rintro ⟨hcaller, hended⟩
    exact ⟨key.request, hended, by rw [hcaller]⟩

theorem Message.answeredCall?_of_endedCall? {message : Message} {request : Id}
    (hended : message.endedCall? = some request) : message.answeredCall? = some request := by
  cases message with
  | result reply =>
      simp only [endedCall?, Option.ite_none_left_eq_some] at hended
      exact hended.2
  | error reply => exact hended
  | _ => simp [endedCall?] at hended

theorem Routed.answeredCall?_of_endedCall? {routed : Routed} {key : CallKey}
    (hended : routed.endedCall? = some key) : routed.answeredCall? = some key := by
  obtain ⟨hcaller, hrequest⟩ := endedCall?_eq_some.mp hended
  exact answeredCall?_eq_some.mpr ⟨hcaller, Message.answeredCall?_of_endedCall? hrequest⟩

namespace Client

/-- Only a call that is sent adds to the record. -/
theorem mem_calls_send (client : Client) (message : Message) (request : Id) :
    request ∈ (client.send message).state.calls ↔
      (∃ call, message = .call call ∧ call.request = request) ∨ request ∈ client.calls := by
  cases message with
  | yield answer =>
      simp only [send]
      split
      next => split <;> simp
      next => simp
  | cancel | unregister | publish | unsubscribe | error =>
      simp only [send]
      split <;> simp
  | _ => simp [send]

theorem calls_settle (client : Client) (kind : MessageKind) (request : Id) :
    (client.settle kind request).calls =
      if kind = .call then client.calls.erase request else client.calls := by
  cases kind <;> rfl

theorem mem_calls_receiveError (client : Client) (reply : ErrorReply) (request : Id) :
    request ∈ (client.receiveError reply).state.calls ↔
      request ∈ client.calls ∧ ¬ (reply.answers = .call ∧ reply.request = request) := by
  unfold receiveError
  by_cases hcall : reply.answers = .call
  · cases hawaits : client.calls.contains reply.request with
    | true => simp [hcall, hawaits, awaits?, calls_settle, and_comm]
    | false =>
        have hnot : reply.request ∉ client.calls := by
          simpa [← Std.ExtTreeSet.contains_iff_mem] using hawaits
        simp only [hcall, hawaits, awaits?, Outcome.state_refused, true_and]
        refine ⟨fun hmem => ⟨hmem, ?_⟩, And.left⟩
        rintro rfl
        exact hnot hmem
  · split <;> simp [hcall, calls_settle]

/-- Only a final reply takes from the record. -/
theorem mem_calls_receive (client : Client) (message : Message) (request : Id) :
    request ∈ (client.receive message).state.calls ↔
      request ∈ client.calls ∧ message.endedCall? ≠ some request := by
  cases message with
  | result reply =>
      simp only [receive, Message.endedCall?]
      split
      next hmem =>
        split
        next => simp
        next => simp [calls_settle, and_comm]
      next hmem =>
        have hnot : reply.request ∉ client.calls := by
          simpa [← Std.ExtTreeSet.contains_iff_mem] using hmem
        split
        next => simp
        next =>
          refine ⟨fun hheld => ⟨hheld, ?_⟩, And.left⟩
          rw [ne_eq, Option.some.injEq]
          rintro rfl
          exact hnot hheld
  | error reply =>
      simp only [receive, Message.endedCall?]
      rw [mem_calls_receiveError]
      simp
  | unregistered reply =>
      simp only [receive, receiveUnregistered, Message.endedCall?]
      split
      next => simp
      next => split <;> simp [calls_settle]
  | unsubscribed reply =>
      simp only [receive, receiveUnsubscribed, Message.endedCall?]
      split
      next => simp
      next => split <;> simp [calls_settle]
  | registered | invocation | interrupt | published | subscribed | event =>
      simp only [receive, Message.endedCall?]
      split <;> simp [calls_settle]
  | _ => simp [receive, Message.endedCall?]

theorem answer_receive_iff (client : Client) {message : Message} {request : Id}
    (hanswers : message.answeredCall? = some request) :
    (client.receive message).answer = .ok () ↔ request ∈ client.calls := by
  cases message with
  | result reply =>
      simp only [Message.answeredCall?, Option.some.injEq] at hanswers
      subst hanswers
      simp only [receive]
      rw [← Std.ExtTreeSet.contains_iff_mem]
      split
      next hmem => split <;> simp [hmem]
      next hmem => simp [hmem]
  | error reply =>
      simp only [Message.answeredCall?, Option.ite_none_right_eq_some, Option.some.injEq]
        at hanswers
      obtain ⟨hcall, rfl⟩ := hanswers
      rw [← Std.ExtTreeSet.contains_iff_mem]
      cases hawaits : client.calls.contains reply.request with
      | true => simp [receive, receiveError, hcall, awaits?, hawaits]
      | false => simp [receive, receiveError, hcall, awaits?, hawaits]
  | _ => simp [Message.answeredCall?] at hanswers

/-- What a message was, and what a client session made of it. -/
abbrev Heard := Message × Except ClientError Unit

/-- Receives, of several routed messages, those that are for one session. -/
def hear (session : Id) (client : Client) : List Routed → Client × List Heard
  | [] => (client, [])
  | routed :: rest =>
    if routed.recipient = session then
      let outcome := client.receive routed.message
      let (client, heard) := hear session outcome.state rest
      (client, (routed.message, outcome.answer) :: heard)
    else
      hear session client rest

theorem mem_calls_hear (session : Id) (client : Client) (routed : List Routed) (request : Id) :
    request ∈ (hear session client routed).1.calls ↔
      request ∈ client.calls ∧
        ({ caller := session, request } : CallKey) ∉ routed.filterMap Routed.endedCall? := by
  induction routed generalizing client with
  | nil => simp [hear]
  | cons first rest ih =>
      simp only [List.mem_filterMap] at ih
      simp only [hear, List.mem_filterMap, List.mem_cons, exists_eq_or_imp,
        Routed.endedCall?_eq_some]
      simp only [Routed.endedCall?_eq_some] at ih
      split
      next hrecipient =>
        rw [ih, mem_calls_receive]
        simp only [hrecipient, true_and, not_or, ne_eq, and_assoc]
      next hrecipient =>
        rw [ih]
        simp only [hrecipient, false_and, false_or]

/-- A single reply to a call on record is accepted. -/
theorem answer_hear (session : Id) (client : Client) (routed : List Routed)
    (hrecorded : ∀ request, ({ caller := session, request } : CallKey) ∈
      routed.filterMap Routed.answeredCall? → request ∈ client.calls)
    (honce : (routed.filterMap Routed.answeredCall?).length ≤ 1) {heard : Heard}
    (hmem : heard ∈ (hear session client routed).2)
    (hanswers : heard.1.answeredCall?.isSome = true) : heard.2 = .ok () := by
  induction routed generalizing client with
  | nil => simp [hear] at hmem
  | cons first rest ih =>
      cases hfirst : first.answeredCall? with
      | none =>
          rw [List.filterMap_cons_none hfirst] at hrecorded honce
          simp only [hear] at hmem
          split at hmem
          next hrecipient =>
            have hsilent : first.message.answeredCall? = none := by
              simpa [Routed.answeredCall?] using hfirst
            rcases List.mem_cons.mp hmem with rfl | hrest
            · simp [hsilent] at hanswers
            · refine ih _ (fun request hrequest => ?_) honce hrest
              rw [mem_calls_receive]
              refine ⟨hrecorded request hrequest, fun hended => ?_⟩
              rw [Message.answeredCall?_of_endedCall? hended] at hsilent
              contradiction
          next => exact ih client hrecorded honce hmem
      | some key =>
          rw [List.filterMap_cons_some hfirst] at hrecorded honce
          have hsilent : rest.filterMap Routed.answeredCall? = [] := by
            simpa using honce
          have hrest : ∀ client, heard ∈ (hear session client rest).2 → heard.2 = .ok () := by
            intro client hmem
            exact ih client (by simp [hsilent]) (by simp [hsilent]) hmem
          obtain ⟨hcaller, hanswered⟩ := Routed.answeredCall?_eq_some.mp hfirst
          simp only [hear] at hmem
          split at hmem
          next hrecipient =>
            rcases List.mem_cons.mp hmem with rfl | hlater
            · have hsession : key.caller = session := hcaller.symm.trans hrecipient
              apply (answer_receive_iff client hanswered).mpr
              apply hrecorded
              rw [← hsession]
              exact List.mem_cons_self
            · exact hrest _ hlater
          next => exact hrest client hmem

/-! ## Holdings -/

theorem send_keeps (client : Client) (message : Message) :
    (client.send message).state.registrations = client.registrations ∧
      (client.send message).state.subscriptions = client.subscriptions := by
  cases message with
  | yield =>
      simp only [send]
      split
      next => split <;> exact ⟨rfl, rfl⟩
      next => exact ⟨rfl, rfl⟩
  | cancel | unregister | publish | unsubscribe | error =>
      simp only [send]
      split <;> exact ⟨rfl, rfl⟩
  | _ => exact ⟨rfl, rfl⟩

theorem registrations_send (client : Client) (message : Message) :
    (client.send message).state.registrations = client.registrations :=
  (client.send_keeps message).1

theorem subscriptions_send (client : Client) (message : Message) :
    (client.send message).state.subscriptions = client.subscriptions :=
  (client.send_keeps message).2

theorem settle_eq (client : Client) {kind : MessageKind} (request : Id) :
    (client.settle kind request).registrations = client.registrations ∧
      (client.settle kind request).subscriptions = client.subscriptions := by
  cases kind <;> exact ⟨rfl, rfl⟩

theorem receive_keeps (client : Client) {message : Message}
    (hkeeps : message.keepsHoldings = true) :
    (client.receive message).state.registrations = client.registrations ∧
      (client.receive message).state.subscriptions = client.subscriptions := by
  cases message with
  | registered | unregistered | subscribed | unsubscribed => simp [Message.keepsHoldings] at hkeeps
  | result =>
      simp only [receive]
      split
      next => split <;> exact ⟨rfl, rfl⟩
      next => exact ⟨rfl, rfl⟩
  | error reply =>
      simp only [receive, receiveError]
      split
      next => exact ⟨rfl, rfl⟩
      next => exact ⟨rfl, rfl⟩
      next => exact client.settle_eq reply.request
  | invocation | interrupt | published | event =>
      simp only [receive]
      split <;> exact ⟨rfl, rfl⟩
  | _ => exact ⟨rfl, rfl⟩

section Replies

variable (client : Client)

theorem receive_subscribed (request : Subscribe) (id : Id) :
    let outcome := (client.send (.subscribe request)).state.receive
      (.subscribed { request := request.request, subscription := id })
    outcome.answer = .ok () ∧ outcome.state.registrations = client.registrations ∧
      outcome.state.subscriptions = client.subscriptions.insert id := by
  simp [send, receive, settle]

theorem receive_registered (request : Register) (id : Id) :
    let outcome := (client.send (.register request)).state.receive
      (.registered { request := request.request, registration := id })
    outcome.answer = .ok () ∧ outcome.state.registrations = client.registrations.insert id ∧
      outcome.state.subscriptions = client.subscriptions := by
  simp [send, receive, settle]

theorem answer_send_unsubscribe (request : Unsubscribe) :
    (client.send (.unsubscribe request)).answer = .ok () ↔
      request.subscription ∈ client.subscriptions := by
  simp only [send]
  rw [← Std.ExtTreeSet.contains_iff_mem]
  split <;> simp_all

theorem answer_send_unregister (request : Unregister) :
    (client.send (.unregister request)).answer = .ok () ↔
      request.registration ∈ client.registrations := by
  simp only [send]
  rw [← Std.ExtTreeSet.contains_iff_mem]
  split <;> simp_all

theorem receive_unsubscribed (request : Unsubscribe)
    (hheld : request.subscription ∈ client.subscriptions) :
    let outcome := (client.send (.unsubscribe request)).state.receive
      (.unsubscribed { request := request.request })
    outcome.answer = .ok () ∧ outcome.state.registrations = client.registrations ∧
      outcome.state.subscriptions = client.subscriptions.erase request.subscription := by
  simp [send, receive, receiveUnsubscribed, settle, hheld]

theorem receive_unregistered (request : Unregister)
    (hheld : request.registration ∈ client.registrations) :
    let outcome := (client.send (.unregister request)).state.receive
      (.unregistered { request := request.request })
    outcome.answer = .ok () ∧
      outcome.state.registrations = client.registrations.erase request.registration ∧
      outcome.state.subscriptions = client.subscriptions := by
  simp [send, receive, receiveUnregistered, settle, hheld]

theorem receive_rejection (request : Register) (uri : String) :
    ((client.send (.register request)).state.receive
      (.error (.plain .register request.request uri))).answer = .ok () := by
  simp [send, receive, receiveError, ErrorReply.plain, awaits?]

theorem receive_published (request : Publish)
    (hasked : request.options.flag "acknowledge" = true) (publication : Id) :
    ((client.send (.publish request)).state.receive
      (.published { request := request.request, publication })).answer = .ok () := by
  simp [send, receive, hasked]

theorem state_receive_event (event : Event) : (client.receive (.event event)).state = client := by
  simp only [receive]
  split <;> rfl

theorem answer_receive_event (event : Event) :
    (client.receive (.event event)).answer = .ok () ↔
      event.subscription ∈ client.subscriptions := by
  simp only [receive]
  rw [← Std.ExtTreeSet.contains_iff_mem]
  split <;> simp_all

theorem receive_invocation (request : Invocation) :
    request.registration ∈ client.registrations ∧
        (client.receive (.invocation request)).answer = .ok () ∨
      request.registration ∉ client.registrations ∧
        (client.receive (.invocation request)).answer =
          .error (.unknownRegistration request.registration) := by
  by_cases hheld : request.registration ∈ client.registrations
  · exact Or.inl ⟨hheld, by simp [receive, hheld]⟩
  · exact Or.inr ⟨hheld, by simp [receive, hheld]⟩

end Replies

end Client

end Wamp
