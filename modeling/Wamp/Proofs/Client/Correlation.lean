import Mathlib.Data.List.Induction
import Wamp.Proofs.Client
import Wamp.Proofs.Run

/-!
# Correlated traffic

What a client session accepts depends on the traffic that it accepted before: a final reply is
accepted only while the request that it answers is unanswered, and an event or an invocation only
while its subscription or registration is granted and not given up.  The requests of one kind are
not touched by messages of another kind.
-/

namespace Wamp

/-! ## What messages say about requests and holdings -/

/-- The kind of request that a message makes, answers or otherwise belongs to. -/
def Message.requestKind? : Message → Option MessageKind
  | .call _ | .cancel _ | .result _ => some .call
  | .register _ | .registered _ => some .register
  | .unregister _ | .unregistered _ => some .unregister
  | .publish _ | .published _ => some .publish
  | .subscribe _ | .subscribed _ => some .subscribe
  | .unsubscribe _ | .unsubscribed _ => some .unsubscribe
  | .invocation _ | .interrupt _ | .yield _ => some .invocation
  | .error reply => some reply.answers
  | _ => none

/-- The request that a message makes, if it is to be answered. -/
def Message.requested? : Message → Option (MessageKind × Id)
  | .call request => some (.call, request.request)
  | .register request => some (.register, request.request)
  | .unregister request => some (.unregister, request.request)
  | .publish request =>
    if request.options.flag "acknowledge" then some (.publish, request.request) else none
  | .subscribe request => some (.subscribe, request.request)
  | .unsubscribe request => some (.unsubscribe, request.request)
  | _ => none

/-- The request that a message is the final reply to; a progressive result is final to none. -/
def Message.settled? : Message → Option (MessageKind × Id)
  | .result reply =>
    if reply.details.flag "progress" then none else some (.call, reply.request)
  | .registered reply => some (.register, reply.request)
  | .unregistered reply => some (.unregister, reply.request)
  | .published reply => some (.publish, reply.request)
  | .subscribed reply => some (.subscribe, reply.request)
  | .unsubscribed reply => some (.unsubscribe, reply.request)
  | .error reply => some (reply.answers, reply.request)
  | _ => none

/-- What a client is granted until it gives it up. -/
inductive Holding where
  | subscription
  | registration
  deriving DecidableEq, Repr

def Message.granted? : Message → Option (Holding × Id)
  | .subscribed reply => some (.subscription, reply.subscription)
  | .registered reply => some (.registration, reply.registration)
  | _ => none

/-- A request to give up a holding, with its own identifier and that of the holding. -/
def Message.releasing? : Message → Option (Holding × Id × Id)
  | .unsubscribe request => some (.subscription, request.request, request.subscription)
  | .unregister request => some (.registration, request.request, request.registration)
  | _ => none

/-- The request to give up a holding that a message confirms. -/
def Message.released? : Message → Option (Holding × Id)
  | .unsubscribed reply => some (.subscription, reply.request)
  | .unregistered reply => some (.registration, reply.request)
  | _ => none

theorem Message.requestKind?_of_requested? {message : Message} {kind : MessageKind} {request : Id}
    (hrequested : message.requested? = some (kind, request)) :
    message.requestKind? = some kind := by
  cases message <;> simp_all [requested?, requestKind?]

namespace Client

inductive Operation where
  | send (message : Message)
  | receive (message : Message)

def perform (client : Client) : Operation → Reply
  | .send message => client.send message
  | .receive message => client.receive message

def Operation.message : Operation → Message
  | .send message | .receive message => message

/-- The traffic that a run accepts, from the oldest to the latest. -/
def accepted (client : Client) (operations : List Operation) : List Operation :=
  (Run.history perform client operations).filterMap fun occurrence =>
    match occurrence.answer with
    | .ok () => some occurrence.operation
    | .error _ => none

theorem accepted_concat_ok {client : Client} {operations : List Operation}
    {operation : Operation}
    (hok : (perform (Run.final perform client operations) operation).answer = .ok ()) :
    accepted client (operations ++ [operation]) = accepted client operations ++ [operation] := by
  unfold accepted
  rw [Run.history_concat, List.filterMap_append, hok]
  rfl

theorem accepted_concat_error {client : Client} {operations : List Operation}
    {operation : Operation} {error : ClientError}
    (herror : (perform (Run.final perform client operations) operation).answer = .error error) :
    accepted client (operations ++ [operation]) = accepted client operations := by
  unfold accepted
  rw [Run.history_concat, List.filterMap_append, herror]
  exact List.append_nil _

/-! ## Outstanding requests -/

/-- The requests of a kind that are not answered yet; two kinds keep the holding that each of
them is to give up. -/
def outstanding (client : Client) : MessageKind → Std.ExtTreeSet Id ⊕ Std.ExtTreeMap Id Id
  | .call => .inl client.calls
  | .register => .inl client.registering
  | .unregister => .inr client.unregistering
  | .publish => .inl client.publishing
  | .subscribe => .inl client.subscribing
  | .unsubscribe => .inr client.unsubscribing
  | .invocation => .inl client.invocations
  | _ => .inl ∅

def Awaits (client : Client) (kind : MessageKind) (request : Id) : Prop :=
  client.awaits? kind request = some true

theorem awaits_congr {one other : Client} {kind : MessageKind}
    (hsame : one.outstanding kind = other.outstanding kind) (request : Id) :
    one.Awaits kind request ↔ other.Awaits kind request := by
  unfold Awaits awaits?
  cases kind <;> simp_all [outstanding]

section

variable (client : Client) {message : Message} {kind : MessageKind}

theorem outstanding_send (hother : message.requestKind? ≠ some kind) :
    (client.send message).state.outstanding kind = client.outstanding kind := by
  cases message with
  | call | register | subscribe =>
      cases kind <;> first | rfl | exact absurd rfl hother
  | unregister | publish | unsubscribe =>
      simp only [send]
      split
      all_goals cases kind <;> first | rfl | exact absurd rfl hother
  | yield =>
      simp only [send]
      split
      next =>
        split
        all_goals cases kind <;> first | rfl | exact absurd rfl hother
      next => rfl
  | cancel =>
      simp only [send]
      split <;> rfl
  | error reply =>
      simp only [send]
      split
      next hanswers =>
        have hkind : kind ≠ .invocation := by
          rintro rfl
          exact hother (congrArg some hanswers)
        cases kind <;> first | rfl | exact absurd rfl hkind
      next => rfl
  | _ => rfl

theorem outstanding_settle {settled : MessageKind} (hother : settled ≠ kind) (request : Id) :
    (client.settle settled request).outstanding kind = client.outstanding kind := by
  cases settled with
  | call | register | unregister | publish | subscribe | unsubscribe =>
      cases kind <;> first | rfl | exact absurd rfl hother
  | _ => rfl

theorem outstanding_receive (hother : message.requestKind? ≠ some kind) :
    (client.receive message).state.outstanding kind = client.outstanding kind := by
  have hsettle : ∀ {settled : MessageKind} (request : Id), message.requestKind? = some settled →
      (client.settle settled request).outstanding kind = client.outstanding kind := by
    intro settled request hkind
    refine client.outstanding_settle ?_ request
    rintro rfl
    exact hother hkind
  cases message with
  | result reply =>
      simp only [receive]
      split
      next =>
        split
        next => rfl
        next => exact hsettle reply.request rfl
      next => rfl
  | registered reply | published reply | subscribed reply =>
      simp only [receive]
      split
      next => exact hsettle reply.request rfl
      next => rfl
  | unregistered reply =>
      simp only [receive, receiveUnregistered]
      split
      next => rfl
      next => split <;> exact hsettle reply.request rfl
  | unsubscribed reply =>
      simp only [receive, receiveUnsubscribed]
      split
      next => rfl
      next => split <;> exact hsettle reply.request rfl
  | invocation =>
      simp only [receive]
      split
      next => cases kind <;> first | rfl | exact absurd rfl hother
      next => rfl
  | interrupt | event =>
      simp only [receive]
      split <;> rfl
  | error reply =>
      simp only [receive, receiveError]
      split
      next => rfl
      next => rfl
      next => exact hsettle reply.request rfl
  | _ => rfl

/-- Messages of one kind leave the outstanding requests of the others alone. -/
theorem outstanding_perform {operation : Operation}
    (hother : operation.message.requestKind? ≠ some kind) :
    (client.perform operation).state.outstanding kind = client.outstanding kind := by
  cases operation with
  | send message => exact client.outstanding_send hother
  | receive message => exact client.outstanding_receive hother

theorem awaits_send (message : Message) (kind : MessageKind) (request : Id) :
    (client.send message).state.Awaits kind request ↔
      ((client.send message).answer = .ok () ∧ message.requested? = some (kind, request)) ∨
        client.Awaits kind request := by
  by_cases hkind : message.requestKind? = some kind
  · cases message with
    | call | register | subscribe =>
        obtain rfl := Option.some.inj hkind
        simp [send, Awaits, awaits?, Message.requested?]
    | unregister | unsubscribe | publish =>
        obtain rfl := Option.some.inj hkind
        simp only [send]
        split <;> simp_all [Awaits, awaits?, Message.requested?]
    | cancel | yield =>
        obtain rfl := Option.some.inj hkind
        simp only [send]
        split <;> simp_all [Awaits, awaits?, Message.requested?]
    | error reply =>
        obtain rfl := Option.some.inj hkind
        simp only [send]
        split
        next hanswers => simp [hanswers, Awaits, awaits?, Message.requested?]
        next => simp [Message.requested?]
    | _ => simp [send, Message.requested?]
  · have hnot : message.requested? ≠ some (kind, request) := fun hrequested =>
      hkind (Message.requestKind?_of_requested? hrequested)
    rw [awaits_congr (client.outstanding_send hkind)]
    simp [hnot]

theorem awaits_settle (settled : MessageKind) (done : Id) (kind : MessageKind) (request : Id) :
    (client.settle settled done).Awaits kind request ↔
      client.Awaits kind request ∧ ¬ (settled = kind ∧ done = request) := by
  by_cases hkind : settled = kind
  · subst hkind
    cases settled <;> simp [settle, Awaits, awaits?, and_comm]
  · rw [awaits_congr (client.outstanding_settle hkind done)]
    simp [hkind]

/-- A final reply closes the request that awaits it, or it is refused. -/
theorem receive_of_settled {request : Id} (hsettled : message.settled? = some (kind, request)) :
    (client.Awaits kind request ∧ ∀ other,
      (client.receive message).state.outstanding other =
        (client.settle kind request).outstanding other) ∨
    (¬ client.Awaits kind request ∧ (client.receive message).state = client ∧
      (client.receive message).answer ≠ .ok ()) := by
  cases message with
  | result reply =>
      simp only [Message.settled?, Option.ite_none_left_eq_some, Option.some.injEq,
        Prod.mk.injEq] at hsettled
      obtain ⟨hfinal, rfl, rfl⟩ := hsettled
      cases hcalls : client.calls.contains reply.request with
      | true => exact Or.inl ⟨congrArg some hcalls, fun _ => by simp [receive, hcalls, hfinal]⟩
      | false => simp [receive, Awaits, awaits?, hcalls]
  | registered reply | published reply | subscribed reply =>
      obtain ⟨rfl, rfl⟩ := Prod.mk.inj (Option.some.inj hsettled)
      simp only [receive, Awaits, awaits?]
      split
      next hasked => exact Or.inl ⟨congrArg some hasked, fun _ => rfl⟩
      next hunknown => simp [hunknown]
  | unregistered reply | unsubscribed reply =>
      obtain ⟨rfl, rfl⟩ := Prod.mk.inj (Option.some.inj hsettled)
      simp only [receive, receiveUnregistered, receiveUnsubscribed, Awaits, awaits?,
        Std.ExtTreeMap.contains_eq_isSome_getElem?]
      split
      next hunknown => simp [hunknown]
      next hasked =>
        refine Or.inl ⟨by rw [hasked]; rfl, fun _ => ?_⟩
        split <;> rfl
  | error reply =>
      obtain ⟨rfl, rfl⟩ := Prod.mk.inj (Option.some.inj hsettled)
      simp only [receive, receiveError]
      split
      next hnone => simp [Awaits, hnone]
      next hfalse => simp [Awaits, hfalse]
      next htrue => exact Or.inl ⟨htrue, fun _ => rfl⟩
  | _ => simp [Message.settled?] at hsettled

/-- What is no final reply changes nothing but the record of invocations. -/
theorem receive_of_unsettled (hsettled : message.settled? = none) :
    ∃ invocations, (client.receive message).state = { client with invocations } := by
  cases message with
  | result reply =>
      have hprogress : reply.details.flag "progress" = true := by
        simpa [Message.settled?] using hsettled
      simp only [receive, hprogress]
      split <;> exact ⟨client.invocations, rfl⟩
  | invocation =>
      simp only [receive]
      split
      next => exact ⟨_, rfl⟩
      next => exact ⟨client.invocations, rfl⟩
  | interrupt | event =>
      simp only [receive]
      split <;> exact ⟨client.invocations, rfl⟩
  | registered | unregistered | published | subscribed | unsubscribed | error => contradiction
  | _ => exact ⟨client.invocations, rfl⟩

/-- Only a final reply closes a request, and it does so even where it is refused. -/
theorem awaits_receive (message : Message) (kind : MessageKind) (request : Id) :
    (client.receive message).state.Awaits kind request ↔
      client.Awaits kind request ∧ message.settled? ≠ some (kind, request) := by
  cases hsettled : message.settled? with
  | none =>
      obtain ⟨invocations, hstate⟩ := client.receive_of_unsettled hsettled
      have hsame : (client.receive message).state.Awaits kind request ↔
          client.Awaits kind request := by
        rw [hstate]
        cases kind <;> exact Iff.rfl
      rw [hsame]
      simp
  | some settled =>
      obtain ⟨closed, done⟩ := settled
      rcases client.receive_of_settled hsettled with ⟨-, houtstanding⟩ | ⟨hnot, hstate, -⟩
      · rw [awaits_congr (houtstanding kind), awaits_settle]
        simp
      · rw [hstate]
        refine ⟨fun hawaits => ⟨hawaits, ?_⟩, And.left⟩
        rintro hsame
        obtain ⟨rfl, rfl⟩ := Prod.mk.inj (Option.some.inj hsame)
        exact hnot hawaits

/-- A final reply is accepted only for a request that awaits it. -/
theorem awaits_of_settled {request : Id} (hsettled : message.settled? = some (kind, request))
    (hok : (client.receive message).answer = .ok ()) : client.Awaits kind request := by
  rcases client.receive_of_settled hsettled with ⟨hawaits, -⟩ | ⟨-, -, hrefused⟩
  · exact hawaits
  · exact absurd hok hrefused

/-! ## Holdings -/

def held (client : Client) : Holding → Std.ExtTreeSet Id
  | .subscription => client.subscriptions
  | .registration => client.registrations

/-- The open requests to give up holdings, each with the one that it is about. -/
def releasing (client : Client) : Holding → Std.ExtTreeMap Id Id
  | .subscription => client.unsubscribing
  | .registration => client.unregistering

/-- The holding that an operation asks to give up with a request of this identifier. -/
def Operation.named? (holding : Holding) (request : Id) : Operation → Option Id
  | .send message =>
    match message.releasing? with
    | some (released, asked, id) =>
      if released = holding ∧ asked = request then some id else none
    | none => none
  | .receive _ => none

theorem held_send (message : Message) (holding : Holding) :
    (client.send message).state.held holding = client.held holding := by
  cases holding with
  | subscription => exact client.subscriptions_send message
  | registration => exact client.registrations_send message

/-- A message that is refused on the way out changes nothing. -/
theorem state_send_of_error {error : ClientError}
    (herror : (client.send message).answer = .error error) :
    (client.send message).state = client := by
  cases message with
  | yield =>
      simp only [send] at herror ⊢
      split at herror
      next hawaited =>
        split at herror <;> contradiction
      next hawaited => rw [if_neg hawaited]; rfl
  | cancel | unregister | unsubscribe | publish | error =>
      simp only [send] at herror ⊢
      split at herror
      next => contradiction
      next hrefused => rw [if_neg hrefused]; rfl
  | _ => first | rfl | contradiction

theorem getElem?_releasing_send (hok : (client.send message).answer = .ok ())
    (holding : Holding) (request : Id) :
    ((client.send message).state.releasing holding)[request]? =
      (Operation.named? holding request (.send message)).or
        (client.releasing holding)[request]? := by
  cases message with
  | unregister asked | unsubscribe asked =>
      simp only [send] at hok ⊢
      split at hok
      next hheld =>
        rw [if_pos hheld]
        cases holding <;>
          simp [releasing, Operation.named?, Message.releasing?, Std.ExtTreeMap.getElem?_insert]
        split <;> rfl
      next => contradiction
  | yield =>
      simp only [send]
      split
      next => split <;> cases holding <;> rfl
      next => rfl
  | cancel | publish | error =>
      simp only [send]
      split <;> cases holding <;> rfl
  | _ => cases holding <;> rfl

theorem releasing_congr {one other : Client}
    (hsame : ∀ kind, one.outstanding kind = other.outstanding kind) (holding : Holding) :
    one.releasing holding = other.releasing holding := by
  cases holding with
  | subscription => exact Sum.inr.inj (hsame .unsubscribe)
  | registration => exact Sum.inr.inj (hsame .unregister)

theorem releasing_settle (settled : MessageKind) (done : Id) {holding : Holding}
    {request id : Id}
    (hopen : ((client.settle settled done).releasing holding)[request]? = some id) :
    (client.releasing holding)[request]? = some id := by
  cases settled with
  | unregister | unsubscribe =>
      cases holding <;> simp_all [settle, releasing, Std.ExtTreeMap.getElem?_erase]
  | _ => cases holding <;> exact hopen

/-- Nothing that arrives opens a request to give up a holding. -/
theorem getElem?_releasing_receive {holding : Holding} {request id : Id}
    (hopen : ((client.receive message).state.releasing holding)[request]? = some id) :
    (client.releasing holding)[request]? = some id := by
  cases hsettled : message.settled? with
  | none =>
      obtain ⟨invocations, hstate⟩ := client.receive_of_unsettled hsettled
      rw [hstate] at hopen
      cases holding <;> exact hopen
  | some settled =>
      obtain ⟨closed, done⟩ := settled
      rcases client.receive_of_settled hsettled with ⟨-, houtstanding⟩ | ⟨-, hstate, -⟩
      · apply client.releasing_settle closed done
        rwa [releasing_congr houtstanding] at hopen
      · rwa [hstate] at hopen

theorem mem_held_receive (message : Message) (holding : Holding) (id : Id) :
    id ∈ (client.receive message).state.held holding ↔
      ((client.receive message).answer = .ok () ∧ message.granted? = some (holding, id)) ∨
      (id ∈ client.held holding ∧ ¬ ((client.receive message).answer = .ok () ∧
        ∃ request, message.released? = some (holding, request) ∧
          (client.releasing holding)[request]? = some id)) := by
  by_cases hkeeps : message.keepsHoldings = true
  · have hheld : (client.receive message).state.held holding = client.held holding := by
      obtain ⟨hregistrations, hsubscriptions⟩ := client.receive_keeps hkeeps
      cases holding with
      | subscription => exact hsubscriptions
      | registration => exact hregistrations
    rw [hheld]
    cases message <;> simp_all [Message.keepsHoldings, Message.granted?, Message.released?]
  · cases message with
    | registered | subscribed =>
        simp only [receive]
        split
        next => cases holding <;> simp [held, settle, Message.granted?, Message.released?]
        next => simp [Message.released?]
    | unregistered | unsubscribed =>
        simp only [receive, receiveUnregistered, receiveUnsubscribed]
        split
        next => simp [Message.granted?]
        next hopen =>
          split
          next =>
            cases holding <;>
              simp [held, settle, Message.granted?, Message.released?, releasing, hopen, and_comm]
          next => cases holding <;> simp [Message.granted?, held, settle]
    | _ => simp [Message.keepsHoldings] at hkeeps

/-! ## Answers -/

theorem answer_of_awaits {request : Id} (hsettled : message.settled? = some (kind, request))
    (hawaits : client.Awaits kind request) (hunregister : kind ≠ .unregister)
    (hunsubscribe : kind ≠ .unsubscribe) : (client.receive message).answer = .ok () := by
  unfold Awaits at hawaits
  cases message with
  | result reply =>
      simp only [Message.settled?, Option.ite_none_left_eq_some, Option.some.injEq,
        Prod.mk.injEq] at hsettled
      obtain ⟨hfinal, rfl, rfl⟩ := hsettled
      have hcalls : client.calls.contains reply.request = true := Option.some.inj hawaits
      simp [receive, hcalls, hfinal]
  | registered | published | subscribed =>
      obtain ⟨rfl, rfl⟩ := Prod.mk.inj (Option.some.inj hsettled)
      simp only [receive, if_pos (Option.some.inj hawaits), Outcome.answer_granted]
  | unregistered | unsubscribed =>
      obtain ⟨rfl, rfl⟩ := Prod.mk.inj (Option.some.inj hsettled)
      contradiction
  | error =>
      obtain ⟨rfl, rfl⟩ := Prod.mk.inj (Option.some.inj hsettled)
      simp only [receive, receiveError, hawaits, Outcome.answer_granted]
  | _ => simp [Message.settled?] at hsettled

theorem releasing_of_released {holding : Holding} {request : Id}
    (hreleased : message.released? = some (holding, request))
    (hok : (client.receive message).answer = .ok ()) :
    ∃ id, (client.releasing holding)[request]? = some id := by
  cases message with
  | unregistered | unsubscribed =>
      obtain ⟨rfl, rfl⟩ := Prod.mk.inj (Option.some.inj hreleased)
      simp only [receive, receiveUnregistered, receiveUnsubscribed] at hok
      split at hok
      next => contradiction
      next id hopen => exact ⟨id, hopen⟩
  | _ => simp [Message.released?] at hreleased

theorem answer_receive_result (reply : CallResult) :
    (client.receive (.result reply)).answer = .ok () ↔ client.Awaits .call reply.request := by
  simp only [receive, Awaits, awaits?, Option.some.injEq]
  split
  next hcalls => split <;> simp [hcalls]
  next hcalls => simp [hcalls]

theorem answer_send_cancel (request : Cancel) :
    (client.send (.cancel request)).answer = .ok () ↔ client.Awaits .call request.request := by
  simp only [send, Awaits, awaits?, Option.some.injEq]
  split <;> simp_all

theorem answer_receive_invocation (request : Invocation) :
    (client.receive (.invocation request)).answer = .ok () ↔
      request.registration ∈ client.registrations := by
  rcases client.receive_invocation request with ⟨hheld, hok⟩ | ⟨hheld, hrefused⟩
  · simp [hheld, hok]
  · simp [hheld, hrefused]

end

/-! ## The accepted traffic -/

/-- A request was made that no final reply has answered since. -/
def Unanswered (kind : MessageKind) (request : Id) : List Operation → Prop :=
  Run.Since
    (fun operation => ∃ message, operation = .send message ∧
      message.requested? = some (kind, request))
    (fun _ operation => ∃ message, operation = .receive message ∧
      message.settled? = some (kind, request))

/-- The holding that the last request with an identifier asks to give up. -/
def lastNamed (holding : Holding) (request : Id) (traffic : List Operation) : Option Id :=
  (traffic.filterMap (Operation.named? holding request)).getLast?

/-- A holding was granted, and no request to give it up has been confirmed since. -/
def Granted (holding : Holding) (id : Id) : List Operation → Prop :=
  Run.Since
    (fun operation => ∃ message, operation = .receive message ∧
      message.granted? = some (holding, id))
    (fun earlier operation => ∃ message request, operation = .receive message ∧
      message.released? = some (holding, request) ∧ lastNamed holding request earlier = some id)

theorem lastNamed_concat (holding : Holding) (request : Id) (traffic : List Operation)
    (operation : Operation) :
    lastNamed holding request (traffic ++ [operation]) =
      (operation.named? holding request).or (lastNamed holding request traffic) := by
  unfold lastNamed
  rw [List.filterMap_append, List.getLast?_append]
  cases hnamed : operation.named? holding request <;> simp [hnamed]

/-- The tables of a client session say what the accepted traffic says. -/
structure Correlates (client : Client) (traffic : List Operation) : Prop where
  unanswered : ∀ kind request, client.Awaits kind request → Unanswered kind request traffic
  /-- A refused confirmation closes a request to give up a holding without being accepted, so the
  two kinds are left out. -/
  awaits : ∀ kind request, kind ≠ .unregister → kind ≠ .unsubscribe →
    Unanswered kind request traffic → client.Awaits kind request
  held_iff : ∀ holding id, id ∈ client.held holding ↔ Granted holding id traffic
  named : ∀ holding request id, (client.releasing holding)[request]? = some id →
    lastNamed holding request traffic = some id

namespace Correlates

variable {client : Client} {traffic : List Operation} {message : Message}

theorem send (hcorrelates : client.Correlates traffic)
    (hok : (client.send message).answer = .ok ()) :
    (client.send message).state.Correlates (traffic ++ [.send message]) where
  unanswered kind request hawaits := by
    rw [Unanswered, Run.since_concat]
    rcases (client.awaits_send message kind request).mp hawaits with ⟨-, hrequested⟩ | hawaited
    · exact Or.inl ⟨message, rfl, hrequested⟩
    · exact Or.inr ⟨hcorrelates.unanswered kind request hawaited, by simp⟩
  awaits kind request hunregister hunsubscribe hunanswered := by
    rw [Unanswered, Run.since_concat] at hunanswered
    rw [awaits_send]
    rcases hunanswered with ⟨sent, hsent, hrequested⟩ | ⟨hearlier, -⟩
    · obtain rfl := Operation.send.inj hsent
      exact Or.inl ⟨hok, hrequested⟩
    · exact Or.inr (hcorrelates.awaits kind request hunregister hunsubscribe hearlier)
  held_iff holding id := by
    rw [held_send, hcorrelates.held_iff, Granted, Run.since_concat]
    simp
  named holding request id hopen := by
    rw [client.getElem?_releasing_send hok] at hopen
    rw [lastNamed_concat]
    cases hnamed : Operation.named? holding request (.send message) with
    | none =>
        rw [hnamed] at hopen
        exact hcorrelates.named holding request id hopen
    | some named =>
        rw [hnamed] at hopen
        exact hopen

theorem receive (hcorrelates : client.Correlates traffic)
    (hok : (client.receive message).answer = .ok ()) :
    (client.receive message).state.Correlates (traffic ++ [.receive message]) where
  unanswered kind request hawaits := by
    rw [Unanswered, Run.since_concat]
    obtain ⟨hawaited, hopen⟩ := (client.awaits_receive message kind request).mp hawaits
    refine Or.inr ⟨hcorrelates.unanswered kind request hawaited, ?_⟩
    rintro ⟨received, hreceived, hsettled⟩
    obtain rfl := Operation.receive.inj hreceived
    exact hopen hsettled
  awaits kind request hunregister hunsubscribe hunanswered := by
    rw [Unanswered, Run.since_concat] at hunanswered
    obtain ⟨hearlier, hopen⟩ := hunanswered.resolve_left (by simp)
    rw [awaits_receive]
    exact ⟨hcorrelates.awaits kind request hunregister hunsubscribe hearlier,
      fun hsettled => hopen ⟨message, rfl, hsettled⟩⟩
  held_iff holding id := by
    -- The confirmation is about the holding that the last request of its identifier names.
    have hreleases : (∃ request, message.released? = some (holding, request) ∧
        (client.releasing holding)[request]? = some id) ↔
        ∃ request, message.released? = some (holding, request) ∧
          lastNamed holding request traffic = some id := by
      refine exists_congr fun request => and_congr_right fun hreleased => ?_
      obtain ⟨named, hnamed⟩ := client.releasing_of_released hreleased hok
      rw [hnamed, hcorrelates.named holding request named hnamed]
    rw [mem_held_receive, hreleases, hcorrelates.held_iff, Granted, Run.since_concat]
    simp [hok]
  named holding request id hopen := by
    rw [lastNamed_concat]
    exact hcorrelates.named holding request id (client.getElem?_releasing_receive hopen)

theorem send_refused (hcorrelates : client.Correlates traffic) {error : ClientError}
    (herror : (client.send message).answer = .error error) :
    (client.send message).state.Correlates traffic := by
  rwa [client.state_send_of_error herror]

theorem receive_refused (hcorrelates : client.Correlates traffic) {error : ClientError}
    (herror : (client.receive message).answer = .error error) :
    (client.receive message).state.Correlates traffic where
  unanswered kind request hawaits :=
    hcorrelates.unanswered kind request ((client.awaits_receive message kind request).mp hawaits).1
  awaits kind request hunregister hunsubscribe hunanswered := by
    have hawaits := hcorrelates.awaits kind request hunregister hunsubscribe hunanswered
    rw [awaits_receive]
    refine ⟨hawaits, fun hsettled => ?_⟩
    rw [client.answer_of_awaits hsettled hawaits hunregister hunsubscribe] at herror
    contradiction
  held_iff holding id := by
    rw [mem_held_receive, hcorrelates.held_iff]
    simp [herror]
  named holding request id hopen :=
    hcorrelates.named holding request id (client.getElem?_releasing_receive hopen)

end Correlates

theorem correlates_new : ({} : Client).Correlates [] where
  unanswered kind request hawaits := by
    cases kind <;> simp [Awaits, awaits?] at hawaits
  awaits kind request _ _ hunanswered := absurd hunanswered Run.not_since_nil
  held_iff holding id := by
    refine iff_of_false ?_ Run.not_since_nil
    cases holding <;> exact Std.ExtTreeSet.not_mem_empty
  named holding request id hopen := by
    cases holding <;> simp [releasing] at hopen

theorem correlates_final (operations : List Operation) :
    (Run.final perform {} operations).Correlates (accepted {} operations) := by
  induction operations using List.reverseRecOn with
  | nil => exact correlates_new
  | append_singleton operations operation ih =>
      rw [Run.final_concat]
      cases hanswer : (perform (Run.final perform {} operations) operation).answer with
      | ok =>
          rw [accepted_concat_ok hanswer]
          cases operation with
          | send message => exact ih.send hanswer
          | receive message => exact ih.receive hanswer
      | error error =>
          rw [accepted_concat_error hanswer]
          cases operation with
          | send message => exact ih.send_refused hanswer
          | receive message => exact ih.receive_refused hanswer

/-- In every run, what is accepted next is decided by the traffic that was accepted before. -/
theorem correlation_of_run (operations : List Operation) :
    let client := Run.final perform {} operations
    let traffic := accepted {} operations
    (∀ message kind request, message.settled? = some (kind, request) →
      (client.receive message).answer = .ok () → Unanswered kind request traffic) ∧
    (∀ reply : CallResult, (client.receive (.result reply)).answer = .ok () ↔
      Unanswered .call reply.request traffic) ∧
    (∀ request : Cancel, (client.send (.cancel request)).answer = .ok () ↔
      Unanswered .call request.request traffic) ∧
    (∀ event : Event, (client.receive (.event event)).answer = .ok () ↔
      Granted .subscription event.subscription traffic) ∧
    (∀ request : Invocation, (client.receive (.invocation request)).answer = .ok () ↔
      Granted .registration request.registration traffic) ∧
    ∀ operation kind, operation.message.requestKind? ≠ some kind →
      (client.perform operation).state.outstanding kind = client.outstanding kind := by
  intro client traffic
  have hcorrelates : client.Correlates traffic := correlates_final operations
  have hcalls : ∀ request, client.Awaits .call request ↔ Unanswered .call request traffic :=
    fun request => ⟨hcorrelates.unanswered .call request,
      hcorrelates.awaits .call request (by decide) (by decide)⟩
  refine ⟨?_, ?_, ?_, ?_, ?_, fun _ _ => client.outstanding_perform⟩
  · intro message kind request hsettled hok
    exact hcorrelates.unanswered kind request (client.awaits_of_settled hsettled hok)
  · intro reply
    rw [answer_receive_result, hcalls]
  · intro request
    rw [answer_send_cancel, hcalls]
  · intro event
    rw [answer_receive_event]
    exact hcorrelates.held_iff .subscription event.subscription
  · intro request
    rw [answer_receive_invocation]
    exact hcorrelates.held_iff .registration request.registration

def eventOf (subscription : Id) : Event where
  subscription := subscription
  publication := 7
  details := ∅

def resultFor (call : Id) : CallResult where
  request := call
  details := ∅

/-- A subscription is granted, and a call is made. -/
def following : List Operation :=
  [.send (.subscribe { request := 1, options := ∅, topic := "com.news" }),
    .receive (.subscribed { request := 1, subscription := 9 }),
    .send (.call { request := 2, options := ∅, procedure := "com.sum" })]

/-- An event arrives, and the subscription is given up. -/
def unfollowing : List Operation :=
  following ++
    [.receive (.event (eventOf 9)),
      .send (.unsubscribe { request := 3, subscription := 9 }),
      .receive (.unsubscribed { request := 3 })]

/-- Events are accepted until the subscription is given up, which leaves the call alone. -/
theorem correlation_unfollowed :
    let held := Run.final perform {} following
    let released := Run.final perform {} unfollowing
    (∀ occurrence ∈ Run.history perform {} unfollowing, occurrence.answer = .ok ()) ∧
      Granted .subscription 9 (accepted {} following) ∧
      (held.receive (.event (eventOf 9))).answer = .ok () ∧
      ¬ Granted .subscription 9 (accepted {} unfollowing) ∧
      (released.receive (.event (eventOf 9))).answer = .error (.unknownSubscription 9) ∧
      Unanswered .call 2 (accepted {} unfollowing) ∧
      (released.receive (.result (resultFor 2))).answer = .ok () := by
  intro held released
  have harrives : (held.receive (.event (eventOf 9))).answer = .ok () := by decide +kernel
  have hstray : (released.receive (.event (eventOf 9))).answer =
      .error (.unknownSubscription 9) := by
    decide +kernel
  have hanswers : (released.receive (.result (resultFor 2))).answer = .ok () := by decide +kernel
  obtain ⟨-, -, -, hheld, -⟩ := correlation_of_run following
  obtain ⟨-, hresults, -, hreleased, -⟩ := correlation_of_run unfollowing
  refine ⟨by decide +kernel, (hheld _).mp harrives, harrives, fun hgranted => ?_, hstray,
    (hresults _).mp hanswers, hanswers⟩
  exact nomatch hstray.symm.trans ((hreleased (eventOf 9)).mpr hgranted)

end Client

end Wamp
