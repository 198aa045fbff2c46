import Wamp.Proofs.Dealer.Announcing
import Wamp.Proofs.Broker.Run
import Wamp.Proofs.Table

/-!
# Sessions without their identities

A session has an authentication identifier and a role besides what brokers and dealers need to serve
it.  As long as disclosure is off, they work on masked sessions as they do on the sessions
themselves: the answers and notes are the same, and the state afterwards is the masked one.
-/

namespace Wamp

/-- The session as everybody may know it. -/
def Session.masked (session : Session) : Session :=
  { session with authid := "", authrole := "" }

namespace Outcome

variable {State Other Error Note Answer : Type}

def mapState (f : State → Other) (outcome : Outcome State Error Note Answer) :
    Outcome Other Error Note Answer :=
  { outcome with state := f outcome.state }

end Outcome

/-! ## Brokers -/

namespace Broker

def masked (broker : Broker) : Broker :=
  { broker with sessions := broker.sessions.map fun _ session => session.masked }

variable (broker : Broker)

@[simp] theorem isAttached_masked (session : Id) :
    broker.masked.isAttached session = broker.isAttached session :=
  Std.ExtTreeMap.contains_map

@[simp] theorem getElem?_sessions_masked (session : Id) :
    broker.masked.sessions[session]? = (broker.sessions[session]?).map Session.masked :=
  Std.ExtTreeMap.getElem?_map

@[simp] theorem subscriptions_masked : broker.masked.subscriptions = broker.subscriptions := rfl

@[simp] theorem held_masked : broker.masked.held = broker.held := rfl

@[simp] theorem directory_masked : broker.masked.directory = broker.directory := rfl

@[simp] theorem disclosePublisher_masked :
    broker.masked.disclosePublisher = broker.disclosePublisher := rfl

theorem addSession_masked (session : Session) :
    broker.masked.addSession session.masked = (broker.addSession session).mapState masked := by
  unfold addSession
  rw [isAttached_masked]
  have hid : session.masked.id = session.id := rfl
  rw [hid]
  split
  next => rfl
  next => simp [Outcome.mapState, masked, Outcome.granted, Table.map_insert]

theorem removeSubscriber_masked (session subscription : Id) :
    broker.masked.removeSubscriber session subscription =
      ((broker.removeSubscriber session subscription).1.masked,
        (broker.removeSubscriber session subscription).2) := by
  unfold removeSubscriber
  rw [subscriptions_masked]
  cases broker.subscriptions[subscription]? with
  | none => rfl
  | some found =>
      simp only
      split <;> rfl

theorem removeSubscriberFromAll_masked (session : Id) (subscriptions : List Id) :
    broker.masked.removeSubscriberFromAll session subscriptions =
      ((broker.removeSubscriberFromAll session subscriptions).1.masked,
        (broker.removeSubscriberFromAll session subscriptions).2) := by
  induction subscriptions generalizing broker with
  | nil => rfl
  | cons subscription rest ih =>
      simp only [removeSubscriberFromAll, removeSubscriber_masked, ih]

theorem removeSession_masked (session : Id) :
    broker.masked.removeSession session = (broker.removeSession session).mapState masked := by
  have herase : { broker.masked with
        sessions := broker.masked.sessions.erase session
        held := broker.masked.held.erase session } =
      masked { broker with
        sessions := broker.sessions.erase session
        held := broker.held.erase session } := by
    simp [masked, Table.map_erase]
  unfold removeSession
  rw [isAttached_masked, herase]
  split
  next =>
    simp only [held_masked, removeSubscriberFromAll_masked]
    rfl
  next => rfl

theorem subscribe_masked (session : Id) (request : Subscribe) :
    broker.masked.subscribe session request =
      (broker.subscribe session request).mapState masked := by
  have hfor : broker.masked.subscriptionFor request =
      ((broker.subscriptionFor request).1, (broker.subscriptionFor request).2.1.masked,
        (broker.subscriptionFor request).2.2) := by
    unfold subscriptionFor
    rw [directory_masked]
    cases broker.directory.get? request.topic <;> rfl
  unfold subscribe
  rw [isAttached_masked, hfor]
  split <;> rfl

theorem unsubscribe_masked (session : Id) (request : Unsubscribe) :
    broker.masked.unsubscribe session request =
      (broker.unsubscribe session request).mapState masked := by
  unfold unsubscribe
  rw [held_masked]
  cases broker.held[session]? with
  | none => rfl
  | some subscriptions =>
      have hreleased : { broker.masked with
            held := broker.held.insert session (subscriptions.erase request.subscription) } =
          masked { broker with
            held := broker.held.insert session (subscriptions.erase request.subscription) } := rfl
      simp only
      rw [hreleased, removeSubscriber_masked]
      split <;> rfl

theorem receive_masked (session : Id) (message : Message) :
    broker.masked.receive session message = (broker.receive session message).mapState masked := by
  cases message with
  | subscribe request => exact broker.subscribe_masked session request
  | unsubscribe request => exact broker.unsubscribe_masked session request
  | _ => rfl

variable {broker}

theorem publish_masked (hoff : broker.disclosePublisher = false) (ambient : Ambient) (session : Id)
    (request : Publish) :
    broker.masked.publish ambient session request =
      (broker.publish ambient session request).mapState masked := by
  -- Only the details of the event could tell who the publisher is.
  have hdetails : ∀ (publisher : Session) (policy : MatchPolicy),
      broker.masked.eventDetails publisher.masked policy request.topic =
        broker.eventDetails publisher policy request.topic := by
    intro publisher policy
    simp [eventDetails, hoff]
  have hresolve : broker.masked.resolve? request.topic = broker.resolve? request.topic := rfl
  unfold publish
  rw [getElem?_sessions_masked, hresolve]
  cases broker.sessions[session]? with
  | none => rfl
  | some publisher =>
      cases broker.resolve? request.topic with
      | none => rfl
      | some found =>
          simp only [Option.map_some, hdetails]
          rfl

def Operation.masked : Operation → Operation
  | .attach session => .attach session.masked
  | operation => operation

theorem perform_masked (hoff : broker.disclosePublisher = false) (operation : Operation) :
    broker.masked.perform operation.masked = (broker.perform operation).mapState masked := by
  cases operation with
  | attach session => simp only [Operation.masked, perform, addSession_masked]; rfl
  | detach session => simp only [Operation.masked, perform, removeSession_masked]; rfl
  | receive session message => simp only [Operation.masked, perform, receive_masked]; rfl
  | publish ambient session request =>
      simp only [Operation.masked, perform, publish_masked hoff]
      rfl
  | disclose on => rfl

end Broker

/-! ## Dealers -/

namespace Dealer

def masked (dealer : Dealer) : Dealer :=
  { dealer with sessions := dealer.sessions.map fun _ session => session.masked }

variable (dealer : Dealer)

@[simp] theorem isAttached_masked (session : Id) :
    dealer.masked.isAttached session = dealer.isAttached session :=
  Std.ExtTreeMap.contains_map

@[simp] theorem getElem?_sessions_masked (session : Id) :
    dealer.masked.sessions[session]? = (dealer.sessions[session]?).map Session.masked :=
  Std.ExtTreeMap.getElem?_map

@[simp] theorem registrations_masked : dealer.masked.registrations = dealer.registrations := rfl

@[simp] theorem held_masked : dealer.masked.held = dealer.held := rfl

@[simp] theorem directory_masked : dealer.masked.directory = dealer.directory := rfl

@[simp] theorem pending_masked : dealer.masked.pending = dealer.pending := rfl

@[simp] theorem invocationOf_masked : dealer.masked.invocationOf = dealer.invocationOf := rfl

@[simp] theorem discloseCaller_masked : dealer.masked.discloseCaller = dealer.discloseCaller := rfl

theorem addSession_masked (session : Session) :
    dealer.masked.addSession session.masked = (dealer.addSession session).mapState masked := by
  unfold addSession
  rw [isAttached_masked]
  have hid : session.masked.id = session.id := rfl
  rw [hid]
  split
  next => rfl
  next => simp [Outcome.mapState, masked, Outcome.granted, Table.map_insert]

theorem removeCallee_masked (session registration : Id) :
    dealer.masked.removeCallee session registration =
      ((dealer.removeCallee session registration).1.masked,
        (dealer.removeCallee session registration).2) := by
  unfold removeCallee
  rw [registrations_masked]
  cases dealer.registrations[registration]? with
  | none => rfl
  | some found =>
      simp only
      split
      next => split <;> rfl
      next => rfl

theorem removeCalleeFromAll_masked (session : Id) (registrations : List Id) :
    dealer.masked.removeCalleeFromAll session registrations =
      ((dealer.removeCalleeFromAll session registrations).1.masked,
        (dealer.removeCalleeFromAll session registrations).2) := by
  induction registrations generalizing dealer with
  | nil => rfl
  | cons registration rest ih => simp only [removeCalleeFromAll, removeCallee_masked, ih]

theorem dropPending_masked (invocation : Id) :
    dealer.masked.dropPending invocation = (dealer.dropPending invocation).masked := by
  unfold dropPending
  rw [pending_masked]
  cases dealer.pending[invocation]? <;> rfl

theorem foldl_dropPending_masked (invocations : List Id) :
    invocations.foldl dropPending dealer.masked =
      (invocations.foldl dropPending dealer).masked := by
  induction invocations generalizing dealer with
  | nil => rfl
  | cons invocation rest ih => rw [List.foldl_cons, dropPending_masked, ih, List.foldl_cons]

theorem removeSession_masked (session : Id) :
    dealer.masked.removeSession session = (dealer.removeSession session).mapState masked := by
  have herase : { dealer.masked with
        sessions := dealer.masked.sessions.erase session
        held := dealer.masked.held.erase session } =
      masked { dealer with
        sessions := dealer.sessions.erase session
        held := dealer.held.erase session } := by
    simp [masked, Table.map_erase]
  have hpending : ∀ state : Dealer, state.masked.pendingOf session = state.pendingOf session :=
    fun _ => rfl
  unfold removeSession
  rw [isAttached_masked, herase]
  split
  next =>
    simp only [held_masked, removeCalleeFromAll_masked, hpending, foldl_dropPending_masked]
    rfl
  next => rfl

theorem register_masked (ambient : Ambient) (session : Id) (request : Register) :
    dealer.masked.register ambient session request =
      (dealer.register ambient session request).mapState masked := by
  unfold register
  rw [isAttached_masked, directory_masked]
  split
  next =>
    cases dealer.directory.get? request.procedure with
    | none => rfl
    | some entry =>
        simp only [registrations_masked]
        cases dealer.registrations[entry.value]? with
        | none => rfl
        | some found =>
            simp only
            split <;> rfl
  next => rfl

theorem unregister_masked (session : Id) (request : Unregister) :
    dealer.masked.unregister session request =
      (dealer.unregister session request).mapState masked := by
  unfold unregister
  rw [held_masked]
  cases dealer.held[session]? with
  | none => rfl
  | some registrations =>
      have hreleased : { dealer.masked with
            held := dealer.held.insert session (registrations.erase request.registration) } =
          masked { dealer with
            held := dealer.held.insert session (registrations.erase request.registration) } := rfl
      simp only
      rw [hreleased, removeCallee_masked]
      split <;> rfl

theorem launch_masked (pending : Pending) :
    dealer.masked.launch pending =
      ((dealer.launch pending).1, (dealer.launch pending).2.masked) := by
  -- What is in flight refers to sessions by their identifiers alone.
  have hsuperseded : dealer.masked.superseded pending.key =
      (dealer.superseded pending.key).masked := by
    unfold superseded
    rw [invocationOf_masked]
    cases dealer.invocationOf[pending.key]? with
    | none => rfl
    | some invocation => exact dealer.dropPending_masked invocation
  rw [launch_eq, launch_eq, hsuperseded]
  rfl

theorem yield_masked (session : Id) (request : Yield) :
    dealer.masked.yield session request = (dealer.yield session request).mapState masked := by
  have hfor : dealer.masked.pendingFor? session request.request =
      dealer.pendingFor? session request.request := rfl
  unfold yield
  rw [hfor]
  cases dealer.pendingFor? session request.request with
  | none => rfl
  | some pending =>
      simp only [getElem?_sessions_masked]
      cases dealer.sessions[pending.caller]? with
      | none => rfl
      | some caller =>
          simp only [Option.map_some, dropPending_masked]
          split
          next => rfl
          next =>
            cases pending.receiveProgress && request.options.flag "progress" <;> rfl

theorem invocationError_masked (session : Id) (reply : ErrorReply) :
    dealer.masked.invocationError session reply =
      (dealer.invocationError session reply).mapState masked := by
  have hfor : dealer.masked.pendingFor? session reply.request =
      dealer.pendingFor? session reply.request := rfl
  unfold invocationError
  rw [hfor]
  split
  next =>
    cases dealer.pendingFor? session reply.request with
    | none => rfl
    | some pending =>
        simp only [isAttached_masked, dropPending_masked]
        split <;> rfl
  next => rfl

theorem cancel_masked (session : Id) (request : Cancel) :
    dealer.masked.cancel session request = (dealer.cancel session request).mapState masked := by
  unfold cancel
  cases CancelMode.ofOptions request.options with
  | error mode => rfl
  | ok mode =>
      simp only [invocationOf_masked]
      split
      next => rfl
      next invocation _ =>
        simp only [pending_masked]
        cases dealer.pending[invocation]? with
        | none => rfl
        | some pending =>
            simp only [isAttached_masked]
            split
            next =>
              unfold cancelInvocation
              rw [dropPending_masked]
              cases mode <;> rfl
            next => rfl

variable {dealer}

theorem handOver_masked (hoff : dealer.discloseCaller = false) (session : Id) (caller : Session)
    (route : Route) (request : Call) (invocation : Id) :
    dealer.masked.handOver session caller.masked route request invocation =
      (dealer.handOver session caller route request invocation).mapState masked := by
  have hdetails : dealer.masked.callDetails caller.masked request =
      dealer.callDetails caller request := by
    simp [callDetails, hoff]
  unfold handOver
  rw [hdetails, getElem?_sessions_masked]
  cases dealer.sessions[route.callee]? <;> rfl

theorem dispatch_masked (hoff : dealer.discloseCaller = false) (session : Id) (caller : Session)
    (route : Route) (request : Call) :
    dealer.masked.dispatch session caller.masked route request =
      (dealer.dispatch session caller route request).mapState masked := by
  unfold dispatch
  rw [launch_masked]
  apply handOver_masked
  rw [launch_eq]
  exact hoff

theorem callFresh_masked (hoff : dealer.discloseCaller = false) (ambient : Ambient) (session : Id)
    (caller : Session) (request : Call) :
    dealer.masked.callFresh ambient session caller.masked request =
      (dealer.callFresh ambient session caller request).mapState masked := by
  have hlive : dealer.masked.isLive = dealer.isLive := rfl
  unfold callFresh
  rw [directory_masked, hlive]
  cases dealer.directory.resolve? request.procedure dealer.isLive with
  | none => rfl
  | some entry =>
      simp only [registrations_masked]
      cases dealer.registrations[entry.value]? with
      | none => rfl
      | some registration =>
          simp only
          cases registration.pick? ambient.drawnIndex with
          | none => rfl
          | some position =>
              simp only
              cases registration.callees[position]? with
              | none => rfl
              | some callee =>
                  have hcommitted :
                      (dealer.committed entry.value registration position).discloseCaller = false :=
                    hoff
                  simp only [isAttached_masked]
                  split
                  next => exact dispatch_masked hcommitted session caller _ request
                  next => rfl

theorem call_masked (hoff : dealer.discloseCaller = false) (ambient : Ambient) (session : Id)
    (request : Call) :
    dealer.masked.call ambient session request =
      (dealer.call ambient session request).mapState masked := by
  have hopen : ∀ key, dealer.masked.openInvocation? key = dealer.openInvocation? key :=
    fun _ => rfl
  unfold call
  rw [getElem?_sessions_masked, hopen]
  cases dealer.sessions[session]? with
  | none => rfl
  | some caller =>
      simp only [Option.map_some]
      cases dealer.openInvocation? { caller := session, request := request.request } with
      | none => exact callFresh_masked hoff ambient session caller request
      | some held =>
          simp only [isAttached_masked]
          split
          next => exact handOver_masked hoff session caller _ request _
          next =>
            split
            next => exact dispatch_masked hoff session caller _ request
            next => rfl

theorem receive_masked (hoff : dealer.discloseCaller = false) (ambient : Ambient) (session : Id)
    (message : Message) :
    dealer.masked.receive ambient session message =
      (dealer.receive ambient session message).mapState masked := by
  cases message with
  | register request => exact dealer.register_masked ambient session request
  | unregister request => exact dealer.unregister_masked session request
  | call request => exact call_masked hoff ambient session request
  | yield request => exact dealer.yield_masked session request
  | error reply => exact dealer.invocationError_masked session reply
  | cancel request => exact dealer.cancel_masked session request
  | _ => rfl

def Operation.masked : Operation → Operation
  | .attach session => .attach session.masked
  | operation => operation

theorem perform_masked (hoff : dealer.discloseCaller = false) (operation : Operation) :
    dealer.masked.perform operation.masked = (dealer.perform operation).mapState masked := by
  cases operation with
  | attach session => simp only [Operation.masked, perform, addSession_masked]; rfl
  | detach session => simp only [Operation.masked, perform, removeSession_masked]; rfl
  | receive ambient session message =>
      exact receive_masked hoff ambient session message
  | disclose on => rfl

end Dealer

namespace AnnouncingDealer

def masked (announcing : AnnouncingDealer) : AnnouncingDealer :=
  { announcing with dealer := announcing.dealer.masked }

def Operation.masked : Operation → Operation
  | .serve operation => .serve operation.masked
  | operation => operation

variable {announcing : AnnouncingDealer}

theorem absorb_mapState {Answer : Type} (board : Board) (outcome : Dealer.Reply Answer) :
    absorb board (outcome.mapState Dealer.masked) = (absorb board outcome).mapState masked :=
  rfl

theorem addSession_masked (session : Session) :
    announcing.masked.addSession session.masked =
      (announcing.addSession session).mapState masked := by
  unfold addSession
  rw [← absorb_mapState, ← Dealer.addSession_masked]
  rfl

theorem removeSession_masked (session : Id) :
    announcing.masked.removeSession session =
      (announcing.removeSession session).mapState masked := by
  unfold removeSession
  rw [← absorb_mapState, ← Dealer.removeSession_masked]
  rfl

theorem receive_masked (hoff : announcing.dealer.discloseCaller = false) (ambient : Ambient)
    (session : Id) (message : Message) :
    announcing.masked.receive ambient session message =
      (announcing.receive ambient session message).mapState masked := by
  unfold receive
  rw [← absorb_mapState, ← Dealer.receive_masked hoff]
  rfl

theorem perform_masked (hoff : announcing.dealer.discloseCaller = false) (operation : Operation) :
    announcing.masked.perform operation.masked =
      (announcing.perform operation).mapState masked := by
  cases operation with
  | serve operation =>
      simp only [Operation.masked, perform]
      rw [← absorb_mapState, ← Dealer.perform_masked hoff]
      rfl
  | enable =>
      have hboard : announcing.masked.board = announcing.board := rfl
      simp only [Operation.masked, perform, enable?, hboard]
      cases announcing.board.enable? <;> rfl
  | take consumer => rfl
  | drop consumer => rfl

end AnnouncingDealer

end Wamp
