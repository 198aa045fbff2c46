import Wamp.Dealer.Registering

/-!
# Calls and their replies

A fresh call is dispatched to one callee of the registration its procedure resolves to.  A call
whose earlier chunk asked for progress stays with that chunk's callee: a further progressive
chunk continues the same invocation, and the closing one opens a new invocation in its place.
The callee's results and errors travel back to the caller, who may also cancel the call.
-/

namespace Wamp.Dealer

/-- The details that a call's options and the disclosure setting give its invocation. -/
def callDetails (dealer : Dealer) (caller : Session) (request : Call) : Dict :=
  let details : Dict := ∅
  let details :=
    if request.options.flag "receive_progress" then
      details.insert "receive_progress" (.boolean true)
    else
      details
  let details :=
    if request.options.flag "progress" then details.insert "progress" (.boolean true)
    else details
  if dealer.discloseCaller then
    details
      |>.insert "caller" (.integer caller.id)
      |>.insert "caller_authid" (.text caller.authid)
      |>.insert "caller_authrole" (.text caller.authrole)
      |>.insert "procedure" (.text request.procedure)
  else
    details

/-- The progressive invocation in flight for a call, if there is one. -/
def openInvocation? (dealer : Dealer) (key : CallKey) : Option (Id × Pending) :=
  match dealer.invocationOf[key]? with
  | none => none
  | some invocation =>
    match dealer.pending[invocation]? with
    | none => none
    | some pending => if pending.progress then some (invocation, pending) else none

/-- Puts a call in flight under a new identifier, in place of the invocation that the call had
so far. -/
def launch (dealer : Dealer) (pending : Pending) : Id × Dealer :=
  let cleared := match dealer.invocationOf[pending.key]? with
    | none => dealer
    | some superseded => dealer.dropPending superseded
  let (invocation, ids) := cleared.ids.next
  (invocation,
    { cleared with
      ids
      pending := cleared.pending.insert invocation pending
      invocationOf := cleared.invocationOf.insert pending.key invocation })

/-- Hands a call to its callee.  The callee is looked up only here, after the call was put in
flight. -/
def handOver (dealer : Dealer) (session : Id) (caller : Session) (route : Route)
    (request : Call) (invocation : Id) : Reply (List Routed) :=
  let details := dealer.callDetails caller request
  let details :=
    if route.policy = .exact then details
    else details.insert "procedure" (.text request.procedure)
  match dealer.sessions[route.callee]? with
  | none => .refused dealer (.calleeGone route.callee)
  | some callee =>
    let message : Invocation := {
      request.toContent.adapted callee.staticSerializer with
      request := invocation
      registration := route.registration
      details }
    .granted dealer [{ recipient := route.callee, message := .invocation message }]
      [.callRouted session request.request request.procedure route.registration invocation
        route.callee]

def dispatch (dealer : Dealer) (session : Id) (caller : Session) (route : Route)
    (request : Call) : Reply (List Routed) :=
  let (invocation, state) := dealer.launch {
    route with
    request := request.request
    caller := session
    receiveProgress := request.options.flag "receive_progress"
    progress := request.options.flag "progress" }
  state.handOver session caller route request invocation

def answerNoSuchProcedure (dealer : Dealer) (session : Id) (request : Call)
    (notes : List Note := []) : Reply (List Routed) :=
  .granted dealer
    [{ recipient := session
       message := .error (.plain .call request.request ErrorUri.noSuchProcedure) }] notes

/-- Dispatches a call that continues none, through the registration it resolves to. -/
def callFresh (dealer : Dealer) (ambient : Ambient) (session : Id) (caller : Session)
    (request : Call) : Reply (List Routed) :=
  match dealer.directory.resolve? request.procedure dealer.isLive with
  | none =>
    dealer.answerNoSuchProcedure session request
      [.callNoSuchProcedure session request.request request.procedure]
  | some entry =>
    match dealer.registrations[entry.value]? with
    | none => dealer.answerNoSuchProcedure session request
    | some registration =>
      match registration.pick? ambient.drawnIndex with
      | none => dealer.answerNoSuchProcedure session request
      | some position =>
        match registration.callees[position]? with
        | none => dealer.answerNoSuchProcedure session request
        | some calleeId =>
          if dealer.isAttached calleeId then
            let committed :=
              { dealer with
                registrations :=
                  dealer.registrations.insert entry.value (registration.commit position) }
            let route : Route :=
              { callee := calleeId, registration := entry.value, policy := entry.policy }
            committed.dispatch session caller route request
          else
            .refused dealer (.calleeGone calleeId)

def call (dealer : Dealer) (ambient : Ambient) (session : Id) (request : Call) :
    Reply (List Routed) :=
  match dealer.sessions[session]? with
  | none => .refused dealer (.unknownSession session)
  | some caller =>
    match dealer.openInvocation? { caller := session, request := request.request } with
    | none => dealer.callFresh ambient session caller request
    | some (invocation, pending) =>
      if request.options.flag "progress" then
        dealer.handOver session caller pending.toRoute request invocation
      else if dealer.isAttached pending.callee then
        dealer.dispatch session caller pending.toRoute request
      else
        .refused dealer (.calleeGone pending.callee)

def pendingFor? (dealer : Dealer) (callee invocation : Id) : Option Pending :=
  match dealer.pending[invocation]? with
  | none => none
  | some pending => if pending.callee = callee then some pending else none

/-- The first result after a kill ends the call as canceled.  A result is progressive if both
the call and the callee ask for it; any other result ends the call. -/
def yield (dealer : Dealer) (session : Id) (request : Yield) : Reply (List Routed) :=
  match dealer.pendingFor? session request.request with
  | none => .refused dealer (.noPendingCall request.request)
  | some pending =>
    match dealer.sessions[pending.caller]? with
    | none => .refused dealer (.callerGone pending.caller)
    | some caller =>
      if pending.canceled then
        .granted (dealer.dropPending request.request)
          [{ recipient := caller.id, message := .error (.plain .call pending.request ErrorUri.canceled) }]
      else
        let progress := pending.receiveProgress && request.options.flag "progress"
        let result : CallResult := {
          request.toContent.adapted caller.staticSerializer with
          request := pending.request
          details := if progress then (∅ : Dict).insert "progress" (.boolean true) else ∅ }
        .granted (if progress then dealer else dealer.dropPending request.request)
          [{ recipient := caller.id, message := .result result }]
          [.yieldRouted session request.request pending.request progress]

def invocationError (dealer : Dealer) (session : Id) (reply : ErrorReply) :
    Reply (List Routed) :=
  if reply.answers = .invocation then
    match dealer.pendingFor? session reply.request with
    | none => .refused dealer (.noPendingInvocation reply.request)
    | some pending =>
      if dealer.isAttached pending.caller then
        .granted (dealer.dropPending reply.request)
          [{ recipient := pending.caller
             message := .error { reply with answers := .call, request := pending.request } }]
          [.invocationErrorRouted session reply.request pending.request reply.uri]
      else
        .refused dealer (.callerGone pending.caller)
  else
    .refused dealer (.unexpectedErrorReply reply.answers)

def interruptOptions (mode : CancelMode) : Dict :=
  (∅ : Dict)
    |>.insert "mode" (.text mode.name)
    |>.insert "reason" (.text ErrorUri.canceled)

def markCanceled (dealer : Dealer) (invocation : Id) : Dealer :=
  { dealer with
    pending := dealer.pending.modify invocation fun found => { found with canceled := true } }

def cancelInvocation (dealer : Dealer) (session : Id) (request : Cancel) (mode : CancelMode)
    (invocation callee : Id) : Reply (List Routed) :=
  let ended : Routed := {
    recipient := session
    message := .error (.plain .call request.request ErrorUri.canceled) }
  let interrupt : Routed := {
    recipient := callee
    message := .interrupt { request := invocation, options := interruptOptions mode } }
  let notes := [Note.callCanceled session request.request invocation mode]
  match mode with
  | .skip => .granted (dealer.dropPending invocation) [ended] notes
  | .kill => .granted (dealer.markCanceled invocation) [interrupt] notes
  | .killNoWait => .granted (dealer.dropPending invocation) [interrupt, ended] notes

def cancel (dealer : Dealer) (session : Id) (request : Cancel) : Reply (List Routed) :=
  match CancelMode.ofOptions request.options with
  | .error mode => .refused dealer (.unsupportedCancelMode mode)
  | .ok mode =>
    let missing := DealerError.noPendingInvocationToCancel session request.request
    match dealer.invocationOf[({ caller := session, request := request.request } : CallKey)]? with
    | none => .refused dealer missing
    | some invocation =>
      match dealer.pending[invocation]? with
      | none => .refused dealer missing
      | some pending =>
        if mode = .skip ∨ dealer.isAttached pending.callee then
          dealer.cancelInvocation session request mode invocation pending.callee
        else
          .refused dealer (.calleeGone pending.callee)

/-- Handles every message that concerns registrations and calls.  A cancel leads to one or two
messages, every other kind to exactly one. -/
def receive (dealer : Dealer) (ambient : Ambient) (session : Id) :
    Message → Reply (List Routed)
  | .register request => dealer.register ambient session request
  | .unregister request => dealer.unregister session request
  | .call request => dealer.call ambient session request
  | .yield request => dealer.yield session request
  | .error reply => dealer.invocationError session reply
  | .cancel request => dealer.cancel session request
  | other => .refused dealer (.unexpectedMessage other.kind)

end Wamp.Dealer
