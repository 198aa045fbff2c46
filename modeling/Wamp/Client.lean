import Std.Data.ExtTreeSet
import Std.Data.ExtTreeSet.Lemmas
import Wamp.Message
import Wamp.Outcome

/-!
# The client's side of a session

A client session records every request that its client sends, and checks every message that
arrives against these records: a reply that answers nothing the client asked for is refused.
-/

namespace Wamp

inductive ClientError where
  /-- A client does not send this kind of message. -/
  | unsupportedSend (kind : MessageKind)
  /-- A client does not expect this kind of message. -/
  | unsupportedReceive (kind : MessageKind)
  /-- An error sent by a client answers an invocation and nothing else. -/
  | unsupportedErrorSend (answers : MessageKind)
  /-- An error answers a kind of request that clients never send. -/
  | unexpectedErrorReply (answers : MessageKind)
  | unknownSubscription (subscription : Id)
  | unknownRegistration (registration : Id)
  | unknownRequest (kind : MessageKind) (request : Id)
  deriving DecidableEq, Repr

def ClientError.message : ClientError → String
  | .unsupportedSend kind => s!"sending {kind.name} is not supported"
  | .unsupportedReceive kind => s!"receiving {kind.name} is not supported"
  | .unsupportedErrorSend answers =>
    s!"ERROR may only be sent in reply to INVOCATION, not {answers.name}"
  | .unexpectedErrorReply answers =>
    s!"received ERROR for unexpected request kind {answers.name}"
  | .unknownSubscription subscription => s!"no subscription {subscription} is held"
  | .unknownRegistration registration => s!"no registration {registration} is held"
  | .unknownRequest kind request => s!"received {kind.name} for unknown request {request}"

structure Client where
  /-- Calls that await their final reply. -/
  calls : Std.ExtTreeSet Id := ∅
  registering : Std.ExtTreeSet Id := ∅
  /-- Requests to unregister, each with its registration. -/
  unregistering : Std.ExtTreeMap Id Id := ∅
  registrations : Std.ExtTreeSet Id := ∅
  /-- Invocations that await the client's final answer. -/
  invocations : Std.ExtTreeSet Id := ∅
  /-- Publications that await their acknowledgement. -/
  publishing : Std.ExtTreeSet Id := ∅
  subscribing : Std.ExtTreeSet Id := ∅
  /-- Requests to unsubscribe, each with its subscription. -/
  unsubscribing : Std.ExtTreeMap Id Id := ∅
  subscriptions : Std.ExtTreeSet Id := ∅
  deriving DecidableEq

namespace Client

abbrev Reply := Outcome Client ClientError Empty Unit

def send (client : Client) : Message → Reply
  | .call request => .granted { client with calls := client.calls.insert request.request } ()
  | .cancel request =>
    if client.calls.contains request.request then .granted client ()
    else .refused client (.unknownRequest .cancel request.request)
  | .yield request =>
    if client.invocations.contains request.request then
      if request.options.flag "progress" then .granted client ()
      else
        .granted { client with invocations := client.invocations.erase request.request } ()
    else
      .refused client (.unknownRequest .yield request.request)
  | .register request =>
    .granted { client with registering := client.registering.insert request.request } ()
  | .unregister request =>
    if client.registrations.contains request.registration then
      .granted
        { client with
          unregistering := client.unregistering.insert request.request request.registration } ()
    else
      .refused client (.unknownRegistration request.registration)
  | .publish request =>
    if request.options.flag "acknowledge" then
      .granted { client with publishing := client.publishing.insert request.request } ()
    else
      .granted client ()
  | .subscribe request =>
    .granted { client with subscribing := client.subscribing.insert request.request } ()
  | .unsubscribe request =>
    if client.subscriptions.contains request.subscription then
      .granted
        { client with
          unsubscribing := client.unsubscribing.insert request.request request.subscription } ()
    else
      .refused client (.unknownSubscription request.subscription)
  | .error reply =>
    if reply.answers = .invocation then
      .granted { client with invocations := client.invocations.erase reply.request } ()
    else
      .refused client (.unsupportedErrorSend reply.answers)
  | .goodbye _ => .granted client ()
  | other => .refused client (.unsupportedSend other.kind)

/-- Whether a request of this kind awaits its reply; nothing for kinds that clients never
send. -/
def awaits? (client : Client) (kind : MessageKind) (request : Id) : Option Bool :=
  match kind with
  | .call => some (client.calls.contains request)
  | .register => some (client.registering.contains request)
  | .unregister => some (client.unregistering.contains request)
  | .subscribe => some (client.subscribing.contains request)
  | .unsubscribe => some (client.unsubscribing.contains request)
  | .publish => some (client.publishing.contains request)
  | _ => none

def settle (client : Client) (kind : MessageKind) (request : Id) : Client :=
  match kind with
  | .call => { client with calls := client.calls.erase request }
  | .register => { client with registering := client.registering.erase request }
  | .unregister => { client with unregistering := client.unregistering.erase request }
  | .subscribe => { client with subscribing := client.subscribing.erase request }
  | .unsubscribe => { client with unsubscribing := client.unsubscribing.erase request }
  | .publish => { client with publishing := client.publishing.erase request }
  | _ => client

def receiveError (client : Client) (reply : ErrorReply) : Reply :=
  match client.awaits? reply.answers reply.request with
  | none => .refused client (.unexpectedErrorReply reply.answers)
  | some false => .refused client (.unknownRequest .error reply.request)
  | some true => .granted (client.settle reply.answers reply.request) ()

/-- A confirmed request to unregister is closed also when its registration is no longer held,
though the message is refused then. -/
def receiveUnregistered (client : Client) (reply : Unregistered) : Reply :=
  match client.unregistering[reply.request]? with
  | none => .refused client (.unknownRequest .unregistered reply.request)
  | some registration =>
    let settled := client.settle .unregister reply.request
    if client.registrations.contains registration then
      .granted { settled with registrations := client.registrations.erase registration } ()
    else
      .refused settled (.unknownRegistration registration)

/-- A confirmed request to unsubscribe is closed also when its subscription is no longer held,
though the message is refused then. -/
def receiveUnsubscribed (client : Client) (reply : Unsubscribed) : Reply :=
  match client.unsubscribing[reply.request]? with
  | none => .refused client (.unknownRequest .unsubscribed reply.request)
  | some subscription =>
    let settled := client.settle .unsubscribe reply.request
    if client.subscriptions.contains subscription then
      .granted { settled with subscriptions := client.subscriptions.erase subscription } ()
    else
      .refused settled (.unknownSubscription subscription)

def receive (client : Client) : Message → Reply
  | .result reply =>
    if client.calls.contains reply.request then
      if reply.details.flag "progress" then .granted client ()
      else .granted (client.settle .call reply.request) ()
    else
      .refused client (.unknownRequest .result reply.request)
  | .registered reply =>
    if client.registering.contains reply.request then
      .granted
        { client.settle .register reply.request with
          registrations := client.registrations.insert reply.registration } ()
    else
      .refused client (.unknownRequest .registered reply.request)
  | .unregistered reply => client.receiveUnregistered reply
  | .invocation request =>
    if client.registrations.contains request.registration then
      .granted { client with invocations := client.invocations.insert request.request } ()
    else
      .refused client (.unknownRegistration request.registration)
  | .interrupt request =>
    if client.invocations.contains request.request then .granted client ()
    else .refused client (.unknownRequest .interrupt request.request)
  | .published reply =>
    if client.publishing.contains reply.request then
      .granted (client.settle .publish reply.request) ()
    else
      .refused client (.unknownRequest .published reply.request)
  | .subscribed reply =>
    if client.subscribing.contains reply.request then
      .granted
        { client.settle .subscribe reply.request with
          subscriptions := client.subscriptions.insert reply.subscription } ()
    else
      .refused client (.unknownRequest .subscribed reply.request)
  | .unsubscribed reply => client.receiveUnsubscribed reply
  | .event event =>
    if client.subscriptions.contains event.subscription then .granted client ()
    else .refused client (.unknownSubscription event.subscription)
  | .error reply => client.receiveError reply
  | .goodbye _ => .granted client ()
  | other => .refused client (.unsupportedReceive other.kind)

end Client

end Wamp
