import Wamp.Client
import Wamp.Router

/-!
# A router and its clients

The composition of a router with one client session for every session that has attached through
it.  What a client sends passes its own client session first; what the router returns is handed
at once to the client sessions of the recipients.
-/

namespace Wamp

inductive NetworkError where
  /-- The sender's own client session refused the message. -/
  | client (error : ClientError)
  | router (error : RouterError)
  deriving DecidableEq, Repr

/-- A message on its arrival, and what the recipient's client session made of it; nothing if the
recipient has none. -/
structure Delivery where
  routed : Routed
  verdict : Option (Except ClientError Unit)
  deriving DecidableEq

structure Network where
  router : Router
  clients : Std.ExtTreeMap Id Client := ∅
  deriving DecidableEq

namespace Network

abbrev Reply (Answer : Type) := Outcome Network NetworkError Journal.Entry Answer

/-- A session that attaches gets a new client session. -/
def attach (network : Network) (session : Session) : Reply Unit :=
  let outcome := network.router.attach session
  let clients := match outcome.answer with
    | .ok () => network.clients.insert session.id {}
    | .error _ => network.clients
  { state := { router := outcome.state, clients }
    answer := outcome.answer.mapError .router
    notes := outcome.notes }

/-- A session that detaches loses its client session. -/
def detach (network : Network) (session : Id) : Reply Unit :=
  let outcome := network.router.detach session
  let clients := match outcome.answer with
    | .ok () => network.clients.erase session
    | .error _ => network.clients
  { state := { router := outcome.state, clients }
    answer := outcome.answer.mapError .router
    notes := outcome.notes }

def deliver (clients : Std.ExtTreeMap Id Client) (routed : Routed) :
    Std.ExtTreeMap Id Client × Delivery :=
  match clients[routed.recipient]? with
  | none => (clients, { routed, verdict := none })
  | some client =>
    let outcome := client.receive routed.message
    (clients.insert routed.recipient outcome.state, { routed, verdict := some outcome.answer })

def deliverAll (clients : Std.ExtTreeMap Id Client) :
    List Routed → Std.ExtTreeMap Id Client × List Delivery
  | [] => (clients, [])
  | routed :: rest =>
    let (clients, delivery) := deliver clients routed
    let (clients, deliveries) := deliverAll clients rest
    (clients, delivery :: deliveries)

/-- Routes a message and hands on at once what the router returns. -/
def forward (network : Network) (ambient : Ambient) (session : Id) (message : Message) :
    Reply (List Delivery) :=
  let outcome := network.router.receive ambient session message
  match outcome.answer with
  | .error error =>
    { state := { network with router := outcome.state }
      answer := .error (.router error)
      notes := outcome.notes }
  | .ok outbound =>
    let (clients, deliveries) := deliverAll network.clients outbound
    { state := { router := outcome.state, clients }
      answer := .ok deliveries
      notes := outcome.notes }

/-- Sends a message of a client.  What its client session has recorded stays recorded when the
router refuses. -/
def send (network : Network) (ambient : Ambient) (session : Id) (message : Message) :
    Reply (List Delivery) :=
  match network.clients[session]? with
  | none => network.forward ambient session message
  | some client =>
    let sent := client.send message
    let recorded := { network with clients := network.clients.insert session sent.state }
    match sent.answer with
    | .error error => .refused recorded (.client error)
    | .ok () => recorded.forward ambient session message

end Network

end Wamp
