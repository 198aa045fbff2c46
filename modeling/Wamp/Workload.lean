import Wamp.Broker
import Wamp.Dealer.Calling

/-!
# Workloads

Ready-made components of a chosen size, each with one round of work to be timed: a publication
to many subscribers, a call among many registrations, and a series of resolutions.
-/

namespace Wamp.Workload

def session (id : Id) : Session where
  id
  realm := "bench"
  authid := s!"bench-{id}"
  authrole := "anonymous"
  staticSerializer := false

/-- The session that publishes and calls. -/
def driverId : Id := 1

/-- The session that serves every procedure. -/
def calleeId : Id := 2

def matchOptions (policy : MatchPolicy) : Dict :=
  if policy = .exact then ∅ else (∅ : Dict).insert "match" (.text policy.name)

/-- One publisher and a number of subscribers on a single exact topic. -/
structure Publishing where
  broker : Broker
  topic : String
  nextRequest : Id := 1

namespace Publishing

def topicName : String := "bench.topic"

def addSubscriber (broker : Broker) (id : Id) : Except BrokerError Broker := do
  let added := broker.addSession (session id)
  let _ ← added.answer
  let joined := added.state.subscribe id { request := 1, options := ∅, topic := topicName }
  let _ ← joined.answer
  return joined.state

def ofSubscribers (count : Nat) : Except BrokerError Publishing := do
  let added := ({} : Broker).addSession (session driverId)
  let _ ← added.answer
  let subscribers := (List.range (max count 1)).map fun offset => driverId + 1 + offset
  let broker ← subscribers.foldlM addSubscriber added.state
  return { broker, topic := topicName }

/-- Publishes once, asks for the acknowledgement, and counts the recipients. -/
def round (workload : Publishing) (ambient : Ambient) : Except BrokerError (Nat × Publishing) := do
  let request : Publish := {
    request := workload.nextRequest
    options := (∅ : Dict).insert "acknowledge" (.boolean true)
    topic := workload.topic
    args := [.text "arg1"] }
  let outcome := workload.broker.publish ambient driverId request
  let publication ← outcome.answer
  return (publication.recipients.length,
    { workload with broker := outcome.state, nextRequest := workload.nextRequest + 1 })

end Publishing

/-- A caller, and a callee with a number of registrations of one policy. -/
structure Calling where
  dealer : Dealer
  procedure : String
  nextRequest : Id := 1

namespace Calling

def registered (policy : MatchPolicy) (row : Nat) : String :=
  match policy with
  | .exact => s!"bench.procedure{row}"
  | .leading => s!"bench{row}."
  | .wildcard => s!"bench{row}..procedure"

def called (policy : MatchPolicy) (row : Nat) : String :=
  match policy with
  | .exact => s!"bench.procedure{row}"
  | .leading => s!"bench{row}.echo"
  | .wildcard => s!"bench{row}.any.procedure"

/-- Registers the procedure of a row; `ambient` gives the outside of each row. -/
def addRow (policy : MatchPolicy) (ambient : Nat → Ambient) (dealer : Dealer) (row : Nat) :
    Except DealerError Dealer := do
  let request : Register := {
    request := row + 1
    options := matchOptions policy
    procedure := registered policy row }
  let outcome := dealer.register (ambient row) calleeId request
  let _ ← outcome.answer
  return outcome.state

/-- At least one row is registered, and the last one is called. -/
def ofRows (policy : MatchPolicy) (count : Nat) (ambient : Nat → Ambient) :
    Except DealerError Calling := do
  let caller := ({} : Dealer).addSession (session driverId)
  let _ ← caller.answer
  let callee := caller.state.addSession (session calleeId)
  let _ ← callee.answer
  let rows := max count 1
  let dealer ← (List.range rows).foldlM (addRow policy ambient) callee.state
  return { dealer, procedure := called policy (rows - 1) }

/-- Calls once, lets the callee answer with the arguments, and tells whether the caller got the
result. -/
def round (workload : Calling) (ambient : Ambient) : Except DealerError (Bool × Calling) := do
  let next := { workload with nextRequest := workload.nextRequest + 1 }
  let request : Call := {
    request := workload.nextRequest
    options := ∅
    procedure := workload.procedure
    args := [.integer workload.nextRequest] }
  let called := workload.dealer.call ambient driverId request
  match (← called.answer).map Routed.message with
  | .invocation invocation :: _ =>
    let answer : Yield := {
      request := invocation.request
      options := ∅
      args := invocation.args }
    let answered := called.state.yield calleeId answer
    let arrived := match (← answered.answer).map Routed.message with
      | .result result :: _ => result.request = workload.nextRequest
      | _ => false
    return (arrived, { next with dealer := answered.state })
  | _ => return (false, { next with dealer := called.state })

end Calling

/-- A directory with one entry of each policy per row, and URIs that resolve to each. -/
structure Resolving where
  directory : Uri.Directory Nat := {}
  lookups : List String := []

namespace Resolving

def addRow (workload : Resolving) (row : Nat) : Resolving where
  directory := workload.directory
    |>.insert s!"bench.exact.topic{row}" .exact row
    |>.insert s!"bench.leading{row}." .leading row
    |>.insert s!"bench.wild{row}..end" .wildcard row
  lookups := workload.lookups ++ [
    s!"bench.exact.topic{row}", s!"bench.leading{row}.deep.path", s!"bench.wild{row}.any.end"]

def ofRows (count : Nat) : Resolving :=
  (List.range (max count 1)).foldl addRow {}

def resolved (workload : Resolving) : Nat :=
  workload.lookups.countP fun uri => (workload.directory.resolve? uri).isSome

end Resolving

end Wamp.Workload
