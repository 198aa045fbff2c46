import Std.Data.ExtTreeSet
import Std.Data.ExtTreeSet.Lemmas
import Wamp.Journal
import Wamp.Outcome
import Wamp.Session
import Wamp.Uri.Directory

/-!
# The broker

The broker of a realm owns the subscriptions.  All subscribers of one topic string share one
subscription, whose match policy is the one asked for when it came into being.  A publication
reaches the subscribers of the one subscription that its topic resolves to.
-/

namespace Wamp

structure Subscription where
  id : Id
  topic : String
  policy : MatchPolicy
  subscribers : Std.ExtTreeSet Id
  deriving DecidableEq

/-- The fan-out of one publication: the event, who gets it, and the acknowledgement asked for. -/
structure Publication where
  event : Option Event := none
  recipients : List Id := []
  acknowledgement : Option Routed := none
  deriving DecidableEq

/-- What has to be delivered: the event to each recipient, then the acknowledgement. -/
def Publication.outbound (publication : Publication) : List Routed :=
  let events := match publication.event with
    | none => []
    | some event =>
      publication.recipients.map fun recipient => { recipient, message := .event event }
  events ++ publication.acknowledgement.toList

inductive BrokerError where
  | duplicateSession (session : Id)
  | unknownSession (session : Id)
  | unknownSubscription (session subscription : Id)
  | unexpectedMessage (kind : MessageKind)
  deriving DecidableEq, Repr

def BrokerError.message : BrokerError → String
  | .duplicateSession session => s!"session {session} is already attached"
  | .unknownSession session => s!"session {session} is not attached"
  | .unknownSubscription session subscription =>
    s!"session {session} holds no subscription {subscription}"
  | .unexpectedMessage kind => s!"broker cannot handle {kind.name} messages"

structure Broker where
  sessions : Std.ExtTreeMap Id Session := ∅
  subscriptions : Std.ExtTreeMap Id Subscription := ∅
  /-- The subscriptions that each attached session holds. -/
  held : Holdings := ∅
  directory : Uri.Directory Id := {}
  disclosePublisher : Bool := false
  ids : IdCounter := {}
  deriving DecidableEq

namespace Broker

inductive Note where
  | subscriptionCreated (subscription : Id) (topic : String) (policy : MatchPolicy)
  | subscriberAdded (session subscription : Id) (topic : String)
  | subscriberRemoved (session subscription : Id) (topic : String)
  | subscriptionDeleted (subscription : Id) (topic : String)
  | publishRouted (session : Id) (topic : String) (subscription : Id) (recipients : List Id)
  | publishNoSubscribers (session : Id) (topic : String)
  deriving DecidableEq, Repr

open Journal in
def Note.entry (note : Note) : Entry :=
  let debug (event sentence : String) (fields : List (String × Field)) : Entry :=
    { level := .debug, component := "broker", event, sentence, fields }
  match note with
  | .subscriptionCreated subscription topic policy =>
    debug "subscription_created" "subscription created"
      [("subscription_id", .number subscription), ("topic", .text topic),
        ("match_policy", .text policy.name)]
  | .subscriberAdded session subscription topic =>
    debug "subscriber_added" "subscriber added"
      [("session_id", .number session), ("subscription_id", .number subscription),
        ("topic", .text topic)]
  | .subscriberRemoved session subscription topic =>
    debug "subscriber_removed" "subscriber removed"
      [("session_id", .number session), ("subscription_id", .number subscription),
        ("topic", .text topic)]
  | .subscriptionDeleted subscription topic =>
    debug "subscription_deleted" "subscription deleted"
      [("subscription_id", .number subscription), ("topic", .text topic)]
  | .publishRouted session topic subscription recipients =>
    debug "publish_routed" "publication routed"
      [("session_id", .number session), ("topic", .text topic),
        ("subscription_id", .number subscription),
        ("recipients", .text (recipientList recipients))]
  | .publishNoSubscribers session topic =>
    debug "publish_no_subscribers" "publication has no subscribers"
      [("session_id", .number session), ("topic", .text topic)]

abbrev Reply (Answer : Type) := Outcome Broker BrokerError Note Answer

def isAttached (broker : Broker) (session : Id) : Bool :=
  broker.sessions.contains session

/-- A subscription is live as long as it has a subscriber. -/
def isLive (broker : Broker) (subscription : Id) : Bool :=
  (broker.subscriptions[subscription]?).any fun held => !held.subscribers.isEmpty

def hasSubscription (broker : Broker) (topic : String) : Bool :=
  (broker.directory.get? topic).isSome

/-- The policy by which a topic finds its subscription, and the subscription. -/
def resolve? (broker : Broker) (topic : String) : Option (MatchPolicy × Subscription) :=
  match broker.directory.resolve? topic broker.isLive with
  | none => none
  | some entry => (broker.subscriptions[entry.value]?).map fun found => (entry.policy, found)

def setDisclosure (broker : Broker) (disclose : Bool) : Broker :=
  { broker with disclosePublisher := disclose }

def addSession (broker : Broker) (session : Session) : Reply Unit :=
  if broker.isAttached session.id then
    .refused broker (.duplicateSession session.id)
  else
    .granted
      { broker with
        sessions := broker.sessions.insert session.id session
        held := broker.held.insert session.id ∅ } ()

/-- Takes a session out of one subscription, and the subscription away once it is empty. -/
def removeSubscriber (broker : Broker) (session subscription : Id) : Broker × List Note :=
  match broker.subscriptions[subscription]? with
  | none => (broker, [])
  | some found =>
    let subscribers := found.subscribers.erase session
    let removed := Note.subscriberRemoved session subscription found.topic
    if subscribers.isEmpty then
      ({ broker with
          subscriptions := broker.subscriptions.erase subscription
          directory := broker.directory.erase found.topic },
        [removed, .subscriptionDeleted subscription found.topic])
    else
      ({ broker with
          subscriptions := broker.subscriptions.insert subscription { found with subscribers } },
        [removed])

def removeSubscriberFromAll (broker : Broker) (session : Id) : List Id → Broker × List Note
  | [] => (broker, [])
  | subscription :: rest =>
    let (broker, notes) := broker.removeSubscriber session subscription
    let (broker, more) := broker.removeSubscriberFromAll session rest
    (broker, notes ++ more)

def removeSession (broker : Broker) (session : Id) : Reply Unit :=
  if broker.isAttached session then
    let subscriptions := (broker.held.getD session ∅).toList
    let detached :=
      { broker with
        sessions := broker.sessions.erase session
        held := broker.held.erase session }
    let (state, notes) := detached.removeSubscriberFromAll session subscriptions
    .granted state () notes
  else
    .refused broker (.unknownSession session)

/-- The subscription for a topic, brought into being if there is none yet. -/
def subscriptionFor (broker : Broker) (request : Subscribe) : Id × Broker × List Note :=
  match broker.directory.get? request.topic with
  | some entry => (entry.value, broker, [])
  | none =>
    let (id, ids) := broker.ids.next
    let policy := MatchPolicy.ofOptions request.options
    let created : Subscription := { id, topic := request.topic, policy, subscribers := ∅ }
    (id,
      { broker with
        ids
        subscriptions := broker.subscriptions.insert id created
        directory := broker.directory.insert request.topic policy id },
      [.subscriptionCreated id request.topic policy])

def subscribe (broker : Broker) (session : Id) (request : Subscribe) : Reply Routed :=
  if broker.isAttached session then
    let (subscription, broker, notes) := broker.subscriptionFor request
    let state :=
      { broker with
        subscriptions := broker.subscriptions.modify subscription fun found =>
          { found with subscribers := found.subscribers.insert session }
        held := broker.held.insert session
          ((broker.held.getD session ∅).insert subscription) }
    .granted state
      { recipient := session
        message := .subscribed { request := request.request, subscription } }
      (notes ++ [.subscriberAdded session subscription request.topic])
  else
    .refused broker (.unknownSession session)

def unsubscribe (broker : Broker) (session : Id) (request : Unsubscribe) : Reply Routed :=
  match broker.held[session]? with
  | none => .refused broker (.unknownSession session)
  | some subscriptions =>
    let released :=
      { broker with
        held := broker.held.insert session (subscriptions.erase request.subscription) }
    if subscriptions.contains request.subscription then
      let (state, notes) := released.removeSubscriber session request.subscription
      .granted state
        { recipient := session, message := .unsubscribed { request := request.request } } notes
    else
      .refused released (.unknownSubscription session request.subscription)

/-- The details of an event: the topic unless the subscription is exact, and with disclosure
the publisher as it is attached. -/
def eventDetails (broker : Broker) (publisher : Session) (policy : MatchPolicy)
    (topic : String) : Dict :=
  let details : Dict := if policy = .exact then ∅ else (∅ : Dict).insert "topic" (.text topic)
  if broker.disclosePublisher then
    details
      |>.insert "publisher" (.integer publisher.id)
      |>.insert "publisher_authid" (.text publisher.authid)
      |>.insert "publisher_authrole" (.text publisher.authrole)
      |>.insert "topic" (.text topic)
  else
    details

/-- A publication that finds no subscription is no error.  The publisher gets its own event if
it is a subscriber. -/
def publish (broker : Broker) (ambient : Ambient) (session : Id) (request : Publish) :
    Reply Publication :=
  match broker.sessions[session]? with
  | none => .refused broker (.unknownSession session)
  | some publisher =>
    let acknowledgement :=
      if request.options.flag "acknowledge" then
        some {
          recipient := session
          message := .published { request := request.request, publication := ambient.drawnId } }
      else
        none
    match broker.resolve? request.topic with
    | none =>
      .granted broker { acknowledgement } [.publishNoSubscribers session request.topic]
    | some (policy, subscription) =>
      let recipients := subscription.subscribers.toList
      let event : Event := {
        request.toArguments with
        subscription := subscription.id
        publication := ambient.drawnId
        details := broker.eventDetails publisher policy request.topic }
      .granted broker { event := some event, recipients, acknowledgement }
        [.publishRouted session request.topic subscription.id recipients]

/-- Subscribing and unsubscribing; publications have their own operation. -/
def receive (broker : Broker) (session : Id) : Message → Reply Routed
  | .subscribe request => broker.subscribe session request
  | .unsubscribe request => broker.unsubscribe session request
  | other => .refused broker (.unexpectedMessage other.kind)

end Broker

end Wamp
