import Wamp.Settings

/-!
# The router of a realm

One broker and one dealer serve the sessions of a realm.  A session is attached to both or to
neither, and every message goes to the component that its kind belongs to.
-/

namespace Wamp

inductive RouterError where
  | realmMismatch (expected actual : String)
  | broker (error : BrokerError)
  | dealer (error : DealerError)
  | unexpectedMessage (kind : MessageKind)
  deriving DecidableEq, Repr

namespace RouterError

def message : RouterError → String
  | .realmMismatch expected actual =>
    s!"session belongs to realm {actual}, router serves {expected}"
  | .broker error => s!"broker rejected message: {error.message}"
  | .dealer error => s!"dealer rejected message: {error.message}"
  | .unexpectedMessage kind => s!"router cannot handle {kind.name} messages"

/-- The text of the refusal that this one passes on. -/
def source? : RouterError → Option String
  | .broker error => some error.message
  | .dealer error => some error.message
  | .realmMismatch .. | .unexpectedMessage _ => none

end RouterError

structure Router where
  realm : String
  broker : Broker
  dealer : AnnouncingDealer
  deriving DecidableEq

namespace Router

abbrev Reply (Answer : Type) := Outcome Router RouterError Journal.Entry Answer

def ofSettings (realm : String) (settings : Settings) : Router where
  realm
  broker := .ofSettings settings
  dealer := .ofSettings settings

def entry (level : Journal.Level) (event sentence : String)
    (fields : List (String × Journal.Field)) : Journal.Entry :=
  { level, component := "router", event, sentence, fields }

def entryOnFailure (event sentence : String) (session : Id) (text : String) : Journal.Entry :=
  entry .warn event sentence [("session_id", .number session), ("err", .text text)]

def ofBroker {Answer : Type} (router : Router) (outcome : Broker.Reply Answer) : Reply Answer where
  state := { router with broker := outcome.state }
  answer := outcome.answer.mapError .broker
  notes := outcome.notes.map Broker.Note.entry

def ofDealer {Answer : Type} (router : Router) (outcome : AnnouncingDealer.Reply Answer) :
    Reply Answer where
  state := { router with dealer := outcome.state }
  answer := outcome.answer.mapError .dealer
  notes := outcome.notes

/-- Attaches a session to both components; the broker's side is undone if the dealer refuses. -/
def attach (router : Router) (session : Session) : Reply Unit :=
  if session.realm = router.realm then
    let added := router.broker.addSession session
    let addedNotes := added.notes.map Broker.Note.entry
    match added.answer with
    | .error error =>
      { state := { router with broker := added.state }
        answer := .error (.broker error)
        notes := addedNotes ++ [
          entryOnFailure "session_add_failed" "broker refused session" session.id
            error.message] }
    | .ok () =>
      let joined := router.dealer.addSession session
      match joined.answer with
      | .error error =>
        let undone := added.state.removeSession session.id
        let failure := match undone.answer with
          | .ok () => []
          | .error error => [
            entryOnFailure "session_rollback_failed"
              "broker attachment could not be rolled back" session.id error.message]
        { state := { router with broker := undone.state, dealer := joined.state }
          answer := .error (.dealer error)
          notes :=
            addedNotes ++ joined.notes ++ undone.notes.map Broker.Note.entry ++ failure ++ [
              entryOnFailure "session_rollback"
                "dealer refused session; broker attachment rolled back" session.id
                error.message] }
      | .ok () =>
        { state := { router with broker := added.state, dealer := joined.state }
          answer := .ok ()
          notes := addedNotes ++ joined.notes ++ [
            entry .debug "session_added" "session attached"
              [("session_id", .number session.id), ("realm", .text router.realm)]] }
  else
    .refused router (.realmMismatch router.realm session.realm)

/-- Detaches a session from both components, from each also if the other refuses; the broker's
refusal is reported first. -/
def detach (router : Router) (session : Id) : Reply Unit :=
  let left := router.broker.removeSession session
  let gone := router.dealer.removeSession session
  let state := { router with broker := left.state, dealer := gone.state }
  let notes := left.notes.map Broker.Note.entry ++ gone.notes
  match left.answer, gone.answer with
  | .error error, _ => { state, answer := .error (.broker error), notes }
  | .ok (), .error error => { state, answer := .error (.dealer error), notes }
  | .ok (), .ok () =>
    { state
      answer := .ok ()
      notes := notes ++ [
        entry .debug "session_removed" "session detached"
          [("session_id", .number session), ("realm", .text router.realm)]] }

def route (router : Router) (ambient : Ambient) (session : Id) (message : Message) :
    Reply (List Routed) :=
  match message with
  | .publish request =>
    let outcome := router.ofBroker (router.broker.publish ambient session request)
    { outcome with answer := outcome.answer.map Publication.outbound }
  | .subscribe _ | .unsubscribe _ =>
    let outcome := router.ofBroker (router.broker.receive session message)
    { outcome with answer := outcome.answer.map fun routed => [routed] }
  | .register _ | .unregister _ | .call _ | .yield _ | .cancel _ | .error _ =>
    router.ofDealer (router.dealer.receive ambient session message)
  | other => .refused router (.unexpectedMessage other.kind)

def receive (router : Router) (ambient : Ambient) (session : Id) (message : Message) :
    Reply (List Routed) :=
  let outcome := router.route ambient session message
  let report := match outcome.answer with
    | .ok outbound =>
      entry .debug "message_routed" "message routed"
        [("session_id", .number session), ("msg_type", .text message.kind.name),
          ("outbound", .text (Journal.outboundList outbound))]
    | .error error =>
      entry .warn "message_rejected" "message rejected"
        [("session_id", .number session), ("msg_type", .text message.kind.name),
          ("err", .text error.message)]
  { outcome with notes := outcome.notes ++ [report] }

end Router

end Wamp
