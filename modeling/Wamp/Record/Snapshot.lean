import Wamp.Record.Message
import Wamp.Settings

/-!
# Snapshots as records

Records of what the components hold and report: sessions, subscriptions, registrations,
announcements, journal entries, and settings.
-/

namespace Wamp

open Json (ofNat ofNats)

def Session.ofRecord (record : Json) : Session where
  id := record.naturalField "id"
  realm := record.stringField "realm"
  authid := record.stringField "authid"
  authrole := record.stringField "authrole"
  staticSerializer := record.flagField "static_serializer"

def Subscription.record (subscription : Subscription) : Json :=
  .object [("id", ofNat subscription.id), ("topic", .text subscription.topic),
    ("match", .text subscription.policy.name),
    ("subscribers", ofNats subscription.subscribers.toList)]

def Registration.record (registration : Registration) : Json :=
  .object [("id", ofNat registration.id), ("procedure", .text registration.procedure),
    ("match", .text registration.policy.name), ("invoke", .text registration.invoke.name),
    ("callees", ofNats registration.callees), ("created", .text registration.created)]

def Announcement.record (announcement : Announcement) : Json :=
  let concerning (name : String) (session registration : Id) : Json :=
    .object [("event", .text name), ("session_id", ofNat session),
      ("registration_id", ofNat registration)]
  match announcement with
  | .registrationCreated registration =>
    .object [("event", .text "RegistrationCreated"), ("registration", registration.record)]
  | .calleeAdded session registration => concerning "CalleeAdded" session registration
  | .calleeRemoved session registration => concerning "CalleeRemoved" session registration
  | .registrationDeleted session registration =>
    concerning "RegistrationDeleted" session registration

def Journal.Field.json : Journal.Field → Json
  | .number value => ofNat value
  | .flag value => .boolean value
  | .text value => .text value

def Journal.Entry.record (entry : Journal.Entry) : Json :=
  .object ([("level", .text entry.level.name), ("component", .text entry.component),
    ("event", .text entry.event), ("message", .text entry.sentence)] ++
      entry.fields.map fun (name, value) => (name, value.json))

def Settings.record (settings : Settings) : Json :=
  .object [("auto_disclose_caller", .boolean settings.autoDiscloseCaller),
    ("auto_disclose_publisher", .boolean settings.autoDisclosePublisher),
    ("meta_event_queue_size", ofNat settings.metaEventQueueSize)]

/-- Absent fields have their default. -/
def Settings.ofRecord (record : Json) : Settings :=
  let defaults : Settings := {}
  { autoDiscloseCaller :=
      ((record.field? "auto_disclose_caller").map Json.isTrue).getD defaults.autoDiscloseCaller
    autoDisclosePublisher :=
      ((record.field? "auto_disclose_publisher").map Json.isTrue).getD
        defaults.autoDisclosePublisher
    metaEventQueueSize :=
      ((record.field? "meta_event_queue_size").map Json.natural).getD
        defaults.metaEventQueueSize }

end Wamp
