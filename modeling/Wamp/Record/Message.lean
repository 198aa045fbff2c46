import Wamp.Message
import Wamp.Record.Field

/-!
# Messages as records

The record of a message names its kind in the field `type` and has one field for each part.  All
parts are written; when a record is read, absent parts are empty, except that an error has to
name the kind of request it answers.
-/

namespace Wamp

open Json (ofNat ofDict)

def Arguments.ofRecord (record : Json) : Arguments where
  args := record.itemsField "args"
  kwargs := record.dictField "kwargs"

def Arguments.fields (arguments : Arguments) : List (String × Json) :=
  [("args", .list arguments.args), ("kwargs", ofDict arguments.kwargs)]

def Serializer.number : Serializer → Nat
  | .none => 0
  | .json => 1
  | .msgPack => 2
  | .cbor => 3

def Serializer.ofNumber : Nat → Serializer
  | 1 => .json
  | 2 => .msgPack
  | 3 => .cbor
  | _ => .none

def Payload.ofRecord? (record : Json) : Option Payload :=
  match record with
  | .object _ => some {
      serializer := .ofNumber (record.naturalField "serializer")
      data := (record.itemsField "data").map fun byte => byte.natural.toUInt8 }
  | _ => none

def Payload.record (payload : Payload) : Json :=
  .object [("serializer", ofNat payload.serializer.number),
    ("data", Json.ofNats (payload.data.map UInt8.toNat))]

def Content.ofRecord (record : Json) : Content :=
  { Arguments.ofRecord record with payload := Payload.ofRecord? (record.field "payload") }

def Content.fields (content : Content) : List (String × Json) :=
  content.toArguments.fields ++
    [("payload", (content.payload.map Payload.record).getD .null)]

/-- Reads a publication from its fields alone: where only a publication can stand, the record need
not name its kind. -/
def Publish.ofRecord (record : Json) : Publish :=
  { Arguments.ofRecord record with
    request := record.naturalField "request_id"
    options := record.dictField "options"
    topic := record.stringField "topic" }

def Call.ofRecord (record : Json) : Call :=
  { Content.ofRecord record with
    request := record.naturalField "request_id"
    options := record.dictField "options"
    procedure := record.stringField "procedure" }

namespace Message

def ofRecord? (record : Json) : Option Message :=
  let request := record.naturalField "request_id"
  let options := record.dictField "options"
  let details := record.dictField "details"
  let extra := record.dictField "extra"
  let reason := record.stringField "reason"
  let topic := record.stringField "topic"
  let procedure := record.stringField "procedure"
  let subscription := record.naturalField "subscription_id"
  let publication := record.naturalField "publication_id"
  let registration := record.naturalField "registration_id"
  let arguments := Arguments.ofRecord record
  let content := Content.ofRecord record
  (MessageKind.ofName? (record.stringField "type")).bind fun
    | .hello => some (.hello { realm := record.stringField "realm", details })
    | .welcome => some (.welcome { session := record.naturalField "session_id", details })
    | .abort => some (.abort { details, reason })
    | .challenge => some (.challenge { authMethod := record.stringField "auth_method", extra })
    | .authenticate =>
      some (.authenticate { signature := record.stringField "signature", extra })
    | .goodbye => some (.goodbye { details, reason })
    | .error =>
      (MessageKind.ofName? (record.stringField "request_type")).map fun answers =>
        .error { arguments with answers, request, details, uri := record.stringField "uri" }
    | .publish => some (.publish (.ofRecord record))
    | .published => some (.published { request, publication })
    | .subscribe => some (.subscribe { request, options, topic })
    | .subscribed => some (.subscribed { request, subscription })
    | .unsubscribe => some (.unsubscribe { request, subscription })
    | .unsubscribed => some (.unsubscribed { request })
    | .event => some (.event { arguments with subscription, publication, details })
    | .call => some (.call (.ofRecord record))
    | .cancel => some (.cancel { request, options })
    | .result => some (.result { content with request, details })
    | .register => some (.register { request, options, procedure })
    | .registered => some (.registered { request, registration })
    | .unregister => some (.unregister { request, registration })
    | .unregistered => some (.unregistered { request })
    | .invocation => some (.invocation { content with request, registration, details })
    | .interrupt => some (.interrupt { request, options })
    | .yield => some (.yield { content with request, options })

def fields : Message → List (String × Json)
  | .hello body => [("realm", .text body.realm), ("details", ofDict body.details)]
  | .welcome body => [("session_id", ofNat body.session), ("details", ofDict body.details)]
  | .abort body | .goodbye body =>
    [("details", ofDict body.details), ("reason", .text body.reason)]
  | .challenge body => [("auth_method", .text body.authMethod), ("extra", ofDict body.extra)]
  | .authenticate body => [("signature", .text body.signature), ("extra", ofDict body.extra)]
  | .error body =>
    [("request_type", .text body.answers.name), ("request_id", ofNat body.request),
      ("details", ofDict body.details), ("uri", .text body.uri)] ++ body.toArguments.fields
  | .publish body =>
    [("request_id", ofNat body.request), ("options", ofDict body.options),
      ("topic", .text body.topic)] ++ body.toArguments.fields
  | .published body =>
    [("request_id", ofNat body.request), ("publication_id", ofNat body.publication)]
  | .subscribe body =>
    [("request_id", ofNat body.request), ("options", ofDict body.options),
      ("topic", .text body.topic)]
  | .subscribed body =>
    [("request_id", ofNat body.request), ("subscription_id", ofNat body.subscription)]
  | .unsubscribe body =>
    [("request_id", ofNat body.request), ("subscription_id", ofNat body.subscription)]
  | .unsubscribed body => [("request_id", ofNat body.request)]
  | .event body =>
    [("subscription_id", ofNat body.subscription), ("publication_id", ofNat body.publication),
      ("details", ofDict body.details)] ++ body.toArguments.fields
  | .call body =>
    [("request_id", ofNat body.request), ("options", ofDict body.options),
      ("procedure", .text body.procedure)] ++ body.toContent.fields
  | .cancel body => [("request_id", ofNat body.request), ("options", ofDict body.options)]
  | .result body =>
    [("request_id", ofNat body.request), ("details", ofDict body.details)] ++
      body.toContent.fields
  | .register body =>
    [("request_id", ofNat body.request), ("options", ofDict body.options),
      ("procedure", .text body.procedure)]
  | .registered body =>
    [("request_id", ofNat body.request), ("registration_id", ofNat body.registration)]
  | .unregister body =>
    [("request_id", ofNat body.request), ("registration_id", ofNat body.registration)]
  | .unregistered body => [("request_id", ofNat body.request)]
  | .invocation body =>
    [("request_id", ofNat body.request), ("registration_id", ofNat body.registration),
      ("details", ofDict body.details)] ++ body.toContent.fields
  | .interrupt body => [("request_id", ofNat body.request), ("options", ofDict body.options)]
  | .yield body =>
    [("request_id", ofNat body.request), ("options", ofDict body.options)] ++
      body.toContent.fields

def record (message : Message) : Json :=
  .object (("type", .text message.kind.name) :: message.fields)

end Message

def Routed.record (routed : Routed) : Json :=
  .object [("recipient", ofNat routed.recipient), ("message", routed.message.record)]

end Wamp
