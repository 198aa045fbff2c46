import Wamp.Identifier
import Wamp.Json
import Wamp.Message.Kind

/-!
# Messages

A message is one record of the protocol, decoded and validated before it arrives here.  Options
and details are dictionaries, so that keys the router does not know pass through unchanged.
-/

namespace Wamp

/-- The serializer that produced an opaque payload. -/
inductive Serializer where
  | none
  | json
  | msgPack
  | cbor
  deriving DecidableEq, Repr

structure Payload where
  serializer : Serializer
  data : List UInt8
  deriving DecidableEq, Repr

/-- Application data given by position and by keyword. -/
structure Arguments where
  args : List Json := []
  kwargs : Dict := ∅
  deriving DecidableEq

/-- Application data of a call or its result: arguments, and possibly an opaque payload that
stands in their place. -/
structure Content extends Arguments where
  payload : Option Payload := none
  deriving DecidableEq

/-- What a peer receives: the payload alone if there is one and the peer can take it, otherwise
the arguments alone. -/
def Content.adapted (content : Content) (takesPayload : Bool) : Content :=
  match content.payload with
  | some payload =>
    if takesPayload then { payload := some payload } else { content with payload := none }
  | none => content

structure Hello where
  realm : String
  details : Dict
  deriving DecidableEq

structure Welcome where
  session : Id
  details : Dict
  deriving DecidableEq

/-- The reason given when a session ends, on either side. -/
structure Farewell where
  details : Dict
  reason : String
  deriving DecidableEq

structure Challenge where
  authMethod : String
  extra : Dict
  deriving DecidableEq

structure Authenticate where
  signature : String
  extra : Dict
  deriving DecidableEq

/-- A refusal of the request `request` of kind `answers`. -/
structure ErrorReply extends Arguments where
  answers : MessageKind
  request : Id
  details : Dict := ∅
  uri : String
  deriving DecidableEq

structure Publish extends Arguments where
  request : Id
  options : Dict
  topic : String
  deriving DecidableEq

structure Published where
  request : Id
  publication : Id
  deriving DecidableEq, Repr

structure Subscribe where
  request : Id
  options : Dict
  topic : String
  deriving DecidableEq

structure Subscribed where
  request : Id
  subscription : Id
  deriving DecidableEq, Repr

structure Unsubscribe where
  request : Id
  subscription : Id
  deriving DecidableEq, Repr

structure Unsubscribed where
  request : Id
  deriving DecidableEq, Repr

structure Event extends Arguments where
  subscription : Id
  publication : Id
  details : Dict
  deriving DecidableEq

structure Call extends Content where
  request : Id
  options : Dict
  procedure : String
  deriving DecidableEq

structure Cancel where
  request : Id
  options : Dict
  deriving DecidableEq

structure CallResult extends Content where
  request : Id
  details : Dict
  deriving DecidableEq

structure Register where
  request : Id
  options : Dict
  procedure : String
  deriving DecidableEq

structure Registered where
  request : Id
  registration : Id
  deriving DecidableEq, Repr

structure Unregister where
  request : Id
  registration : Id
  deriving DecidableEq, Repr

structure Unregistered where
  request : Id
  deriving DecidableEq, Repr

structure Invocation extends Content where
  request : Id
  registration : Id
  details : Dict
  deriving DecidableEq

structure Interrupt where
  request : Id
  options : Dict
  deriving DecidableEq

structure Yield extends Content where
  request : Id
  options : Dict
  deriving DecidableEq

inductive Message where
  | hello (body : Hello)
  | welcome (body : Welcome)
  | abort (body : Farewell)
  | challenge (body : Challenge)
  | authenticate (body : Authenticate)
  | goodbye (body : Farewell)
  | error (body : ErrorReply)
  | publish (body : Publish)
  | published (body : Published)
  | subscribe (body : Subscribe)
  | subscribed (body : Subscribed)
  | unsubscribe (body : Unsubscribe)
  | unsubscribed (body : Unsubscribed)
  | event (body : Event)
  | call (body : Call)
  | cancel (body : Cancel)
  | result (body : CallResult)
  | register (body : Register)
  | registered (body : Registered)
  | unregister (body : Unregister)
  | unregistered (body : Unregistered)
  | invocation (body : Invocation)
  | interrupt (body : Interrupt)
  | yield (body : Yield)
  deriving DecidableEq

namespace Message

def kind : Message → MessageKind
  | .hello _ => .hello
  | .welcome _ => .welcome
  | .abort _ => .abort
  | .challenge _ => .challenge
  | .authenticate _ => .authenticate
  | .goodbye _ => .goodbye
  | .error _ => .error
  | .publish _ => .publish
  | .published _ => .published
  | .subscribe _ => .subscribe
  | .subscribed _ => .subscribed
  | .unsubscribe _ => .unsubscribe
  | .unsubscribed _ => .unsubscribed
  | .event _ => .event
  | .call _ => .call
  | .cancel _ => .cancel
  | .result _ => .result
  | .register _ => .register
  | .registered _ => .registered
  | .unregister _ => .unregister
  | .unregistered _ => .unregistered
  | .invocation _ => .invocation
  | .interrupt _ => .interrupt
  | .yield _ => .yield

end Message

structure Routed where
  recipient : Id
  message : Message
  deriving DecidableEq

/-! ## Error URIs that a router produces -/

namespace ErrorUri

def noSuchProcedure : String := "wamp.error.no_such_procedure"

def procedureAlreadyExists : String := "wamp.error.procedure_already_exists"

def canceled : String := "wamp.error.canceled"

end ErrorUri

def ErrorReply.plain (answers : MessageKind) (request : Id) (uri : String) : ErrorReply :=
  { answers, request, uri }

end Wamp
