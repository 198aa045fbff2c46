import Wamp.Message

/-!
# Journal entries

What the components report about their work: each entry has a level, a canonical event name, the
component that wrote it, a sentence, and named fields.
-/

namespace Wamp

namespace Journal

inductive Level where
  | debug
  | info
  | warn
  deriving DecidableEq, Repr

def Level.name : Level → String
  | .debug => "DEBUG"
  | .info => "INFO"
  | .warn => "WARN"

inductive Field where
  | number (value : Nat)
  | flag (value : Bool)
  | text (value : String)
  deriving DecidableEq, Repr

structure Entry where
  level : Level
  component : String
  event : String
  sentence : String
  fields : List (String × Field)
  deriving DecidableEq, Repr

/-- Recipients as `[3, 7]`, and `none` if there are none. -/
def recipientList (recipients : List Id) : String :=
  if recipients.isEmpty then
    "none"
  else
    "[" ++ ", ".intercalate (recipients.map toString) ++ "]"

/-- Outbound messages as `INVOCATION->3, ERROR->1`, and `none` if there are none. -/
def outboundList (outbound : List Routed) : String :=
  if outbound.isEmpty then
    "none"
  else
    ", ".intercalate (outbound.map fun routed => s!"{routed.message.kind.name}->{routed.recipient}")

end Journal

end Wamp
