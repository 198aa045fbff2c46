import Wamp.Json.Compact

/-!
# Policies read from options

The router interprets three option keys besides the flags: `match` chooses how a topic or
procedure is compared with incoming URIs, `invoke` chooses the callee of a shared registration,
and `mode` chooses what a cancel does.  Unknown or missing values of the first two fall back to
the default; an unknown cancel mode is refused with its text.
-/

namespace Wamp

inductive MatchPolicy where
  | exact
  /-- The stored URI is an initial part of the incoming one. -/
  | leading
  | wildcard
  deriving DecidableEq, Repr

namespace MatchPolicy

def name : MatchPolicy → String
  | .exact => "exact"
  | .leading => "prefix"
  | .wildcard => "wildcard"

def ofOptions (options : Dict) : MatchPolicy :=
  match options.text? "match" with
  | some "prefix" => .leading
  | some "wildcard" => .wildcard
  | _ => .exact

end MatchPolicy

inductive InvocationPolicy where
  | single
  | first
  | last
  | roundRobin
  | random
  deriving DecidableEq, Repr

namespace InvocationPolicy

def name : InvocationPolicy → String
  | .single => "single"
  | .first => "first"
  | .last => "last"
  | .roundRobin => "roundrobin"
  | .random => "random"

def ofOptions (options : Dict) : InvocationPolicy :=
  match options.text? "invoke" with
  | some "first" => .first
  | some "last" => .last
  | some "roundrobin" => .roundRobin
  | some "random" => .random
  | _ => .single

/-- Several callees may serve one registration. -/
def shared (policy : InvocationPolicy) : Bool :=
  policy != .single

end InvocationPolicy

inductive CancelMode where
  /-- The call ends at once and its callee is not told. -/
  | skip
  /-- The callee is interrupted and its next reply ends the call. -/
  | kill
  /-- The callee is interrupted and the call ends at once. -/
  | killNoWait
  deriving DecidableEq, Repr

namespace CancelMode

def name : CancelMode → String
  | .skip => "skip"
  | .kill => "kill"
  | .killNoWait => "killnowait"

/-- The mode a text names, or the text itself. -/
def ofText (text : String) : Except String CancelMode :=
  match text with
  | "skip" => .ok .skip
  | "kill" => .ok .kill
  | "killnowait" => .ok .killNoWait
  | _ => .error text

/-- A mode that is not a text is refused with its compact text. -/
def ofOptions (options : Dict) : Except String CancelMode :=
  match options["mode"]? with
  | none => .ok .killNoWait
  | some (.text text) => ofText text
  | some other => .error other.compact

end CancelMode

end Wamp
