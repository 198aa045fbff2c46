import Std.Data.ExtTreeMap
import Std.Data.ExtTreeMap.Lemmas
import Std.Data.ExtTreeSet
import Std.Data.ExtTreeSet.Lemmas
import Wamp.Identifier

/-! # Sessions of a realm, and what they hold -/

namespace Wamp

structure Session where
  id : Id
  realm : String
  authid : String
  authrole : String
  /-- The peer can take an opaque payload as it stands. -/
  staticSerializer : Bool
  deriving DecidableEq, Repr

/-- The subscriptions or registrations that each attached session holds. -/
abbrev Holdings := Std.ExtTreeMap Id (Std.ExtTreeSet Id)

instance : DecidableEq Holdings := inferInstance

end Wamp
