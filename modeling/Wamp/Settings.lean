import Wamp.Registration.Announcement
import Wamp.Broker
import Wamp.Dealer.Announcing

/-! # Settings of a router -/

namespace Wamp

structure Settings where
  /-- Every invocation tells who called. -/
  autoDiscloseCaller : Bool := false
  /-- Every event tells who published. -/
  autoDisclosePublisher : Bool := false
  /-- How many announcements wait for their consumer at most. -/
  metaEventQueueSize : Nat := 64
  deriving DecidableEq, Repr

def Broker.ofSettings (settings : Settings) : Broker :=
  { disclosePublisher := settings.autoDisclosePublisher }

def AnnouncingDealer.ofSettings (settings : Settings) : AnnouncingDealer where
  dealer := { discloseCaller := settings.autoDiscloseCaller }
  board := { queueSize := settings.metaEventQueueSize }

end Wamp
