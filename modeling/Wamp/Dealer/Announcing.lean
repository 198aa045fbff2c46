import Wamp.Dealer.Calling

/-!
# A dealer with consumers of its announcements

The dealer proper only notes its announcements.  Here they are posted to a board on the way, so
that a dropped one leaves its journal entry where it was made.  The board never has a say in
what the dealer does.
-/

namespace Wamp

structure AnnouncingDealer where
  dealer : Dealer := {}
  board : Board
  deriving DecidableEq

namespace AnnouncingDealer

abbrev Reply (Answer : Type) := Outcome AnnouncingDealer DealerError Journal.Entry Answer

/-- Posts the announcements among the notes and writes the other notes down. -/
def record (board : Board) : List Dealer.Note → Board × List Journal.Entry
  | [] => (board, [])
  | .announced announcement :: rest =>
    let (board, dropped) := board.post announcement
    let (board, entries) := record board rest
    (board, (dropped.map DropReason.entry).toList ++ entries)
  | note :: rest =>
    let (board, entries) := record board rest
    (board, note.logged?.toList ++ entries)

/-- What an operation of the dealer leaves behind here. -/
def absorb {Answer : Type} (board : Board) (outcome : Dealer.Reply Answer) : Reply Answer :=
  let (board, entries) := record board outcome.notes
  { state := { dealer := outcome.state, board }, answer := outcome.answer, notes := entries }

def addSession (announcing : AnnouncingDealer) (session : Session) : Reply Unit :=
  absorb announcing.board (announcing.dealer.addSession session)

def removeSession (announcing : AnnouncingDealer) (session : Id) : Reply Unit :=
  absorb announcing.board (announcing.dealer.removeSession session)

def receive (announcing : AnnouncingDealer) (ambient : Ambient) (session : Id)
    (message : Message) : Reply (List Routed) :=
  absorb announcing.board (announcing.dealer.receive ambient session message)

def setDisclosure (announcing : AnnouncingDealer) (disclose : Bool) : AnnouncingDealer :=
  { announcing with dealer := announcing.dealer.setDisclosure disclose }

/-- Enables a new consumer of announcements, if the configured queue size admits one. -/
def enable? (announcing : AnnouncingDealer) : Option AnnouncingDealer :=
  announcing.board.enable?.map fun board => { announcing with board }

end AnnouncingDealer

end Wamp
