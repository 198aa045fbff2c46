import Wamp.Journal
import Wamp.Registration

/-!
# Announcements of registration changes

A dealer announces every change of its registrations.  Announcements are delivered best effort:
a board hands them to the consumer that was enabled last, through a bounded queue, and an
announcement that finds the queue full or its consumer gone is dropped.
-/

namespace Wamp

inductive Announcement where
  | registrationCreated (registration : Registration)
  | calleeAdded (session registration : Id)
  | calleeRemoved (session registration : Id)
  | registrationDeleted (session registration : Id)
  deriving DecidableEq, Repr

/-- The queue of one consumer, oldest announcement first. -/
structure Feed where
  capacity : Nat
  queued : List Announcement := []
  /-- The consumer has not dropped its end. -/
  listening : Bool := true
  deriving DecidableEq, Repr

/-- Why an announcement was dropped. -/
inductive DropReason where
  | queueFull
  | queueClosed
  deriving DecidableEq, Repr

def DropReason.name : DropReason → String
  | .queueFull => "queue_full"
  | .queueClosed => "queue_closed"

open Journal in
def DropReason.entry (reason : DropReason) : Entry where
  level := .debug
  component := "dealer_meta"
  event := "meta_event_dropped"
  sentence := "registration meta event dropped"
  fields := [("reason", .text reason.name)]

def Feed.offer (feed : Feed) (announcement : Announcement) : Feed × Option DropReason :=
  if !feed.listening then
    (feed, some .queueClosed)
  else if feed.capacity ≤ feed.queued.length then
    (feed, some .queueFull)
  else
    ({ feed with queued := feed.queued ++ [announcement] }, none)

/-- A queue never outgrows its capacity. -/
theorem Feed.length_queued_offer_le {feed : Feed} (announcement : Announcement)
    (h : feed.queued.length ≤ feed.capacity) :
    (feed.offer announcement).1.queued.length ≤ feed.capacity := by
  unfold offer
  split
  next => exact h
  next =>
    split
    next => exact h
    next hroom =>
      simp only [List.length_append, List.length_singleton]
      omega

/-- What a consumer finds when it asks for the next announcement. -/
inductive Feed.Taken where
  | next (announcement : Announcement)
  /-- Nothing is queued, but more may come. -/
  | empty
  /-- Nothing is queued and another consumer has taken over. -/
  | closed
  deriving DecidableEq, Repr

/-- The queues of all consumers in the order in which they were enabled.  Only the last one is
still supplied. -/
structure Board where
  /-- The configured size of a queue; a queue holds at least one announcement. -/
  queueSize : Nat
  feeds : List Feed := []
  deriving DecidableEq, Repr

namespace Board

/-- The largest capacity that a queue admits, an eighth of the 64-bit range. -/
def maxCapacity : Nat := (UInt64.size - 1) >>> 3

def capacity (board : Board) : Nat :=
  max board.queueSize 1

/-- Enables a new consumer, which supersedes the earlier ones.  A capacity that no queue admits
cannot be enabled. -/
def enable? (board : Board) : Option Board :=
  if board.capacity ≤ maxCapacity then
    some { board with feeds := board.feeds ++ [{ capacity := board.capacity }] }
  else
    none

/-- Hands an announcement to the current consumer, if there is one. -/
def post (board : Board) (announcement : Announcement) : Board × Option DropReason :=
  match board.feeds.getLast? with
  | none => (board, none)
  | some feed =>
    let (feed, dropped) := feed.offer announcement
    ({ board with feeds := board.feeds.dropLast ++ [feed] }, dropped)

/-- The consumer with this number takes its next announcement; numbers count from zero. -/
def take (board : Board) (consumer : Nat) : Board × Feed.Taken :=
  match board.feeds[consumer]? with
  | none => (board, .closed)
  | some feed =>
    match feed.queued with
    | [] => (board, if consumer + 1 = board.feeds.length then .empty else .closed)
    | announcement :: rest =>
      ({ board with feeds := board.feeds.set consumer { feed with queued := rest } },
        .next announcement)

/-- The consumer with this number drops its end, and with it what is queued. -/
def drop (board : Board) (consumer : Nat) : Board :=
  { board with
    feeds := board.feeds.modify consumer fun feed =>
      { feed with queued := [], listening := false } }

end Board

end Wamp
