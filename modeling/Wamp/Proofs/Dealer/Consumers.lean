import Wamp.Proofs.Dealer.Announcing

/-!
# What the consumers of announcements see

Announcements are a by-product: no consumer, however slow, has a say in what the dealer answers
and in what becomes of it.  A consumer gets the announcements that found room in its queue, each
once and in their order, and the others never.
-/

namespace Wamp

namespace Dealer

def Note.announcement? : Note → Option Announcement
  | .announced announcement => some announcement
  | _ => none

def announcements (notes : List Note) : List Announcement :=
  notes.filterMap Note.announcement?

end Dealer

/-! ## The queue of one consumer -/

/-- What befalls the queue of a consumer: an announcement is offered to it, the consumer asks for
the next one, or the consumer leaves. -/
inductive Incident where
  | offered (announcement : Announcement)
  | asked
  | left
  deriving DecidableEq

namespace Feed

def undergo (feed : Feed) : Incident → Feed
  | .offered announcement => (feed.offer announcement).1
  | .asked => { feed with queued := feed.queued.tail }
  | .left => { feed with queued := [], listening := false }

/-- What the consumer is given. -/
def hands (feed : Feed) : Incident → List Announcement
  | .asked => feed.queued.head?.toList
  | .offered _ | .left => []

def handed (feed : Feed) : List Incident → List Announcement
  | [] => []
  | incident :: rest => feed.hands incident ++ (feed.undergo incident).handed rest

/-- Nothing is handed out while announcements are offered. -/
theorem handed_offered (feed : Feed) (announcements : List Announcement) :
    feed.handed (announcements.map .offered) = [] := by
  induction announcements generalizing feed with
  | nil => rfl
  | cons announcement rest ih => exact ih _

variable {feed : Feed}

theorem offer_of_room (hlistening : feed.listening = true)
    (hroom : feed.queued.length < feed.capacity) (announcement : Announcement) :
    feed.offer announcement = ({ feed with queued := feed.queued ++ [announcement] }, none) := by
  simp [offer, hlistening, Nat.not_le.mpr hroom]

theorem offer_of_full (hlistening : feed.listening = true)
    (hfull : feed.capacity ≤ feed.queued.length) (announcement : Announcement) :
    feed.offer announcement = (feed, some .queueFull) := by
  simp [offer, hlistening, hfull]

end Feed

/-! ## The queues of a board -/

namespace Board

variable (board : Board)

/-- What is offered to a consumer when announcements are posted: everything if it was enabled last,
and nothing if another one has taken over. -/
def offers (consumer : Nat) (announcements : List Announcement) : List Incident :=
  if consumer + 1 = board.feeds.length then announcements.map .offered else []

theorem length_feeds_post (announcement : Announcement) :
    (board.post announcement).1.feeds.length = board.feeds.length := by
  unfold post
  rcases List.eq_nil_or_concat board.feeds with hnone | ⟨earlier, last, hfeeds⟩
  · simp [hnone]
  · simp [hfeeds]

theorem queueSize_post (announcement : Announcement) :
    (board.post announcement).1.queueSize = board.queueSize := by
  unfold post
  cases board.feeds.getLast? <;> rfl

variable {board} {consumer : Nat} {feed : Feed}

theorem feeds_post (hfeed : board.feeds[consumer]? = some feed) (announcement : Announcement) :
    (board.post announcement).1.feeds[consumer]? =
      some ((board.offers consumer [announcement]).foldl Feed.undergo feed) := by
  unfold post offers
  rcases List.eq_nil_or_concat board.feeds with hnone | ⟨earlier, last, hfeeds⟩
  · simp [hnone] at hfeed
  · rw [List.concat_eq_append] at hfeeds
    rw [hfeeds] at hfeed
    simp only [hfeeds, List.getLast?_append, List.getLast?_singleton, Option.some_or,
      List.dropLast_concat, List.length_append, List.length_singleton, Nat.add_right_cancel_iff]
    by_cases hlast : consumer = earlier.length
    · subst hlast
      obtain rfl : last = feed := by simpa using hfeed
      simp [Feed.undergo]
    · have hlt : consumer < earlier.length := by
        have hbound := (List.getElem?_eq_some_iff.mp hfeed).1
        simp only [List.length_append, List.length_singleton] at hbound
        omega
      rw [List.getElem?_append_left hlt] at hfeed ⊢
      simpa [hlast] using hfeed

/-- Whether an announcement is dropped is up to the queue of the newest consumer. -/
theorem dropped_post (hfeed : board.feeds[consumer]? = some feed)
    (hnewest : consumer + 1 = board.feeds.length) (announcement : Announcement) :
    (board.post announcement).2 = (feed.offer announcement).2 := by
  have hlast : board.feeds.getLast? = some feed := by
    rw [List.getLast?_eq_getElem?, ← hnewest]
    exact hfeed
  simp only [post, hlast]

/-- Asking takes the first announcement off the queue, if there is one. -/
theorem take_eq {asking : Nat} (hfeed : board.feeds[asking]? = some feed) :
    board.take asking =
      ({ board with feeds := board.feeds.set asking (feed.undergo .asked) },
        match feed.queued with
        | [] => if asking + 1 = board.feeds.length then .empty else .closed
        | announcement :: _ => .next announcement) := by
  unfold take
  cases hqueued : feed.queued with
  | nil =>
      have hsame : feed.undergo .asked = feed := by
        rw [Feed.undergo, hqueued, List.tail_nil, ← hqueued]
      obtain ⟨hbound, rfl⟩ := List.getElem?_eq_some_iff.mp hfeed
      simp only [hfeed, hqueued, hsame, List.set_getElem_self]
  | cons announcement rest => simp only [hfeed, hqueued, Feed.undergo, List.tail_cons]

theorem feeds_take (hfeed : board.feeds[consumer]? = some feed) (asking : Nat) :
    (board.take asking).1.feeds[consumer]? =
      some (if asking = consumer then feed.undergo .asked else feed) := by
  split
  next hsame =>
    rw [hsame, board.take_eq hfeed]
    exact List.getElem?_set_self (List.getElem?_eq_some_iff.mp hfeed).1
  next hother =>
    cases hasked : board.feeds[asking]? with
    | none =>
        unfold take
        simp only [hasked, hfeed]
    | some other =>
        rw [board.take_eq hasked]
        exact (List.getElem?_set_ne hother).trans hfeed

theorem feeds_drop (hfeed : board.feeds[consumer]? = some feed) (leaving : Nat) :
    (board.drop leaving).feeds[consumer]? =
      some (if leaving = consumer then feed.undergo .left else feed) := by
  simp only [drop, List.getElem?_modify, hfeed]
  split <;> rfl

theorem feeds_enable (hfeed : board.feeds[consumer]? = some feed) :
    (board.enable?.getD board).feeds[consumer]? = some feed := by
  unfold enable?
  split
  next =>
    exact (List.getElem?_append_left (List.getElem?_eq_some_iff.mp hfeed).1).trans hfeed
  next => exact hfeed

end Board

namespace AnnouncingDealer

section Record

variable {board : Board} {consumer : Nat} {feed : Feed}

theorem record_cons (board : Board) (note : Dealer.Note) (rest : List Dealer.Note) :
    (record board (note :: rest)).1 =
      (record (note.announcement?.elim board fun announcement => (board.post announcement).1)
        rest).1 := by
  cases note <;> rfl

/-- What posting an announcement keeps, recording notes keeps. -/
theorem record_induction (Good : Board → Prop)
    (hpost : ∀ board announcement, Good board → Good (board.post announcement).1) {board : Board}
    (hgood : Good board) (notes : List Dealer.Note) : Good (record board notes).1 := by
  induction notes generalizing board with
  | nil => exact hgood
  | cons note rest ih =>
      rw [record_cons]
      apply ih
      cases note.announcement? with
      | none => exact hgood
      | some announcement => exact hpost board announcement hgood

theorem length_feeds_record (board : Board) (notes : List Dealer.Note) :
    (record board notes).1.feeds.length = board.feeds.length :=
  record_induction (fun kept => kept.feeds.length = board.feeds.length)
    (fun kept announcement hsame => (kept.length_feeds_post announcement).trans hsame) rfl notes

theorem queueSize_record (board : Board) (notes : List Dealer.Note) :
    (record board notes).1.queueSize = board.queueSize :=
  record_induction (fun kept => kept.queueSize = board.queueSize)
    (fun kept announcement hsame => (kept.queueSize_post announcement).trans hsame) rfl notes

theorem feeds_record (hfeed : board.feeds[consumer]? = some feed) (notes : List Dealer.Note) :
    (record board notes).1.feeds[consumer]? =
      some ((board.offers consumer (Dealer.announcements notes)).foldl Feed.undergo feed) := by
  induction notes generalizing board feed with
  | nil => simpa [record, Dealer.announcements, Board.offers] using hfeed
  | cons note rest ih =>
      rw [record_cons]
      cases hnote : note.announcement? with
      | none =>
          rw [Dealer.announcements, List.filterMap_cons_none hnote]
          exact ih hfeed
      | some announcement =>
          have hnotes : Dealer.announcements (note :: rest) =
              announcement :: Dealer.announcements rest := List.filterMap_cons_some hnote
          rw [Option.elim_some, ih (Board.feeds_post hfeed announcement), ← List.foldl_append,
            hnotes]
          simp only [Board.offers, board.length_feeds_post]
          split <;> rfl

end Record

/-! ## What a run makes of the queue of a consumer -/

/-- What an operation emits, whether anybody is there to receive it or not. -/
def emits (announcing : AnnouncingDealer) : Operation → List Announcement
  | .serve operation => Dealer.announcements (announcing.dealer.perform operation).notes
  | .enable | .take _ | .drop _ => []

/-- What befalls the queue of a consumer in an operation. -/
def incidents (consumer : Nat) (announcing : AnnouncingDealer) : Operation → List Incident
  | .serve operation => announcing.board.offers consumer (announcing.emits (.serve operation))
  | .enable => []
  | .take asking => if asking = consumer then [.asked] else []
  | .drop leaving => if leaving = consumer then [.left] else []

/-- What a consumer obtains in an operation. -/
def obtains (consumer : Nat) (announcing : AnnouncingDealer) : Operation → List Announcement
  | .take asking =>
    match (announcing.board.take asking).2 with
    | .next announcement => if asking = consumer then [announcement] else []
    | .empty | .closed => []
  | .serve _ | .enable | .drop _ => []

def emitted (announcing : AnnouncingDealer) (operations : List Operation) : List Announcement :=
  Run.collected perform emits announcing operations

def obtained (consumer : Nat) (announcing : AnnouncingDealer) (operations : List Operation) :
    List Announcement :=
  Run.collected perform (obtains consumer) announcing operations

section Cons

variable (consumer : Nat) (announcing : AnnouncingDealer) (operation : Operation)
  (rest : List Operation)

theorem emitted_cons :
    emitted announcing (operation :: rest) =
      announcing.emits operation ++ emitted (announcing.perform operation).state rest := rfl

theorem obtained_cons :
    obtained consumer announcing (operation :: rest) =
      announcing.obtains consumer operation ++
        obtained consumer (announcing.perform operation).state rest := rfl

end Cons

variable {announcing : AnnouncingDealer} {consumer : Nat} {feed : Feed}

theorem feeds_perform (hfeed : announcing.board.feeds[consumer]? = some feed)
    (operation : Operation) :
    (announcing.perform operation).state.board.feeds[consumer]? =
      some ((announcing.incidents consumer operation).foldl Feed.undergo feed) := by
  cases operation with
  | serve operation => exact feeds_record hfeed _
  | enable =>
      have hboard : (announcing.perform .enable).state.board =
          announcing.board.enable?.getD announcing.board := by
        simp only [perform, Outcome.state_granted, enable?]
        cases announcing.board.enable? <;> rfl
      rw [hboard]
      exact Board.feeds_enable hfeed
  | take asking =>
      refine (Board.feeds_take hfeed asking).trans ?_
      simp only [incidents]
      split <;> rfl
  | drop leaving =>
      refine (Board.feeds_drop hfeed leaving).trans ?_
      simp only [incidents]
      split <;> rfl

/-- A consumer obtains what its queue hands out. -/
theorem obtains_eq (hfeed : announcing.board.feeds[consumer]? = some feed)
    (operation : Operation) :
    announcing.obtains consumer operation =
      feed.handed (announcing.incidents consumer operation) := by
  cases operation with
  | serve operation =>
      simp only [obtains, incidents, Board.offers]
      split
      next => exact (Feed.handed_offered feed _).symm
      next => rfl
  | enable => rfl
  | take asking =>
      simp only [obtains, incidents]
      by_cases hsame : asking = consumer
      · rw [hsame, Board.take_eq hfeed]
        cases hqueued : feed.queued with
        | nil =>
            by_cases hlast : consumer + 1 = announcing.board.feeds.length <;>
              simp [Feed.handed, Feed.hands, hqueued, hlast]
        | cons announcement rest => simp [Feed.handed, Feed.hands, hqueued]
      · simp only [if_neg hsame]
        split <;> rfl
  | drop leaving =>
      simp only [obtains, incidents]
      split <;> rfl

/-- Consumers do not get another number, and only a new one takes over. -/
theorem length_feeds_perform {operation : Operation} (hother : operation ≠ .enable) :
    (announcing.perform operation).state.board.feeds.length =
      announcing.board.feeds.length := by
  cases operation with
  | serve operation => exact length_feeds_record announcing.board _
  | enable => contradiction
  | take asking =>
      cases hfeed : announcing.board.feeds[asking]? with
      | none => simp [perform, Board.take, hfeed]
      | some feed => simp [perform, Board.take_eq hfeed]
  | drop leaving => exact List.length_modify ..

theorem queueSize_perform (announcing : AnnouncingDealer) (operation : Operation) :
    (announcing.perform operation).state.board.queueSize = announcing.board.queueSize := by
  cases operation with
  | serve operation => exact queueSize_record announcing.board _
  | enable =>
      simp only [perform, Outcome.state_granted, enable?, Board.enable?]
      split <;> rfl
  | take asking =>
      simp only [perform, Outcome.state_granted, Board.take]
      split
      next => rfl
      next => split <;> rfl
  | drop leaving => rfl

theorem queueSize_final (announcing : AnnouncingDealer) (operations : List Operation) :
    (Run.final perform announcing operations).board.queueSize = announcing.board.queueSize :=
  Run.final_induction
    (fun reached : AnnouncingDealer => reached.board.queueSize = announcing.board.queueSize)
    (fun reached operation hsame => (reached.queueSize_perform operation).trans hsame) rfl
    operations

theorem capacity_le_iff {board : Board} :
    board.capacity ≤ Board.maxCapacity ↔ board.queueSize ≤ Board.maxCapacity := by
  have hone : 1 ≤ Board.maxCapacity := by decide
  rw [Board.capacity, Nat.max_le]
  exact and_iff_left hone

/-- A new consumer starts with an empty queue. -/
theorem board_enable (hsize : announcing.board.queueSize ≤ Board.maxCapacity) :
    (announcing.perform .enable).state.board =
      { announcing.board with
        feeds :=
          announcing.board.feeds ++ [{ capacity := max announcing.board.queueSize 1 }] } := by
  have henabled : announcing.board.enable? = some { announcing.board with
      feeds := announcing.board.feeds ++ [{ capacity := announcing.board.capacity }] } :=
    if_pos (capacity_le_iff.mpr hsize)
  simp only [perform, enable?, henabled, Option.map_some, Option.getD_some,
    Outcome.state_granted, Board.capacity]

/-- The number of a consumer that is enabled after a run, and its queue. -/
theorem feeds_enabled {board : Board} (hsize : board.queueSize ≤ Board.maxCapacity)
    (earlier : List Operation) :
    let start := Run.final perform { board } earlier
    let enabled := (start.perform .enable).state
    enabled.board.feeds[start.board.feeds.length]? =
        some { capacity := max board.queueSize 1 } ∧
      start.board.feeds.length + 1 = enabled.board.feeds.length := by
  intro start enabled
  have hqueueSize : start.board.queueSize = board.queueSize := queueSize_final { board } earlier
  have hboard := board_enable (hqueueSize ▸ hsize : start.board.queueSize ≤ _)
  simp only [enabled, hboard, hqueueSize, List.getElem?_concat_length, List.length_append,
    List.length_singleton, and_self]

/-! ## Answers -/

/-- What an operation of the dealer is answered; consumers are answered nothing. -/
def answers (announcing : AnnouncingDealer) :
    Operation → List (Except DealerError (List Routed))
  | .serve operation => [(announcing.perform (.serve operation)).answer]
  | .enable | .take _ | .drop _ => []

def answered (announcing : AnnouncingDealer) (operations : List Operation) :
    List (Except DealerError (List Routed)) :=
  Run.collected perform answers announcing operations

end AnnouncingDealer

end Wamp
