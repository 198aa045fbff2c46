import Wamp.Dealer.Announcing
import Wamp.Proofs.Dealer.Serving

/-!
# Runs of a dealer with consumers

Consumers of the announcements come, take what is queued for them, and go between the operations
of the dealer.  What the dealer itself goes through is the run of the operations that it serves.
-/

namespace Wamp.AnnouncingDealer

inductive Operation where
  | serve (operation : Dealer.Operation)
  | enable
  | take (consumer : Nat)
  | drop (consumer : Nat)

/-- A consumer whose queue is not admitted leaves everything as it is. -/
def perform (announcing : AnnouncingDealer) : Operation → Reply (List Routed)
  | .serve operation => absorb announcing.board (announcing.dealer.perform operation)
  | .enable => .granted (announcing.enable?.getD announcing) []
  | .take consumer =>
    .granted { announcing with board := (announcing.board.take consumer).1 } []
  | .drop consumer => .granted { announcing with board := announcing.board.drop consumer } []

def Operation.served? : Operation → Option Dealer.Operation
  | .serve operation => some operation
  | .enable | .take _ | .drop _ => none

/-- The operations of a run that concern the dealer itself. -/
def served (operations : List Operation) : List Dealer.Operation :=
  operations.filterMap Operation.served?

theorem dealer_perform (announcing : AnnouncingDealer) (operation : Operation) :
    (announcing.perform operation).state.dealer =
      operation.served?.elim announcing.dealer fun served =>
        (announcing.dealer.perform served).state := by
  cases operation with
  | serve operation => rfl
  | enable =>
      simp only [perform, Outcome.state_granted, enable?, Operation.served?]
      cases announcing.board.enable? <;> rfl
  | take consumer => rfl
  | drop consumer => rfl

/-- A dealer sends something for nothing but what it serves. -/
theorem served_of_sent {announcing : AnnouncingDealer} {operation : Operation}
    {routed : List Routed} {sent : Routed}
    (hanswer : (announcing.perform operation).answer = .ok routed) (hsent : sent ∈ routed) :
    ∃ served, operation = .serve served ∧
      (announcing.dealer.perform served).answer = .ok routed := by
  cases operation with
  | serve served => exact ⟨served, rfl, hanswer⟩
  | enable | take consumer | drop consumer =>
      obtain rfl := Except.ok.inj hanswer
      simp at hsent

/-- Consumers have no say in what becomes of the dealer. -/
theorem dealer_final (announcing : AnnouncingDealer) (operations : List Operation) :
    (Run.final perform announcing operations).dealer =
      Run.final Dealer.perform announcing.dealer (served operations) :=
  Run.final_part dealer Operation.served? (fun _ => True) (fun _ _ => id)
    (fun announcing operation _ => announcing.dealer_perform operation) trivial operations

def drawnIds (board : Board) (operations : List Operation) : List Id :=
  Run.drawn perform (fun announcing => announcing.dealer.ids) { board } operations

theorem drawnIds_eq (board : Board) (operations : List Operation) :
    drawnIds board operations = Dealer.drawnIds (served operations) :=
  Run.drawn_part dealer Operation.served? (fun _ => True) (fun _ _ => id)
    (fun announcing operation _ => announcing.dealer_perform operation) Dealer.ids trivial
    operations

end Wamp.AnnouncingDealer
