import Wamp.Identifier

/-!
# Outcomes of an operation

Every operation of a component is a function from a state to an outcome.  The outcome always
holds the state afterwards, also when the operation is refused, and it holds the notes taken on
the way in their order.
-/

namespace Wamp

instance decidableEqExcept {Error Answer : Type} [DecidableEq Error] [DecidableEq Answer] :
    DecidableEq (Except Error Answer)
  | .ok left, .ok right => decidable_of_iff (left = right) (by simp)
  | .error left, .error right => decidable_of_iff (left = right) (by simp)
  | .ok _, .error _ | .error _, .ok _ => isFalse (by simp)

/-- What an operation draws from outside: a random identifier of the global scope, those drawn
after it for as long as they are refused, a random index, and the current time in ISO-8601. -/
structure Ambient where
  drawnId : Id
  laterIds : List Id := []
  drawnIndex : Nat
  now : String
  deriving DecidableEq, Repr

structure Outcome (State Error Note Answer : Type) where
  state : State
  answer : Except Error Answer
  notes : List Note := []

namespace Outcome

variable {State Error Note Answer : Type}

/-- A refusal keeps the state and takes no note. -/
def refused (state : State) (error : Error) : Outcome State Error Note Answer :=
  { state, answer := .error error }

def granted (state : State) (answer : Answer) (notes : List Note := []) :
    Outcome State Error Note Answer :=
  { state, answer := .ok answer, notes }

@[simp] theorem state_refused (state : State) (error : Error) :
    (refused state error : Outcome State Error Note Answer).state = state := rfl

@[simp] theorem answer_refused (state : State) (error : Error) :
    (refused state error : Outcome State Error Note Answer).answer = .error error := rfl

@[simp] theorem notes_refused (state : State) (error : Error) :
    (refused state error : Outcome State Error Note Answer).notes = [] := rfl

@[simp] theorem state_granted (state : State) (answer : Answer) (notes : List Note) :
    (granted state answer notes : Outcome State Error Note Answer).state = state := rfl

@[simp] theorem answer_granted (state : State) (answer : Answer) (notes : List Note) :
    (granted state answer notes : Outcome State Error Note Answer).answer = .ok answer := rfl

@[simp] theorem notes_granted (state : State) (answer : Answer) (notes : List Note) :
    (granted state answer notes : Outcome State Error Note Answer).notes = notes := rfl

end Outcome

end Wamp
