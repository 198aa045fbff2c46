import Wamp.Message.Policy
import Wamp.Identifier

/-!
# Registrations

A registration is one procedure together with the sessions that serve it, in the order in which
they joined.  Its invocation policy chooses the callee of each call; a round-robin registration
remembers in its cursor where the next callee stands.
-/

namespace Wamp

structure Registration where
  id : Id
  procedure : String
  policy : MatchPolicy
  invoke : InvocationPolicy
  callees : List Id
  created : String
  cursor : Nat := 0
  deriving DecidableEq, Repr

namespace Registration

/-- A further session that asks for the policy `requested` may join. -/
def admits (registration : Registration) (requested : InvocationPolicy) : Bool :=
  registration.invoke.shared && registration.invoke == requested

def join (registration : Registration) (session : Id) : Registration :=
  { registration with callees := registration.callees ++ [session] }

/-- Takes the first occurrence of a callee out.  The cursor keeps its callee, and falls back to
the front where none stands behind it. -/
def leave (registration : Registration) (session : Id) : Registration :=
  match registration.callees.idxOf? session with
  | none => registration
  | some position =>
    let callees := registration.callees.eraseIdx position
    let cursor :=
      if position < registration.cursor then registration.cursor - 1 else registration.cursor
    { registration with
      callees
      cursor := if callees.length ≤ cursor then 0 else cursor }

theorem callees_leave (registration : Registration) (session : Id) :
    (registration.leave session).callees = registration.callees.erase session := by
  rw [List.erase_eq_eraseIdx]
  unfold leave
  cases registration.callees.idxOf? session <;> rfl

/-- The position of the callee that serves the next call, with `draw` as the random choice. -/
def pick? (registration : Registration) (draw : Nat) : Option Nat :=
  let count := registration.callees.length
  if count = 0 then
    none
  else if count = 1 then
    some 0
  else
    match registration.invoke with
    | .single | .first => some 0
    | .last => some (count - 1)
    | .roundRobin => some (if count ≤ registration.cursor then 0 else registration.cursor)
    | .random => some (draw % count)

theorem lt_length_of_pick? {registration : Registration} {draw position : Nat}
    (h : registration.pick? draw = some position) : position < registration.callees.length := by
  unfold pick? at h
  dsimp only at h
  split at h
  next => contradiction
  next hcount =>
    split at h
    next => simp only [Option.some.injEq] at h; omega
    next =>
      have hpos : 0 < registration.callees.length := Nat.pos_of_ne_zero hcount
      have hmod := Nat.mod_lt draw hpos
      cases hinvoke : registration.invoke <;> simp only [hinvoke, Option.some.injEq] at h
      case roundRobin => split at h <;> omega
      all_goals omega

/-- Records that the callee at `position` was handed a call. -/
def commit (registration : Registration) (position : Nat) : Registration :=
  if registration.invoke = .roundRobin then { registration with cursor := position + 1 }
  else registration

theorem callees_commit (registration : Registration) (position : Nat) :
    (registration.commit position).callees = registration.callees := by
  unfold commit
  split <;> rfl

end Registration

end Wamp
