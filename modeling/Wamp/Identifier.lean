/-!
# Identifiers

Identifiers of sessions, requests, subscriptions, registrations, invocations and publications
are natural numbers.  Those a router hands out stay within `1 .. 2 ^ 53`, so that they survive a
passage through a double.  Two scopes exist: the global scope, drawn at random, and the router
scope, counted upwards by one counter per broker and per dealer.
-/

namespace Wamp

abbrev Id := Nat

/-- The largest identifier handed out, `2 ^ 53`. -/
def maxId : UInt64 := 9007199254740992

/-- The identifier of the global scope that a random number stands for. -/
def Id.ofRandom (raw : Nat) : Id :=
  raw % maxId.toNat + 1

theorem Id.ofRandom_pos (raw : Nat) : 1 ≤ Id.ofRandom raw := by
  simp [Id.ofRandom]

theorem Id.ofRandom_le (raw : Nat) : Id.ofRandom raw ≤ maxId.toNat := by
  have hlt : raw % maxId.toNat < maxId.toNat := Nat.mod_lt _ (by decide)
  exact hlt

/-- Source of the router scope: the identifier handed out last, zero before the first. -/
structure IdCounter where
  last : UInt64 := 0
  deriving DecidableEq, Repr

/-- The counter wraps from the largest identifier back to one. -/
def IdCounter.successor (last : UInt64) : UInt64 :=
  if maxId ≤ last then 1 else last + 1

/-- The sum never overflows 64 bits. -/
theorem IdCounter.toNat_successor (last : UInt64) :
    (successor last).toNat = if maxId.toNat ≤ last.toNat then 1 else last.toNat + 1 := by
  unfold successor
  by_cases h : maxId ≤ last
  · rw [if_pos h, if_pos (UInt64.le_iff_toNat_le.mp h)]
    rfl
  · have hlt : last.toNat < maxId.toNat :=
      Nat.lt_of_not_le fun hle => h (UInt64.le_iff_toNat_le.mpr hle)
    rw [if_neg h, if_neg (Nat.not_le.mpr hlt), UInt64.toNat_add]
    have hmax : maxId.toNat = 2 ^ 53 := rfl
    exact Nat.mod_eq_of_lt (by simp; omega)

/-- The next identifier and the counter that has handed it out. -/
def IdCounter.next (counter : IdCounter) : Id × IdCounter :=
  let drawn := successor counter.last
  (drawn.toNat, { last := drawn })

end Wamp
