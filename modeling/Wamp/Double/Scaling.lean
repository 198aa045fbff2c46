import Wamp.Double

/-!
# Scaling by powers of ten

A decimal can be read in steps: its digits become a double, which is then multiplied or divided by
powers of ten that are doubles themselves.  Every step is rounded, so the result may be a
neighbour of the double next to the decimal.  With digits below `2 ^ 53` and a power of at most
`10 ^ 22` it is that double, since only the last step rounds.
-/

namespace Wamp.Double

/-- The double next to a finite double times the quotient of two positive numbers. -/
def scaled (num den : Nat) : Double → Double
  | .finite negative significand exponent =>
    nearest negative ((num * significand) <<< exponent.toNat) (den <<< (-exponent).toNat)
  | other => other

def isZero : Double → Bool
  | .finite _ significand _ => significand = 0
  | _ => false

/-- The greatest power of ten within the range of doubles. -/
def greatestPower : Nat := 308

/-- The double next to `10 ^ power`, which is a whole number. -/
def powerOfTen (power : Nat) : Nat :=
  match nearest false (Nat.pow 10 power) 1 with
  | .finite _ significand exponent => significand <<< exponent.toNat >>> (-exponent).toNat
  | _ => 0

/-- The double times `10 ^ power`; nothing if that is out of range. -/
def raised? (value : Double) (power : Nat) : Option Double :=
  if value.isZero then
    some value
  else if greatestPower < power then
    none
  else
    let product := scaled (powerOfTen power) 1 value
    if product.isFinite then some product else none

/-- The double divided by `10 ^ power`: first by the greatest power, as often as what is left of
the power exceeds it, then by the rest. -/
def lowered (value : Double) (power : Nat) : Double :=
  if power ≤ greatestPower then
    scaled 1 (powerOfTen power) value
  else if value.isZero then
    value
  else
    lowered (scaled 1 (powerOfTen greatestPower) value) (power - greatestPower)
termination_by power
decreasing_by
  unfold greatestPower at *
  omega

/-- The decimal `± digits * 10 ^ exponent` read in steps; nothing if it is out of range. -/
def ofSteps? (negative : Bool) (digits : Nat) (exponent : Int) : Option Double :=
  let value := nearest negative digits 1
  if 0 ≤ exponent then raised? value exponent.toNat
  else some (lowered value (-exponent).toNat)

end Wamp.Double
