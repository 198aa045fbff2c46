/-!
# Doubles

A double is either a finite value `± significand * 2 ^ exponent`, an infinity, or not a number.
Finite values are kept in the form of the binary64 format: the significand has at most 53 bits,
the exponent is at least `-1074`, and a significand below `2 ^ 52` occurs only with that least
exponent.  `Double.nearest` rounds an exact quotient to this form, ties to the even significand.
-/

namespace Wamp

inductive Double where
  | finite (negative : Bool) (significand : Nat) (exponent : Int)
  | infinite (negative : Bool)
  | nan
  deriving DecidableEq, Repr

namespace Double

def leastExponent : Int := -1074

def greatestExponent : Int := 971

/-- The least significand of full width, `2 ^ 52`. -/
def fullSignificand : Nat := 1 <<< 52

def zero (negative : Bool) : Double :=
  .finite negative 0 leastExponent

/-- The quotient rounded to a natural number, a half to the even neighbour. -/
def roundQuotient (num den : Nat) : Nat :=
  let quotient := num / den
  let twice := 2 * (num % den)
  if den < twice ∨ (twice = den ∧ quotient % 2 = 1) then quotient + 1 else quotient

/-- The quotient `num / den` in units of `2 ^ exponent`, again as a quotient. -/
def inUnits (num den : Nat) (exponent : Int) : Nat × Nat :=
  (num <<< (-exponent).toNat, den <<< exponent.toNat)

/-- The exponent at which the integer part of `num / den` has 53 bits, or the least one. -/
def exponentOf (num den : Nat) : Int :=
  let guess : Int := (num.log2 : Int) - (den.log2 : Int) - 53
  let (scaled, unit) := inUnits num den guess
  let exponent := if 2 * fullSignificand ≤ scaled / unit then guess + 1 else guess
  max exponent leastExponent

/-- The double next to the quotient `num / den` of a positive denominator. -/
def nearest (negative : Bool) (num den : Nat) : Double :=
  if num = 0 then
    zero negative
  else
    let exponent := exponentOf num den
    let (scaled, unit) := inUnits num den exponent
    let significand := roundQuotient scaled unit
    let (significand, exponent) :=
      if significand = 2 * fullSignificand then (fullSignificand, exponent + 1)
      else (significand, exponent)
    if greatestExponent < exponent then .infinite negative
    else .finite negative significand exponent

/-- No finite double reaches `10 ^ farExponent`, and half the least positive one lies above
`10 ^ (-farExponent)`. -/
def farExponent : Int := 400

/-- The double next to `± digits * 10 ^ exponent`. -/
def ofDecimal (negative : Bool) (digits : Nat) (exponent : Int) : Double :=
  let point : Int := ((Nat.toDigits 10 digits).length : Int) + exponent
  if digits = 0 ∨ point < -farExponent then
    zero negative
  else if farExponent < point then
    .infinite negative
  else
    nearest negative (digits * Nat.pow 10 exponent.toNat) (Nat.pow 10 (-exponent).toNat)

def isFinite : Double → Bool
  | .finite .. => true
  | _ => false

/-- The value with its fraction cut off, held within `0 .. limit`; zero for what is not a
number. -/
def saturate (limit : Nat) : Double → Nat
  | .nan => 0
  | .infinite negative => if negative then 0 else limit
  | .finite negative significand exponent =>
    if negative then 0
    else min limit (significand <<< exponent.toNat >>> (-exponent).toNat)

theorem saturate_le (limit : Nat) (value : Double) : value.saturate limit ≤ limit := by
  cases value with
  | finite negative significand exponent =>
    cases negative with
    | false => exact Nat.min_le_left _ _
    | true => exact Nat.zero_le _
  | infinite negative => cases negative <;> simp [saturate]
  | nan => exact Nat.zero_le _

end Double

end Wamp
