import Wamp.Double

/-!
# Shortest decimal text of a double

The digits written are the fewest that read back as the same double.  Every double covers an
interval of numbers that round to it, both ends included exactly when its significand is even.
For one digit, two digits and so on, the two neighbours of the value on the decimal grid of that
many digits are tried; the first grid with a neighbour inside the interval decides, and of two
such neighbours the nearer one is taken.
-/

namespace Wamp.Double

structure Decimal where
  digits : Nat
  exponent : Int
  deriving DecidableEq, Repr

/-- Which of two equally near neighbours is written. -/
inductive Tie where
  | toEven
  | upwards
  deriving DecidableEq, Repr

/-- A positive double and the interval that rounds to it, all in quarters of the value's last
binary place. -/
structure Interval where
  value : Nat
  low : Nat
  high : Nat
  closed : Bool
  quarter : Int
  deriving DecidableEq, Repr

/-- Below a power of two the neighbouring doubles lie half as far apart. -/
def Interval.around (significand : Nat) (exponent : Int) : Interval where
  value := 4 * significand
  low :=
    if significand = fullSignificand ∧ leastExponent < exponent then 4 * significand - 1
    else 4 * significand - 2
  high := 4 * significand + 2
  closed := significand % 2 = 0
  quarter := exponent - 2

/-- The neighbour of the value among the multiples of `10 ^ place`, if one of the two next to it
lies in the interval. -/
def Interval.neighbour? (interval : Interval) (tie : Tie) (place : Int) : Option Nat :=
  let step := Nat.pow 10 place.toNat <<< (-interval.quarter).toNat
  let unit := Nat.pow 10 (-place).toNat <<< interval.quarter.toNat
  let value := interval.value * unit
  let inside (candidate : Nat) : Bool :=
    if interval.closed then
      interval.low * unit ≤ candidate * step && candidate * step ≤ interval.high * unit
    else
      interval.low * unit < candidate * step && candidate * step < interval.high * unit
  let below := value / step
  let beneath := value - below * step
  let above := (below + 1) * step - value
  match inside below && 0 < below, inside (below + 1) with
  | false, false => none
  | true, false => some below
  | false, true => some (below + 1)
  | true, true =>
    if beneath < above then some below
    else if above < beneath then some (below + 1)
    else match tie with
      | .toEven => some (if below % 2 = 0 then below else below + 1)
      | .upwards => some (below + 1)

/-- The place of the decimal point: the value lies below `10 ^ point` and not below
`10 ^ (point - 1)`.  No positive double lies below `10 ^ (-324)`. -/
def pointOf (significand : Nat) (exponent : Int) : Int :=
  let scaled := (significand * Nat.pow 10 324) <<< exponent.toNat >>> (-exponent).toNat
  ((Nat.toDigits 10 scaled).length : Int) - 324

/-- Drops up to `fuel` zeros at the end of the digits. -/
def Decimal.trimmed (decimal : Decimal) : (fuel : Nat) → Decimal
  | 0 => decimal
  | fuel + 1 =>
    if decimal.digits % 10 = 0 then
      trimmed { digits := decimal.digits / 10, exponent := decimal.exponent + 1 } fuel
    else
      decimal

/-- The fewest digits of a positive finite double; seventeen always suffice. -/
def shortest (tie : Tie) (significand : Nat) (exponent : Int) : Decimal :=
  let interval := Interval.around significand exponent
  let point := pointOf significand exponent
  let found := (List.range 17).findSome? fun count =>
    let place := point - (count + 1 : Nat)
    (interval.neighbour? tie place).map fun digits => ({ digits, exponent := place } : Decimal)
  (found.getD { digits := significand, exponent }).trimmed 17

/-- How the digits of a double are laid out. -/
structure Layout where
  tie : Tie
  /-- Whether a number with its decimal point at this place is written without an exponent. -/
  positional : Int → Bool

def positionalText (digits : List Char) (point : Int) : List Char :=
  let count : Int := digits.length
  if point ≤ 0 then
    '0' :: '.' :: (List.replicate (-point).toNat '0' ++ digits)
  else if count ≤ point then
    digits ++ List.replicate (point - count).toNat '0' ++ ['.', '0']
  else
    digits.take point.toNat ++ '.' :: digits.drop point.toNat

/-- The exponent always has a sign. -/
def scientificText (digits : List Char) (point : Int) : List Char :=
  let fraction := if digits.length ≤ 1 then [] else '.' :: digits.drop 1
  let exponent := point - 1
  let sign := if exponent < 0 then '-' else '+'
  digits.take 1 ++ fraction ++ 'e' :: sign :: Nat.toDigits 10 exponent.natAbs

def Layout.magnitude (layout : Layout) (significand : Nat) (exponent : Int) : List Char :=
  if significand = 0 then
    ['0', '.', '0']
  else
    let decimal := shortest layout.tie significand exponent
    let digits := Nat.toDigits 10 decimal.digits
    let point : Int := digits.length + decimal.exponent
    if layout.positional point then positionalText digits point
    else scientificText digits point

/-- A finite number always shows a decimal point or an exponent. -/
def Layout.text (layout : Layout) : Double → String
  | .nan => "NaN"
  | .infinite negative => if negative then "-inf" else "inf"
  | .finite negative significand exponent =>
    let magnitude := layout.magnitude significand exponent
    String.ofList (if negative then '-' :: magnitude else magnitude)

end Wamp.Double
