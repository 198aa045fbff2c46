import Wamp.Double.Scaling
import Wamp.Json
import Wamp.Text.Numeral

/-!
# Reading JSON numbers

A number without point and exponent is an integer if 64 bits hold it, with or without a sign.  Any
other number is a double, and so is minus zero.  Of the digits of a double the leading ones count
that 64 bits hold; they are scaled in steps, each of which is rounded.
-/

namespace Wamp.Json

/-- A number as it is written. -/
structure Numeral where
  negative : Bool
  whole : List Char
  fraction : Option (List Char)
  exponent : Option Int
  deriving DecidableEq, Repr

/-- The fraction at the front, if there is one; its point is followed by a digit. -/
def fraction? : List Char → Option (Option (List Char) × List Char)
  | '.' :: rest =>
    let digits := rest.takeWhile Char.isDigit
    if digits.isEmpty then none else some (some digits, rest.dropWhile Char.isDigit)
  | rest => some (none, rest)

/-- The exponent at the front, if there is one; it has a digit. -/
def exponent? : List Char → Option (Option Int × List Char)
  | [] => some (none, [])
  | e :: rest =>
    if e = 'e' || e = 'E' then
      let (negative, rest) := Text.signOf rest
      let digits := rest.takeWhile Char.isDigit
      let value : Int := Text.digitsValue digits
      if digits.isEmpty then none
      else some (some (if negative then -value else value), rest.dropWhile Char.isDigit)
    else
      some (none, e :: rest)

/-- The number at the front, and what follows it.  There is no needless zero in front of it. -/
def numeral? (chars : List Char) : Option (Numeral × List Char) :=
  let (negative, chars) := match chars with
    | '-' :: rest => (true, rest)
    | _ => (false, chars)
  let whole := chars.takeWhile Char.isDigit
  if whole.isEmpty || (whole.head? = some '0' && whole.length ≠ 1) then
    none
  else do
    let (fraction, rest) ← fraction? (chars.dropWhile Char.isDigit)
    let (exponent, rest) ← exponent? rest
    some ({ negative, whole, fraction, exponent }, rest)

/-- Reads digits on to a number as long as it has 64 bits; the digits that are left come second. -/
def leadingValue (value : Nat) : List Char → Nat × List Char
  | [] => (value, [])
  | c :: rest =>
    let next := 10 * value + (c.toNat - '0'.toNat)
    if next < UInt64.size then leadingValue next rest else (value, c :: rest)

/-- The double that a number writes; nothing if it is out of range. -/
def Numeral.double? (numeral : Numeral) : Option Double :=
  let fraction := numeral.fraction.getD []
  let (whole, wholeLeft) := leadingValue 0 numeral.whole
  let (digits, fractionLeft) := leadingValue whole fraction
  let places : Int := (fraction.length : Int) - fractionLeft.length
  Double.ofSteps? numeral.negative digits (wholeLeft.length - places + numeral.exponent.getD 0)

def Numeral.isWhole (numeral : Numeral) : Bool :=
  numeral.fraction.isNone && numeral.exponent.isNone

/-- The value that a number writes; nothing if it is out of range. -/
def Numeral.value? (numeral : Numeral) : Option Json :=
  let magnitude : Int := Text.digitsValue numeral.whole
  let fits : Bool :=
    if numeral.negative then 0 < magnitude && magnitude ≤ -Int64.minValue.toInt
    else magnitude < UInt64.size
  if numeral.isWhole && fits then
    some (.integer (if numeral.negative then -magnitude else magnitude))
  else
    numeral.double?.map .double

def number? (chars : List Char) : Option (Json × List Char) := do
  let (numeral, rest) ← numeral? chars
  let value ← numeral.value?
  some (value, rest)

end Wamp.Json
