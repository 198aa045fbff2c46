import Wamp.Double

/-!
# Numerals

Reading the numbers that a row of characters writes: natural numbers in base ten and sixteen,
integers with a sign, and decimals with a fraction and an exponent.
-/

namespace Wamp.Text

def hexDigit? (c : Char) : Option Nat :=
  if c.isDigit then some (c.toNat - '0'.toNat)
  else if 'a' ≤ c && c ≤ 'f' then some (c.toNat - 'a'.toNat + 10)
  else if 'A' ≤ c && c ≤ 'F' then some (c.toNat - 'A'.toNat + 10)
  else none

def isHexDigit (c : Char) : Bool :=
  (hexDigit? c).isSome

def hexadecimal? (digits : List Char) : Option Nat :=
  digits.foldlM (fun value c => (hexDigit? c).map fun digit => 16 * value + digit) 0

def digitsValue (digits : List Char) : Nat :=
  digits.foldl (fun value c => 10 * value + (c.toNat - '0'.toNat)) 0

/-- The value of a row of decimal digits, which must not be empty. -/
def natural? (written : List Char) : Option Nat :=
  if !written.isEmpty && written.all Char.isDigit then some (digitsValue written) else none

/-- Whether there is a minus in front, and what follows the sign; a plus says nothing. -/
def signOf : List Char → Bool × List Char
  | '-' :: rest => (true, rest)
  | '+' :: rest => (false, rest)
  | rest => (false, rest)

def integer? (written : List Char) : Option Int :=
  let (negative, digits) := signOf written
  (natural? digits).map fun value => if negative then -value else value

/-- The exponent at the end of a decimal. -/
def exponent? : List Char → Option Int
  | [] => some 0
  | e :: rest => if e = 'e' ∨ e = 'E' then integer? rest else none

/-- The double next to a decimal.  There is a digit before or after the point, and the point and
the exponent may be missing. -/
def decimal? (written : List Char) : Option Double :=
  let (negative, body) := signOf written
  let whole := body.takeWhile Char.isDigit
  let rest := body.dropWhile Char.isDigit
  let (fraction, rest) := match rest with
    | '.' :: rest => (rest.takeWhile Char.isDigit, rest.dropWhile Char.isDigit)
    | _ => ([], rest)
  if whole.isEmpty && fraction.isEmpty then
    none
  else
    (exponent? rest).map fun exponent =>
      Double.ofDecimal negative (digitsValue (whole ++ fraction)) (exponent - fraction.length)

end Wamp.Text
