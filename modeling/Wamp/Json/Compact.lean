import Wamp.Json
import Wamp.Double.Shortest

/-!
# Compact text of a JSON value

No spaces; the members of an object in ascending order of their keys; in strings only quotes,
backslashes and controls are escaped; doubles as their shortest digits, with a signed exponent
from `10 ^ 16` upwards and below `10 ^ (-5)`.
-/

namespace Wamp.Json

def numberLayout : Double.Layout where
  tie := .toEven
  positional point := -5 < point && point ≤ 16

def escaped (c : Char) : List Char :=
  match c with
  | '"' => ['\\', '"']
  | '\\' => ['\\', '\\']
  | '\x08' => ['\\', 'b']
  | '\x0c' => ['\\', 'f']
  | '\n' => ['\\', 'n']
  | '\r' => ['\\', 'r']
  | '\t' => ['\\', 't']
  | _ =>
    if c.toNat < 0x20 then
      ['\\', 'u', '0', '0'] ++ [Nat.digitChar (c.toNat / 16), Nat.digitChar (c.toNat % 16)]
    else
      [c]

def quoted (value : String) : List Char :=
  '"' :: (value.toList.flatMap escaped ++ ['"'])

mutual

def chars : Json → List Char
  | .null => "null".toList
  | .boolean value => (if value then "true" else "false").toList
  | .integer value => (toString value).toList
  | .double value => (numberLayout.text value).toList
  | .text value => quoted value
  | .list [] => ['[', ']']
  | .list (item :: rest) => '[' :: (chars item ++ itemChars rest)
  | .object [] => ['{', '}']
  | .object ((key, value) :: rest) => '{' :: (quoted key ++ ':' :: (chars value ++ memberChars rest))

/-- The items after the first, and the closing bracket. -/
def itemChars : List Json → List Char
  | [] => [']']
  | item :: rest => ',' :: (chars item ++ itemChars rest)

/-- The members after the first, and the closing brace. -/
def memberChars : List (String × Json) → List Char
  | [] => ['}']
  | (key, value) :: rest => ',' :: (quoted key ++ ':' :: (chars value ++ memberChars rest))

end

def compact (value : Json) : String :=
  String.ofList value.chars

end Wamp.Json
