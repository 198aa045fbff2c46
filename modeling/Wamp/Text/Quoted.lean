import Wamp.Unicode.Unprintable

/-!
# Quoted text

Text shown inside a message stands in double quotes.  Quotes, backslashes and the common controls
get an escape of their own; every other character that does not print on its own is written by
its number in braces.
-/

namespace Wamp.Text

def escaped (c : Char) : List Char :=
  match c with
  | '\x00' => ['\\', '0']
  | '\t' => ['\\', 't']
  | '\r' => ['\\', 'r']
  | '\n' => ['\\', 'n']
  | '\\' => ['\\', '\\']
  | '"' => ['\\', '"']
  | _ =>
    if Unicode.isExtender c || Unicode.isUnprintable c then
      ['\\', 'u', '\x7b'] ++ Nat.toDigits 16 c.toNat ++ ['\x7d']
    else
      [c]

def quoted (text : String) : String :=
  String.ofList ('"' :: (text.toList.flatMap escaped ++ ['"']))

end Wamp.Text
