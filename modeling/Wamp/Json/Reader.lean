import Wamp.Json.Number
import Wamp.Text.Surrogate

/-!
# Reading JSON

Of several members with one key the last counts.
-/

namespace Wamp.Json

def skipBlanks (chars : List Char) : List Char :=
  chars.dropWhile fun c => c = ' ' || c = '\t' || c = '\n' || c = '\r'

/-- What a backslash before a character stands for. -/
def unescaped? (c : Char) : Option Char :=
  match c with
  | '"' | '\\' | '/' => some c
  | 'b' => some '\x08'
  | 'f' => some '\x0c'
  | 'n' => some '\n'
  | 'r' => some '\r'
  | 't' => some '\t'
  | _ => none

/-- The characters of a string up to its closing quote, and what follows the quote. -/
def textBody? : List Char → Option (List Char × List Char)
  | [] => none
  | '\\' :: 'u' :: a :: b :: c :: d :: rest =>
    match Text.hexadecimal? [a, b, c, d] with
    | none => none
    | some codeUnit =>
      if Text.isTrail codeUnit then
        none
      else if Text.isLead codeUnit then
        match rest with
        | '\\' :: 'u' :: a :: b :: c :: d :: rest =>
          match Text.hexadecimal? [a, b, c, d] with
          | none => none
          | some trail =>
            if Text.isTrail trail then
              (textBody? rest).map fun (body, rest) => (Text.joined codeUnit trail :: body, rest)
            else
              none
        | _ => none
      else
        (textBody? rest).map fun (body, rest) => (Char.ofNat codeUnit :: body, rest)
  | '\\' :: c :: rest =>
    match unescaped? c with
    | none => none
    | some c => (textBody? rest).map fun (body, rest) => (c :: body, rest)
  | c :: rest =>
    if c = '"' then some ([], rest)
    else if c.toNat < 0x20 || c = '\\' then none
    else (textBody? rest).map fun (body, rest) => (c :: body, rest)

mutual

/-- The value at the front of the characters, and what follows it. -/
def value? : (fuel : Nat) → List Char → Option (Json × List Char)
  | 0, _ => none
  | fuel + 1, chars =>
    match skipBlanks chars with
    | '\x7b' :: rest =>
      match skipBlanks rest with
      | '\x7d' :: rest => some (.object [], rest)
      | rest => (members? fuel rest).map fun (members, rest) => (ofMembers members, rest)
    | '[' :: rest =>
      match skipBlanks rest with
      | ']' :: rest => some (.list [], rest)
      | rest => (items? fuel rest).map fun (items, rest) => (.list items, rest)
    | '"' :: rest =>
      (textBody? rest).map fun (characters, rest) => (.text (String.ofList characters), rest)
    | 'n' :: 'u' :: 'l' :: 'l' :: rest => some (.null, rest)
    | 't' :: 'r' :: 'u' :: 'e' :: rest => some (.boolean true, rest)
    | 'f' :: 'a' :: 'l' :: 's' :: 'e' :: rest => some (.boolean false, rest)
    | rest => number? rest

/-- The items of a list up to its closing bracket, at least one. -/
def items? : (fuel : Nat) → List Char → Option (List Json × List Char)
  | 0, _ => none
  | fuel + 1, chars =>
    match value? fuel chars with
    | none => none
    | some (item, rest) =>
      match skipBlanks rest with
      | ',' :: rest => (items? fuel rest).map fun (items, rest) => (item :: items, rest)
      | ']' :: rest => some ([item], rest)
      | _ => none

/-- The members of an object up to its closing brace, at least one. -/
def members? : (fuel : Nat) → List Char → Option (List (String × Json) × List Char)
  | 0, _ => none
  | fuel + 1, chars =>
    match skipBlanks chars with
    | '"' :: rest =>
      match textBody? rest with
      | none => none
      | some (key, rest) =>
        match skipBlanks rest with
        | ':' :: rest =>
          match value? fuel rest with
          | none => none
          | some (value, rest) =>
            let member := (String.ofList key, value)
            match skipBlanks rest with
            | ',' :: rest =>
              (members? fuel rest).map fun (members, rest) => (member :: members, rest)
            | '\x7d' :: rest => some ([member], rest)
            | _ => none
        | _ => none
    | _ => none

end

def ofText? (written : String) : Option Json :=
  let chars := written.toList
  match value? (2 * chars.length + 1) chars with
  | none => none
  | some (value, rest) => if (skipBlanks rest).isEmpty then some value else none

end Wamp.Json
