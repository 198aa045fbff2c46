import Wamp.Json5.Token

/-!
# Trees of a JSON5 text

A text is one value: an object or a list, with or without a comma after its last part, or a
scalar.  Numbers and the pieces of strings stay uninterpreted, since what is wrong with them shows
only when they are used.
-/

namespace Wamp.Json5

inductive Tree where
  | null
  | boolean (value : Bool)
  | number (text : List Char)
  | text (pieces : List Piece)
  | list (items : List Tree)
  | object (members : List (List Piece × Tree))
  deriving Repr, Inhabited

namespace Tree

/-- The value that a word names in the place of a value. -/
def ofWord? (pieces : List Piece) : Option Tree :=
  if pieces = "null".toList.map .char then some .null
  else if pieces = "true".toList.map .char then some (.boolean true)
  else if pieces = "false".toList.map .char then some (.boolean false)
  else if pieces = "Infinity".toList.map .char then some (.number "Infinity".toList)
  else if pieces = "NaN".toList.map .char then some (.number "NaN".toList)
  else none

mutual

/-- The value at the front of the tokens, and what follows it. -/
def value? : (fuel : Nat) → List Token → Option (Tree × List Token)
  | 0, _ => none
  | fuel + 1, tokens =>
    match tokens with
    | .number written :: rest => some (.number written, rest)
    | .text pieces :: rest => some (.text pieces, rest)
    | .word pieces :: rest => (ofWord? pieces).map fun tree => (tree, rest)
    | .openBracket :: .closeBracket :: rest => some (.list [], rest)
    | .openBracket :: rest =>
      (items? fuel rest).map fun (items, rest) => (.list items, rest)
    | .openBrace :: .closeBrace :: rest => some (.object [], rest)
    | .openBrace :: rest =>
      (members? fuel rest).map fun (members, rest) => (.object members, rest)
    | _ => none

/-- The items of a list up to its closing bracket, at least one. -/
def items? : (fuel : Nat) → List Token → Option (List Tree × List Token)
  | 0, _ => none
  | fuel + 1, tokens =>
    match value? fuel tokens with
    | some (item, .closeBracket :: rest) => some ([item], rest)
    | some (item, .comma :: .closeBracket :: rest) => some ([item], rest)
    | some (item, .comma :: rest) =>
      (items? fuel rest).map fun (items, rest) => (item :: items, rest)
    | _ => none

/-- The members of an object up to its closing brace, at least one. -/
def members? : (fuel : Nat) → List Token → Option (List (List Piece × Tree) × List Token)
  | 0, _ => none
  | fuel + 1, tokens =>
    let key? := match tokens with
      | .text key :: .colon :: rest | .word key :: .colon :: rest => some (key, rest)
      | _ => none
    match key? with
    | none => none
    | some (key, rest) =>
      match value? fuel rest with
      | some (value, .closeBrace :: rest) => some ([(key, value)], rest)
      | some (value, .comma :: .closeBrace :: rest) => some ([(key, value)], rest)
      | some (value, .comma :: rest) =>
        (members? fuel rest).map fun (members, rest) => ((key, value) :: members, rest)
      | _ => none

end

/-- The tree of a whole text; nothing if the text is malformed. -/
def ofText? (written : String) : Option Tree :=
  let chars := written.toList
  match tokens? chars.length chars with
  | none => none
  | some tokens =>
    match value? (2 * tokens.length + 1) tokens with
    | some (tree, []) => some tree
    | _ => none

end Tree

end Wamp.Json5
