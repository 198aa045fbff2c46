import Wamp.Text.Numeral
import Wamp.Unicode.Word

/-!
# Tokens of a JSON5 text

Strings and words are kept as pieces: a `\u` escape names a code unit of 16 bits, and two pieces
may have to be joined to one character.  Numbers are kept as they are written.  A word is an
identifier or one of the names `null`, `true`, `false`, `Infinity` and `NaN`; which of them it is
depends on its place.
-/

namespace Wamp.Json5

inductive Piece where
  /-- A character that stands for itself. -/
  | char (c : Char)
  /-- A character behind a backslash. -/
  | escape (c : Char)
  /-- The number of an `\x` escape. -/
  | octet (value : Nat)
  /-- The number of a `\u` escape. -/
  | codeUnit (value : Nat)
  deriving DecidableEq, Repr

/-- The number that a piece shows if its character or digits, without what introduces them, are
read in base sixteen. -/
def Piece.hexadecimal? : Piece → Option Nat
  | .char c => Text.hexDigit? c
  | .escape c => Text.hexDigit? c
  | .octet value => some value
  | .codeUnit value => some value

inductive Token where
  | openBrace
  | closeBrace
  | openBracket
  | closeBracket
  | colon
  | comma
  | number (text : List Char)
  | text (pieces : List Piece)
  | word (pieces : List Piece)
  deriving DecidableEq, Repr

def isLineTerminator (c : Char) : Bool :=
  c = '\n' || c = '\r' || c = '\u2028' || c = '\u2029'

/-- The blanks are five controls and spaces by name, the space separators, and the line
terminators. -/
def isBlank (c : Char) : Bool :=
  c = '\t' || c = '\x0b' || c = '\x0c' || c = ' ' || c = '\u00a0' || c = '\ufeff' ||
    c = '\u1680' || ('\u2000' ≤ c && c ≤ '\u200a') || c = '\u202f' || c = '\u205f' ||
    c = '\u3000' || isLineTerminator c

def isWordStart (c : Char) : Bool :=
  Unicode.isLetter c || c = '$' || c = '_'

def isWordPart (c : Char) : Bool :=
  isWordStart c || Unicode.isMark c || Unicode.isDigit c || c = '\u200c' || c = '\u200d'

/-- What a backslash before a character stands for, unless that is a line terminator, a digit
but zero, or one of the letters that introduce a number. -/
def unescaped (c : Char) : Char :=
  match c with
  | 'b' => '\x08'
  | 'f' => '\x0c'
  | 'n' => '\n'
  | 'r' => '\r'
  | 't' => '\t'
  | 'v' => '\x0b'
  | '0' => '\x00'
  | _ => c

def prepend (piece : Piece) (found : Option (List Piece × List Char)) :
    Option (List Piece × List Char) :=
  found.map fun (pieces, rest) => (piece :: pieces, rest)

/-- The pieces of a string up to its closing quote, and what follows the quote.  A backslash
before a line terminator continues the string on the next line. -/
def textBody (quote : Char) : List Char → Option (List Piece × List Char)
  | [] => none
  | '\\' :: 'u' :: a :: b :: c :: d :: rest =>
    match Text.hexadecimal? [a, b, c, d] with
    | none => none
    | some value => prepend (.codeUnit value) (textBody quote rest)
  | '\\' :: 'x' :: a :: b :: rest =>
    match Text.hexadecimal? [a, b] with
    | none => none
    | some value => prepend (.octet value) (textBody quote rest)
  | '\\' :: '\r' :: '\n' :: rest => textBody quote rest
  | '\\' :: c :: rest =>
    if isLineTerminator c then textBody quote rest
    else if c = 'u' || c = 'x' || (c.isDigit && c ≠ '0') then none
    else prepend (.escape c) (textBody quote rest)
  | c :: rest =>
    if c = quote then some ([], rest)
    else if c = '\\' || isLineTerminator c then none
    else prepend (.char c) (textBody quote rest)

/-- The pieces of a word from its second character on, and what follows the word. -/
def wordBody : List Char → List Piece × List Char
  | [] => ([], [])
  | '\\' :: 'u' :: a :: b :: c :: d :: rest =>
    match Text.hexadecimal? [a, b, c, d] with
    | none => ([], '\\' :: 'u' :: a :: b :: c :: d :: rest)
    | some value =>
      let (pieces, rest) := wordBody rest
      (.codeUnit value :: pieces, rest)
  | c :: rest =>
    if isWordPart c then
      let (pieces, rest) := wordBody rest
      (.char c :: pieces, rest)
    else
      ([], c :: rest)

/-- The length of an exponent at the front; zero if there is none. -/
def exponentLength (chars : List Char) : Nat :=
  match chars with
  | e :: rest =>
    if e = 'e' || e = 'E' then
      let (sign, digits) := match rest with
        | '+' :: digits | '-' :: digits => (1, digits)
        | _ => (0, rest)
      let count := (digits.takeWhile Char.isDigit).length
      if count = 0 then 0 else 1 + sign + count
    else
      0
  | [] => 0

/-- The length of the fraction and the exponent at the front. -/
def fractionLength (chars : List Char) : Nat :=
  match chars with
  | '.' :: rest =>
    let count := (rest.takeWhile Char.isDigit).length
    1 + count + exponentLength (rest.drop count)
  | _ => exponentLength chars

/-- The length of an unsigned number at the front; zero if there is none.  An integer part has no
needless zero in front, and a number without one has a digit after its point. -/
def unsignedLength (chars : List Char) : Nat :=
  match chars with
  | '0' :: rest =>
    let hexDigits := match rest with
      | 'x' :: digits | 'X' :: digits => (digits.takeWhile Text.isHexDigit).length
      | _ => 0
    if hexDigits = 0 then 1 + fractionLength rest else 2 + hexDigits
  | '.' :: rest =>
    if (rest.takeWhile Char.isDigit).isEmpty then 0 else fractionLength chars
  | _ =>
    let count := (chars.takeWhile Char.isDigit).length
    if count ≠ 0 then count + fractionLength (chars.drop count)
    else if "Infinity".toList.isPrefixOf chars then 8
    else if "NaN".toList.isPrefixOf chars then 3
    else 0

/-- The length of a number at the front; zero if there is none. -/
def numberLength (chars : List Char) : Nat :=
  match chars with
  | '+' :: rest | '-' :: rest =>
    let count := unsignedLength rest
    if count = 0 then 0 else 1 + count
  | _ => unsignedLength chars

/-- What follows a block comment, whose opening has been read. -/
def afterBlockComment : List Char → Option (List Char)
  | [] => none
  | '*' :: '/' :: rest => some rest
  | _ :: rest => afterBlockComment rest

/-- What follows a line comment; its line terminator is a blank. -/
def afterLineComment (chars : List Char) : List Char :=
  chars.dropWhile fun c => !isLineTerminator c

/-- The token at the front, and what follows it. -/
def token? (chars : List Char) : Option (Token × List Char) :=
  match chars with
  | '\x7b' :: rest => some (.openBrace, rest)
  | '\x7d' :: rest => some (.closeBrace, rest)
  | '[' :: rest => some (.openBracket, rest)
  | ']' :: rest => some (.closeBracket, rest)
  | ':' :: rest => some (.colon, rest)
  | ',' :: rest => some (.comma, rest)
  | '"' :: rest => (textBody '"' rest).map fun (pieces, rest) => (.text pieces, rest)
  | '\'' :: rest => (textBody '\'' rest).map fun (pieces, rest) => (.text pieces, rest)
  | '\\' :: 'u' :: _ =>
    let (pieces, rest) := wordBody chars
    if pieces.isEmpty then none else some (.word pieces, rest)
  | c :: rest =>
    if isWordStart c then
      let (pieces, rest) := wordBody rest
      some (.word (.char c :: pieces), rest)
    else
      let count := numberLength chars
      if count = 0 then none else some (.number (chars.take count), chars.drop count)
  | [] => none

/-- The tokens of a text of at most `fuel` characters; nothing if some part of it is none. -/
def tokens? : (fuel : Nat) → List Char → Option (List Token)
  | _, [] => some []
  | 0, _ :: _ => none
  | fuel + 1, c :: rest =>
    if isBlank c then
      tokens? fuel rest
    else
      match c, rest with
      | '/', '/' :: rest => tokens? fuel (afterLineComment rest)
      | '/', '*' :: rest => (afterBlockComment rest).bind (tokens? fuel)
      | _, _ =>
        match token? (c :: rest) with
        | none => none
        | some (token, rest) => (tokens? fuel rest).map (token :: ·)

end Wamp.Json5
