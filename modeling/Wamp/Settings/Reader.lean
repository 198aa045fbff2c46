import Wamp.Double.Shortest
import Wamp.Json5.Tree
import Wamp.Settings
import Wamp.Text.Quoted
import Wamp.Text.Surrogate

/-!
# Reading settings

Settings are written as an object with any of the three fields, or as a list of the fields'
values in their order.  The whole text is taken apart first; then the fields are read from left
to right, and the first fault decides.  How texts, strings and numbers are written is the matter
of a reader; the settings at hand are read as JSON5.
-/

namespace Wamp

/-- A value of the wrong kind, as a message shows it. -/
inductive Found where
  | null
  | boolean (value : Bool)
  | integer (value : Int)
  | double (value : Double)
  | text (value : String)
  | list
  | object
  deriving DecidableEq, Repr

/-- Doubles in messages are written without an exponent. -/
def Found.numberLayout : Double.Layout where
  tie := .upwards
  positional _ := true

def Found.description : Found → String
  | .null => "unit value"
  | .boolean value => s!"boolean `{value}`"
  | .integer value => s!"integer `{value}`"
  | .double value => s!"floating point `{numberLayout.text value}`"
  | .text value => s!"string {Text.quoted value}"
  | .list => "sequence"
  | .object => "map"

/-- What is wrong with a text of settings. -/
inductive SettingsFault where
  | malformed
  | expectedSettings (found : Found)
  | expectedBoolean (found : Found)
  | unknownField (name : String)
  | duplicateField (name : String)
  | integerRange
  | notHexadecimal
  | notANumber
  | numberTooLarge
  | loneTrailSurrogate
  | missingTrailSurrogate
  | notATrailSurrogate
  deriving DecidableEq, Repr

namespace Settings

inductive Field where
  | autoDiscloseCaller
  | autoDisclosePublisher
  | metaEventQueueSize
  deriving DecidableEq, Repr

def Field.all : List Field :=
  [.autoDiscloseCaller, .autoDisclosePublisher, .metaEventQueueSize]

def Field.name : Field → String
  | .autoDiscloseCaller => "auto_disclose_caller"
  | .autoDisclosePublisher => "auto_disclose_publisher"
  | .metaEventQueueSize => "meta_event_queue_size"

def Field.ofName? (name : String) : Option Field :=
  Field.all.find? fun field => field.name == name

end Settings

def SettingsFault.message : SettingsFault → String
  | .malformed => "malformed JSON5 text"
  | .expectedSettings found =>
    s!"invalid type: {found.description}, expected struct RouterConfig"
  | .expectedBoolean found => s!"invalid type: {found.description}, expected a boolean"
  | .unknownField name =>
    let fields := ", ".intercalate (Settings.Field.all.map fun field => s!"`{field.name}`")
    s!"unknown field `{name}`, expected one of {fields}"
  | .duplicateField name => s!"duplicate field `{name}`"
  | .integerRange => "error parsing integer"
  | .notHexadecimal => "error parsing hex"
  | .notANumber => "error parsing number"
  | .numberTooLarge => "error parsing number: too large"
  | .loneTrailSurrogate => "unexpected unicode trail surrogate"
  | .missingTrailSurrogate => "missing unicode trail surrogate"
  | .notATrailSurrogate => "expecting unicode trail surrogate"

namespace Settings

open Json5 (Piece Tree)

/-- The characters that pieces write.  A lead surrogate needs a trail surrogate right after it;
the next piece, of whatever kind, is read as its number. -/
def characters : List Piece → Except SettingsFault (List Char)
  | [] => .ok []
  | .char c :: rest => (characters rest).map (c :: ·)
  | .escape c :: rest => (characters rest).map (Json5.unescaped c :: ·)
  | .octet value :: rest => (characters rest).map (Char.ofNat value :: ·)
  | .codeUnit value :: rest =>
    if Text.isTrail value then
      .error .loneTrailSurrogate
    else if Text.isLead value then
      match rest with
      | [] => .error .missingTrailSurrogate
      | piece :: rest =>
        match piece.hexadecimal? with
        | none => .error .notHexadecimal
        | some trail =>
          if Text.isTrail trail then (characters rest).map (Text.overlaid value trail :: ·)
          else .error .notATrailSurrogate
    else
      (characters rest).map (Char.ofNat value :: ·)

def textOf (pieces : List Piece) : Except SettingsFault String :=
  (characters pieces).map String.ofList

def isHexLiteral : List Char → Bool
  | '0' :: 'x' :: _ :: _ => true
  | '0' :: 'X' :: _ :: _ => true
  | _ => false

/-- The value of a hexadecimal literal, which has 32 bits. -/
def hexOf (written : List Char) : Except SettingsFault Nat :=
  match Text.hexadecimal? (written.drop 2) with
  | some value => if value < UInt32.size then .ok value else .error .notHexadecimal
  | none => .error .notHexadecimal

/-- A number without point and exponent counts as an integer, and so does a hexadecimal one. -/
def isInteger (written : List Char) : Bool :=
  !written.contains '.' &&
    (isHexLiteral written || !(written.contains 'e' || written.contains 'E')) &&
    !(["Infinity", "-Infinity", "NaN", "-NaN"].contains (String.ofList written))

/-- Integers have 64 bits and a sign. -/
def integerOf (written : List Char) : Except SettingsFault Int :=
  if isHexLiteral written then
    (hexOf written).map Int.ofNat
  else
    match Text.integer? written with
    | some value =>
      if Int64.minValue.toInt ≤ value ∧ value ≤ Int64.maxValue.toInt then .ok value
      else .error .integerRange
    | none => .error .integerRange

/-- The double that a number writes.  The infinities and what is not a number are read only
under these names; any other number has to be finite. -/
def doubleOf (written : List Char) : Except SettingsFault Double :=
  if written = "Infinity".toList then .ok (.infinite false)
  else if written = "-Infinity".toList then .ok (.infinite true)
  else if written = "NaN".toList ∨ written = "-NaN".toList then .ok .nan
  else if isHexLiteral written then
    (hexOf written).map fun value => Double.nearest false value 1
  else if written = "+Infinity".toList ∨ written = "+NaN".toList then
    .error .numberTooLarge
  else
    match Text.decimal? written with
    | none => .error .notANumber
    | some value => if value.isFinite then .ok value else .error .numberTooLarge

/-- What a number is by itself. -/
def numberOf (written : List Char) : Except SettingsFault Found :=
  if isInteger written then (integerOf written).map .integer
  else (doubleOf written).map .double

/-- How a notation is read: the tree of a text, if the text is well formed, and what its strings
and numbers stand for. -/
structure Reader where
  tree? : String → Option Tree
  text : List Piece → Except SettingsFault String
  number : List Char → Except SettingsFault Found
  double : List Char → Except SettingsFault Double

def json5 : Reader where
  tree? := Tree.ofText?
  text := textOf
  number := numberOf
  double := doubleOf

namespace Reader

variable (reader : Reader)

def found : Tree → Except SettingsFault Found
  | .null => .ok .null
  | .boolean value => .ok (.boolean value)
  | .number written => reader.number written
  | .text pieces => (reader.text pieces).map .text
  | .list _ => .ok .list
  | .object _ => .ok .object

def boolean : Tree → Except SettingsFault Bool
  | .boolean value => .ok value
  | other => do .error (.expectedBoolean (← reader.found other))

end Reader

def maxSize : Nat := UInt64.size - 1

/-- A size is read from any number, whose fraction is cut off and which is held within the
range of sizes. -/
def Reader.size (reader : Reader) : Tree → Except SettingsFault Nat
  | .number written => (reader.double written).map fun value => value.saturate maxSize
  | _ => .error .notANumber

structure Draft where
  autoDiscloseCaller : Option Bool := none
  autoDisclosePublisher : Option Bool := none
  metaEventQueueSize : Option Nat := none
  deriving DecidableEq, Repr

def Draft.holds (draft : Draft) : Field → Bool
  | .autoDiscloseCaller => draft.autoDiscloseCaller.isSome
  | .autoDisclosePublisher => draft.autoDisclosePublisher.isSome
  | .metaEventQueueSize => draft.metaEventQueueSize.isSome

def Draft.read (reader : Reader) (draft : Draft) (field : Field) (value : Tree) :
    Except SettingsFault Draft :=
  match field with
  | .autoDiscloseCaller => (reader.boolean value).map fun flag =>
    { draft with autoDiscloseCaller := some flag }
  | .autoDisclosePublisher => (reader.boolean value).map fun flag =>
    { draft with autoDisclosePublisher := some flag }
  | .metaEventQueueSize => (reader.size value).map fun size =>
    { draft with metaEventQueueSize := some size }

/-- An unknown or repeated name is a fault before its value is looked at. -/
def Draft.readMember (reader : Reader) (draft : Draft) (member : List Piece × Tree) :
    Except SettingsFault Draft := do
  let name ← reader.text member.1
  match Field.ofName? name with
  | none => .error (.unknownField name)
  | some field =>
    if draft.holds field then .error (.duplicateField name)
    else draft.read reader field member.2

/-- Fields that were not read have their default. -/
def Draft.settings (draft : Draft) : Settings :=
  let defaults : Settings := {}
  { autoDiscloseCaller := draft.autoDiscloseCaller.getD defaults.autoDiscloseCaller
    autoDisclosePublisher := draft.autoDisclosePublisher.getD defaults.autoDisclosePublisher
    metaEventQueueSize := draft.metaEventQueueSize.getD defaults.metaEventQueueSize }

namespace Reader

variable (reader : Reader)

/-- A list gives the fields in their order; what stands behind the last one is not looked at. -/
def settingsIn : Tree → Except SettingsFault Settings
  | .object members => (members.foldlM (Draft.readMember reader) {}).map Draft.settings
  | .list items =>
    ((Field.all.zip items).foldlM
      (fun draft (field, value) => Draft.read reader draft field value) {}).map Draft.settings
  | other => do .error (.expectedSettings (← reader.found other))

def settings (text : String) : Except SettingsFault Settings :=
  match reader.tree? text with
  | none => .error .malformed
  | some tree => reader.settingsIn tree

end Reader

def ofText (text : String) : Except SettingsFault Settings :=
  json5.settings text

end Settings

end Wamp
