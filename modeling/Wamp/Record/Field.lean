import Wamp.Json

/-!
# Fields of a record

A record is a JSON object.  An absent field, and one of the wrong kind, counts as empty: zero, no
text, no items, no members, or false.
-/

namespace Wamp.Json

def field? (record : Json) (key : String) : Option Json :=
  match record with
  | .object members => (members.find? fun member => member.1 == key).map Prod.snd
  | _ => none

def field (record : Json) (key : String) : Json :=
  (record.field? key).getD .null

def natural : Json → Nat
  | .integer value => value.toNat
  | _ => 0

def string (value : Json) : String :=
  value.text?.getD ""

def items : Json → List Json
  | .list items => items
  | _ => []

def dict : Json → Dict
  | .object members => members.foldl (fun dict (key, value) => dict.insert key value) ∅
  | _ => ∅

def naturalField (record : Json) (key : String) : Nat :=
  (record.field key).natural

def stringField (record : Json) (key : String) : String :=
  (record.field key).string

def itemsField (record : Json) (key : String) : List Json :=
  (record.field key).items

def dictField (record : Json) (key : String) : Dict :=
  (record.field key).dict

def flagField (record : Json) (key : String) : Bool :=
  (record.field key).isTrue

def ofDict (dict : Dict) : Json :=
  .object dict.toList

def ofNat (value : Nat) : Json :=
  .integer value

def ofNats (values : List Nat) : Json :=
  .list (values.map ofNat)

def withField (record : Json) (key : String) (value : Json) : Json :=
  match record with
  | .object members => .object (members ++ [(key, value)])
  | other => other

end Wamp.Json
