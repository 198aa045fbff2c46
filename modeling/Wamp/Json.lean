import Std.Data.ExtTreeMap
import Std.Data.ExtTreeMap.Lemmas
import Wamp.Double

/-!
# JSON values

Options, details, arguments and keyword arguments are JSON values that pass through a router
unread, apart from the few option keys it interprets.  The members of an object inside a value
are kept in ascending order of their keys, each key once; `Json.ofMembers` builds this form.
The dictionaries of a message are finite maps.
-/

namespace Wamp

inductive Json where
  | null
  | boolean (value : Bool)
  | integer (value : Int)
  | double (value : Double)
  | text (value : String)
  | list (items : List Json)
  | object (members : List (String × Json))
  deriving Repr, Inhabited

abbrev Dict := Std.ExtTreeMap String Json

namespace Json

mutual

def decEq : (left right : Json) → Decidable (left = right)
  | .null, .null => isTrue rfl
  | .boolean left, .boolean right =>
    decidable_of_iff (left = right) (by simp)
  | .integer left, .integer right =>
    decidable_of_iff (left = right) (by simp)
  | .double left, .double right =>
    decidable_of_iff (left = right) (by simp)
  | .text left, .text right =>
    decidable_of_iff (left = right) (by simp)
  | .list left, .list right =>
    haveI := itemsDecEq left right
    decidable_of_iff (left = right) (by simp)
  | .object left, .object right =>
    haveI := membersDecEq left right
    decidable_of_iff (left = right) (by simp)
  | .null, .boolean _ | .null, .integer _ | .null, .double _ | .null, .text _
  | .null, .list _ | .null, .object _
  | .boolean _, .null | .boolean _, .integer _ | .boolean _, .double _ | .boolean _, .text _
  | .boolean _, .list _ | .boolean _, .object _
  | .integer _, .null | .integer _, .boolean _ | .integer _, .double _ | .integer _, .text _
  | .integer _, .list _ | .integer _, .object _
  | .double _, .null | .double _, .boolean _ | .double _, .integer _ | .double _, .text _
  | .double _, .list _ | .double _, .object _
  | .text _, .null | .text _, .boolean _ | .text _, .integer _ | .text _, .double _
  | .text _, .list _ | .text _, .object _
  | .list _, .null | .list _, .boolean _ | .list _, .integer _ | .list _, .double _
  | .list _, .text _ | .list _, .object _
  | .object _, .null | .object _, .boolean _ | .object _, .integer _ | .object _, .double _
  | .object _, .text _ | .object _, .list _ => isFalse (by simp)

def itemsDecEq : (left right : List Json) → Decidable (left = right)
  | [], [] => isTrue rfl
  | leftItem :: left, rightItem :: right =>
    haveI := decEq leftItem rightItem
    haveI := itemsDecEq left right
    decidable_of_iff (leftItem = rightItem ∧ left = right) (by simp)
  | [], _ :: _ | _ :: _, [] => isFalse (by simp)

def membersDecEq : (left right : List (String × Json)) → Decidable (left = right)
  | [], [] => isTrue rfl
  | (leftKey, leftValue) :: left, (rightKey, rightValue) :: right =>
    haveI := decEq leftValue rightValue
    haveI := membersDecEq left right
    decidable_of_iff ((leftKey = rightKey ∧ leftValue = rightValue) ∧ left = right) (by simp)
  | [], _ :: _ | _ :: _, [] => isFalse (by simp)

end

instance : DecidableEq Json := decEq

/-- Sets a member, keeping the keys in ascending order. -/
def setMember (key : String) (value : Json) : List (String × Json) → List (String × Json)
  | [] => [(key, value)]
  | (other, held) :: rest =>
    match compare key other with
    | .lt => (key, value) :: (other, held) :: rest
    | .eq => (key, value) :: rest
    | .gt => (other, held) :: setMember key value rest

/-- The object with these members; of equal keys the last one counts. -/
def ofMembers (members : List (String × Json)) : Json :=
  .object (members.foldl (fun kept (key, value) => setMember key value kept) [])

def isTrue : Json → Bool
  | .boolean value => value
  | _ => false

def text? : Json → Option String
  | .text value => some value
  | _ => none

end Json

namespace Dict

/-- A flag is set only by the boolean `true`. -/
def flag (dict : Dict) (key : String) : Bool :=
  (dict[key]?).any Json.isTrue

def text? (dict : Dict) (key : String) : Option String :=
  dict[key]?.bind Json.text?

end Dict

end Wamp
