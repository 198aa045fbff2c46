/-!
# Wildcard patterns

A URI is a sequence of components with a dot between any two of them.  A pattern is a URI in
which an empty component, or a lone asterisk, stands for any one component.
-/

namespace Wamp.Uri

def separator : Char := '.'

/-- The components of a URI; there is always at least one. -/
def components : List Char → List (List Char)
  | [] => [[]]
  | c :: rest =>
    if c = separator then
      [] :: components rest
    else
      match components rest with
      | [] => [[c]]
      | first :: others => (c :: first) :: others

theorem components_ne_nil (uri : List Char) : components uri ≠ [] := by
  cases uri with
  | nil => simp [components]
  | cons c rest =>
    unfold components
    split
    · simp
    · split <;> simp

/-- The component of a pattern that stands for any component. -/
def isOpen (component : List Char) : Bool :=
  component = [] || component = ['*']

/-- Components are compared one by one, and both sides have equally many. -/
def componentsMatch : (pattern uri : List (List Char)) → Bool
  | [], [] => true
  | expected :: pattern, actual :: uri =>
    (isOpen expected || expected = actual) && componentsMatch pattern uri
  | [], _ :: _ | _ :: _, [] => false

theorem componentsMatch_self (uri : List (List Char)) : componentsMatch uri uri = true := by
  induction uri with
  | nil => rfl
  | cons component rest ih => simp [componentsMatch, ih]

theorem length_eq_of_componentsMatch {pattern uri : List (List Char)}
    (h : componentsMatch pattern uri = true) : pattern.length = uri.length := by
  induction pattern generalizing uri with
  | nil =>
    cases uri with
    | nil => rfl
    | cons actual uri => simp [componentsMatch] at h
  | cons expected pattern ih =>
    cases uri with
    | nil => simp [componentsMatch] at h
    | cons actual uri =>
      simp only [componentsMatch, Bool.and_eq_true] at h
      simp [ih h.2]

def patternMatches (pattern uri : String) : Bool :=
  componentsMatch (components pattern.toList) (components uri.toList)

end Wamp.Uri
