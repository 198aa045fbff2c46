import Std.Data.ExtTreeMap
import Std.Data.ExtTreeMap.Lemmas
import Wamp.Message.Policy
import Wamp.Uri.Pattern
import Wamp.Uri.RadixTree

/-!
# Directories of URIs

A directory stores one value per URI, together with the policy by which the URI is compared
with an incoming one.  Resolution asks first for the incoming URI itself, then for the longest
stored prefix, then for a stored pattern that matches; values that are not live are passed over.
-/

namespace Wamp.Uri

/-- The bytes of a URI, by which prefixes are compared. -/
def bytes (uri : String) : List UInt8 :=
  uri.toUTF8.data.toList

structure Entry (α : Type) where
  policy : MatchPolicy
  value : α
  deriving DecidableEq, Repr

/-- Entries by their URI; those of the two inexact policies are held a second time, where they
can be searched. -/
structure Directory (α : Type) where
  entries : Std.ExtTreeMap String (Entry α) := ∅
  leading : RadixTree α := {}
  patterns : Std.ExtTreeMap String α := ∅
  deriving DecidableEq

namespace Directory

variable {α : Type}

def size (directory : Directory α) : Nat :=
  directory.entries.size

def isEmpty (directory : Directory α) : Bool :=
  directory.entries.isEmpty

def get? (directory : Directory α) (uri : String) : Option (Entry α) :=
  directory.entries[uri]?

def erase (directory : Directory α) (uri : String) : Directory α :=
  match directory.entries[uri]? with
  | none => directory
  | some entry =>
    let entries := directory.entries.erase uri
    match entry.policy with
    | .exact => { directory with entries }
    | .leading => { directory with entries, leading := directory.leading.erase (bytes uri) }
    | .wildcard => { directory with entries, patterns := directory.patterns.erase uri }

theorem entries_erase (directory : Directory α) (uri : String) :
    (directory.erase uri).entries = directory.entries.erase uri := by
  unfold erase
  cases h : directory.entries[uri]? with
  | none =>
    refine Std.ExtTreeMap.ext_getElem? fun other => ?_
    rw [Std.ExtTreeMap.getElem?_erase]
    by_cases heq : compare uri other = .eq
    · rw [if_pos heq, ← Std.LawfulEqCmp.eq_of_compare heq]
      exact h
    · rw [if_neg heq]
  | some entry => cases hpolicy : entry.policy <;> simp [hpolicy]

theorem get?_erase (directory : Directory α) (uri other : String) :
    (directory.erase uri).get? other = if uri = other then none else directory.get? other := by
  simp [get?, entries_erase, Std.ExtTreeMap.getElem?_erase]

/-- Stores an entry in place of the one that `get?` finds before. -/
def insert (directory : Directory α) (uri : String) (policy : MatchPolicy) (value : α) :
    Directory α :=
  let cleared := directory.erase uri
  let entries := cleared.entries.insert uri { policy, value }
  match policy with
  | .exact => { cleared with entries }
  | .leading => { cleared with entries, leading := cleared.leading.insert (bytes uri) value }
  | .wildcard => { cleared with entries, patterns := cleared.patterns.insert uri value }

theorem get?_insert (directory : Directory α) (uri other : String) (policy : MatchPolicy)
    (value : α) :
    (directory.insert uri policy value).get? other =
      if uri = other then some { policy, value } else directory.get? other := by
  have hentries : (directory.insert uri policy value).entries =
      (directory.entries.erase uri).insert uri { policy, value } := by
    cases policy <;> simp [insert, entries_erase]
  simp only [get?, hentries, Std.ExtTreeMap.getElem?_insert, Std.ExtTreeMap.getElem?_erase]
  split <;> simp_all

/-- Takes the entry of a URI out of every part, and hands it back. -/
def take (directory : Directory α) (uri : String) : Option (Entry α) × Directory α :=
  match directory.entries[uri]? with
  | none => (none, directory)
  | some entry => (some entry, directory.erase uri)

/-- Stores an entry, and hands back the one that gives way to it. -/
def replace (directory : Directory α) (uri : String) (policy : MatchPolicy) (value : α) :
    Option (Entry α) × Directory α :=
  let (previous, _) := directory.take uri
  (previous, directory.insert uri policy value)

/-- The live value of a stored pattern that matches.  Which one wins where several match is
unspecified; to try them in the order of their strings is a choice made here. -/
def matchingPattern? (directory : Directory α) (uri : String) (live : α → Bool) : Option α :=
  (directory.patterns.toList.find? fun (pattern, value) =>
    live value && patternMatches pattern uri).map Prod.snd

/-- The entry an incoming URI is routed through.  An entry stored under the very URI wins with
whatever policy it has. -/
def resolve? (directory : Directory α) (uri : String) (live : α → Bool := fun _ => true) :
    Option (Entry α) :=
  match directory.entries[uri]?.filter fun entry => live entry.value with
  | some entry => some entry
  | none =>
    match directory.leading.longest? (bytes uri) live with
    | some value => some { policy := .leading, value }
    | none =>
      (directory.matchingPattern? uri live).map fun value => { policy := .wildcard, value }

def toList (directory : Directory α) : List (String × Entry α) :=
  directory.entries.toList

end Directory

end Wamp.Uri
