import Mathlib.Data.List.Induction
import Wamp.Proofs.Resolution

/-!
# Directories as flat tables

A directory spreads its entries over three parts, so that prefixes and patterns can be searched.
The same insertions and removals on a plain map lead to a flat table, and whatever can be asked of
the directory is answered as the flat table has it: what is stored, how many entries there are,
what a change displaces, and what a URI is resolved to.
-/

namespace Wamp.Uri

inductive Change (α : Type) where
  | put (uri : String) (policy : MatchPolicy) (value : α)
  | drop (uri : String)

/-- Entries by their URI, and nothing else. -/
abbrev FlatTable (α : Type) := Std.ExtTreeMap String (Entry α)

variable {α : Type}

def Directory.change (directory : Directory α) : Change α → Option (Entry α) × Directory α
  | .put uri policy value => directory.replace uri policy value
  | .drop uri => directory.take uri

/-- Makes a change, and says which entry is displaced. -/
def FlatTable.change (table : FlatTable α) : Change α → Option (Entry α) × FlatTable α
  | .put uri policy value => (table[uri]?, table.insert uri { policy, value })
  | .drop uri => (table[uri]?, table.erase uri)

def Directory.built (changes : List (Change α)) : Directory α :=
  changes.foldl (fun directory change => (directory.change change).2) {}

def FlatTable.built (changes : List (Change α)) : FlatTable α :=
  changes.foldl (fun table change => (FlatTable.change table change).2) ∅

/-- What stored entries have a URI resolved to: the live entry of the URI itself, else the live
entry of the longest prefix, else a live entry of a pattern that matches, else nothing. -/
structure Resolves (lookup : String → Option (Entry α)) (live : α → Bool) (uri : String)
    (resolved : Option (Entry α)) : Prop where
  itself : ∀ entry, lookup uri = some entry → live entry.value = true → resolved = some entry
  leading : (∀ policy, ¬ Listed lookup live uri policy) →
    (∃ stored, Listed lookup live stored .leading ∧ stored.toList <+: uri.toList) →
    ∃ longest value, lookup longest = some { policy := .leading, value } ∧ live value = true ∧
      longest.toList <+: uri.toList ∧
      (∀ stored, Listed lookup live stored .leading → stored.toList <+: uri.toList →
        stored.toList <+: longest.toList) ∧
      resolved = some { policy := .leading, value }
  wildcard : (∀ policy, ¬ Listed lookup live uri policy) →
    (∀ stored, Listed lookup live stored .leading → ¬ stored.toList <+: uri.toList) →
    (∃ stored, Listed lookup live stored .wildcard ∧ patternMatches stored uri = true) →
    ∃ stored value, lookup stored = some { policy := .wildcard, value } ∧ live value = true ∧
      patternMatches stored uri = true ∧ resolved = some { policy := .wildcard, value }
  eq_none_iff : resolved = none ↔
    ∀ stored policy, Listed lookup live stored policy → ¬ Covers stored policy uri
  stored : ∀ entry, resolved = some entry →
    ∃ stored, lookup stored = some entry ∧ live entry.value = true ∧
      Covers stored entry.policy uri

namespace Directory

variable {directory : Directory α}

theorem entries_insert (directory : Directory α) (uri : String) (policy : MatchPolicy)
    (value : α) :
    (directory.insert uri policy value).entries =
      directory.entries.insert uri { policy, value } := by
  refine Std.ExtTreeMap.ext_getElem? fun other => ?_
  have hfound := directory.get?_insert uri other policy value
  unfold get? at hfound
  rw [hfound, Std.ExtTreeMap.getElem?_insert]
  simp

theorem snd_take (directory : Directory α) (uri : String) :
    (directory.take uri).2 = directory.erase uri := by
  unfold take erase
  cases directory.entries[uri]? <;> rfl

theorem fst_take (directory : Directory α) (uri : String) :
    (directory.take uri).1 = directory.get? uri := by
  unfold take get?
  cases directory.entries[uri]? <;> rfl

/-! ## The same changes -/

theorem entries_change (directory : Directory α) (change : Change α) :
    (directory.change change).2.entries = (FlatTable.change directory.entries change).2 := by
  cases change with
  | put uri policy value => exact directory.entries_insert uri policy value
  | drop uri =>
      rw [Directory.change, snd_take, entries_erase]
      rfl

theorem displaced_change (directory : Directory α) (change : Change α) :
    (directory.change change).1 = (FlatTable.change directory.entries change).1 := by
  cases change with
  | put uri policy value => exact directory.fst_take uri
  | drop uri => exact directory.fst_take uri

theorem InStep.change (hstep : directory.InStep) (change : Change α) :
    (directory.change change).2.InStep := by
  cases change with
  | put uri policy value => exact hstep.insert uri policy value
  | drop uri =>
      rw [Directory.change, snd_take]
      exact hstep.erase uri

theorem built_concat (changes : List (Change α)) (change : Change α) :
    built (changes ++ [change]) = ((built changes).change change).2 := by
  unfold built
  rw [List.foldl_append]
  rfl

theorem inStep_built (changes : List (Change α)) : (built changes).InStep := by
  induction changes using List.reverseRecOn with
  | nil => exact inStep_empty
  | append_singleton changes change ih =>
      rw [built_concat]
      exact ih.change change

theorem entries_built (changes : List (Change α)) :
    (built changes).entries = FlatTable.built changes := by
  induction changes using List.reverseRecOn with
  | nil => rfl
  | append_singleton changes change ih =>
      rw [built_concat, entries_change, ih]
      unfold FlatTable.built
      rw [List.foldl_append]
      rfl

/-! ## The same answers -/

section Resolution

variable {live : α → Bool} {uri : String}

theorem InStep.resolve?_eq_none_iff (hstep : directory.InStep) :
    directory.resolve? uri live = none ↔
      ∀ stored policy, Listed directory.get? live stored policy → ¬ Covers stored policy uri := by
  constructor
  · intro hnone stored policy hlisted
    exact hstep.not_covers_of_resolve?_eq_none hnone hlisted
  · intro huncovered
    cases hresolved : directory.resolve? uri live with
    | none => rfl
    | some entry =>
        obtain ⟨stored, -, -, hprefers⟩ := hstep.prefers_of_resolve?_eq_some hresolved
        exact absurd hprefers.covers (huncovered stored entry.policy hprefers.listed)

theorem InStep.exists_prefers (hstep : directory.InStep) {stored : String} {policy : MatchPolicy}
    (hlisted : Listed directory.get? live stored policy) (hcovers : Covers stored policy uri) :
    ∃ preferred entry, directory.resolve? uri live = some entry ∧
      directory.get? preferred = some entry ∧ live entry.value = true ∧
      Prefers (Listed directory.get? live) uri preferred entry.policy := by
  cases hresolved : directory.resolve? uri live with
  | none => exact absurd hcovers (hstep.resolve?_eq_none_iff.mp hresolved stored policy hlisted)
  | some entry =>
      obtain ⟨preferred, hentry, hlive, hprefers⟩ := hstep.prefers_of_resolve?_eq_some hresolved
      exact ⟨preferred, entry, rfl, hentry, hlive, hprefers⟩

theorem resolve?_itself {entry : Entry α} (hentry : directory.get? uri = some entry)
    (hlive : live entry.value = true) : directory.resolve? uri live = some entry := by
  unfold get? at hentry
  unfold resolve?
  rw [hentry, Option.filter_some, if_pos hlive]

theorem InStep.resolve?_leading (hstep : directory.InStep)
    (hother : ∀ policy, ¬ Listed directory.get? live uri policy) {stored : String}
    (hlisted : Listed directory.get? live stored .leading)
    (hcovers : stored.toList <+: uri.toList) :
    ∃ longest value, directory.get? longest = some { policy := .leading, value } ∧
      live value = true ∧ longest.toList <+: uri.toList ∧
      (∀ stored, Listed directory.get? live stored .leading → stored.toList <+: uri.toList →
        stored.toList <+: longest.toList) ∧
      directory.resolve? uri live = some { policy := .leading, value } := by
  obtain ⟨longest, ⟨policy, value⟩, hresolved, hentry, hlive, hprefers⟩ :=
    hstep.exists_prefers hlisted (bytes_prefix_iff.mpr hcovers)
  cases hprefers with
  | itself policy hitself => exact absurd hitself (hother policy)
  | leading longest _ _ hprefix hlongest =>
      refine ⟨longest, value, hentry, hlive, bytes_prefix_iff.mp hprefix, ?_, hresolved⟩
      intro shorter hshorter hbefore
      rw [← bytes_prefix_iff] at hbefore ⊢
      exact List.prefix_of_prefix_length_le hbefore hprefix (hlongest shorter hshorter hbefore)
  | wildcard _ _ hleading =>
      exact absurd (bytes_prefix_iff.mpr hcovers) (hleading stored hlisted)

theorem InStep.resolve?_wildcard (hstep : directory.InStep)
    (hother : ∀ policy, ¬ Listed directory.get? live uri policy)
    (hleading : ∀ stored, Listed directory.get? live stored .leading →
      ¬ stored.toList <+: uri.toList) {stored : String}
    (hlisted : Listed directory.get? live stored .wildcard)
    (hmatches : patternMatches stored uri = true) :
    ∃ stored value, directory.get? stored = some { policy := .wildcard, value } ∧
      live value = true ∧ patternMatches stored uri = true ∧
      directory.resolve? uri live = some { policy := .wildcard, value } := by
  have hcovers : Covers stored .wildcard uri := hmatches
  obtain ⟨chosen, ⟨policy, value⟩, hresolved, hentry, hlive, hprefers⟩ :=
    hstep.exists_prefers hlisted hcovers
  cases hprefers with
  | itself policy hitself => exact absurd hitself (hother policy)
  | leading _ _ hlonger hprefix =>
      exact absurd (bytes_prefix_iff.mp hprefix) (hleading chosen hlonger)
  | wildcard _ _ _ _ hchosen => exact ⟨chosen, value, hentry, hlive, hchosen, hresolved⟩

theorem InStep.resolves (hstep : directory.InStep) (live : α → Bool) (uri : String) :
    Resolves directory.get? live uri (directory.resolve? uri live) where
  itself _ := resolve?_itself
  leading hother := fun ⟨_, hlisted, hcovers⟩ => hstep.resolve?_leading hother hlisted hcovers
  wildcard hother hleading := fun ⟨_, hlisted, hmatches⟩ =>
    hstep.resolve?_wildcard hother hleading hlisted hmatches
  eq_none_iff := hstep.resolve?_eq_none_iff
  stored entry hresolved := by
    obtain ⟨stored, hentry, hlive, hprefers⟩ := hstep.prefers_of_resolve?_eq_some hresolved
    exact ⟨stored, hentry, hlive, hprefers.covers⟩

end Resolution

/-- However a directory was built, it answers as the flat table that the same changes build.  So
what a URI is resolved to is always stored at that moment, is live, and covers the URI under its
policy, and nothing is found only if no live entry covers it. -/
theorem answers_as_flat_table (changes : List (Change α)) :
    let directory := built changes
    let table := FlatTable.built changes
    (∀ uri, directory.get? uri = table[uri]?) ∧ directory.size = table.size ∧
    (∀ change, (directory.change change).1 = (FlatTable.change table change).1) ∧
    ∀ live uri,
      Resolves (fun stored => table[stored]?) live uri (directory.resolve? uri live) := by
  intro directory table
  have htable : table = directory.entries := (entries_built changes).symm
  rw [htable]
  exact ⟨fun _ => rfl, rfl, directory.displaced_change, (inStep_built changes).resolves⟩

end Directory

end Wamp.Uri
