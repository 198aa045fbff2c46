import Wamp.Proofs.RadixTree.Canonical
import Wamp.Uri.Directory

/-!
# The parts of a directory

A directory holds its inexact entries twice.  Here the parts are shown to agree after every
insertion and removal, and a directory is related to the records that it lists: a name for every
value, as the broker and the dealer use it.  In whatever order its entries came and went, a
directory is determined by what it lists.
-/

namespace Wamp.Uri

theorem bytes_inj {left right : String} : bytes left = bytes right ↔ left = right := by
  constructor
  · intro hbytes
    unfold bytes at hbytes
    rw [String.toUTF8_eq_toByteArray, String.toUTF8_eq_toByteArray, Array.toList_inj] at hbytes
    exact String.toByteArray_inj.mp (ByteArray.ext hbytes)
  · rintro rfl
    rfl

theorem bytes_append (first second : String) :
    bytes (first ++ second) = bytes first ++ bytes second := by
  simp [bytes]

/-- Characters have no encodings that begin alike, so strings begin alike if their bytes do. -/
theorem bytes_prefix_iff {stored uri : String} :
    bytes stored <+: bytes uri ↔ stored.toList <+: uri.toList := by
  constructor
  · rintro ⟨rest, hrest⟩
    apply List.isPrefix_of_utf8Encode_append_eq_utf8Encode ⟨rest.toArray⟩
    rw [String.utf8Encode_toList, String.utf8Encode_toList]
    apply ByteArray.ext
    apply Array.toList_inj.mp
    simpa [bytes] using hrest
  · rintro ⟨rest, hrest⟩
    have happend : stored ++ String.ofList rest = uri := by
      rw [← String.toList_inj]
      simpa using hrest
    rw [← happend, bytes_append]
    exact List.prefix_append _ _

namespace Directory

variable {α : Type}

/-- Every entry is stored in the part of its policy, and that part stores nothing else. -/
structure InStep (directory : Directory α) : Prop where
  ordered : directory.leading.Ordered
  leading_iff : ∀ key value, directory.leading.get? key = some value ↔
    ∃ uri, bytes uri = key ∧ directory.get? uri = some { policy := .leading, value }
  patterns_iff : ∀ uri value, directory.patterns[uri]? = some value ↔
    directory.get? uri = some { policy := .wildcard, value }

theorem inStep_empty : ({} : Directory α).InStep where
  ordered := RadixTree.ordered_empty
  leading_iff key value := by
    have hleading : ({} : Directory α).leading.get? key = none := by
      cases key <;> rfl
    simp [hleading, get?]
  patterns_iff uri value := by simp [get?]

namespace InStep

variable {directory : Directory α}

/-- A change of one URI shows in the entries of no key but its own. -/
theorem exists_bytes_congr {changed : Directory α} {uri : String} {key : List UInt8}
    (hkey : key ≠ bytes uri)
    (hkept : ∀ other, uri ≠ other → changed.get? other = directory.get? other)
    (entry : Entry α) :
    (∃ other, bytes other = key ∧ directory.get? other = some entry) ↔
      ∃ other, bytes other = key ∧ changed.get? other = some entry := by
  refine exists_congr fun other => and_congr_right fun hbytes => ?_
  have hne : uri ≠ other := by
    rintro rfl
    exact hkey hbytes.symm
  rw [hkept other hne]

theorem leading_get?_bytes (hstep : directory.InStep) {uri : String}
    (hother : ∀ value, directory.get? uri ≠ some { policy := .leading, value }) :
    directory.leading.get? (bytes uri) = none := by
  cases hfound : directory.leading.get? (bytes uri) with
  | none => rfl
  | some value =>
      obtain ⟨same, hbytes, hentry⟩ := (hstep.leading_iff _ _).mp hfound
      rw [bytes_inj.mp hbytes] at hentry
      exact absurd hentry (hother value)

theorem patterns_getElem? (hstep : directory.InStep) {uri : String}
    (hother : ∀ value, directory.get? uri ≠ some { policy := .wildcard, value }) :
    directory.patterns[uri]? = none := by
  cases hfound : directory.patterns[uri]? with
  | none => rfl
  | some value => exact absurd ((hstep.patterns_iff _ _).mp hfound) (hother value)

theorem ordered_erase (hstep : directory.InStep) (uri : String) :
    (directory.erase uri).leading.Ordered := by
  unfold Directory.erase
  cases directory.entries[uri]? with
  | none => exact hstep.ordered
  | some entry =>
      cases hpolicy : entry.policy with
      | exact => simpa [hpolicy] using hstep.ordered
      | leading => simpa [hpolicy] using hstep.ordered.erase (bytes uri)
      | wildcard => simpa [hpolicy] using hstep.ordered

theorem leading_erase (hstep : directory.InStep) (uri : String) (key : List UInt8) :
    (directory.erase uri).leading.get? key =
      if key = bytes uri then none else directory.leading.get? key := by
  by_cases hleading : ∃ value, directory.get? uri = some { policy := .leading, value }
  · obtain ⟨value, hentry⟩ := hleading
    unfold get? at hentry
    unfold Directory.erase
    rw [hentry]
    exact RadixTree.get?_erase hstep.ordered (bytes uri) key
  · have hkept : (directory.erase uri).leading = directory.leading := by
      unfold Directory.erase
      cases hentry : directory.entries[uri]? with
      | none => rfl
      | some entry =>
          cases hpolicy : entry.policy with
          | exact => simp [hpolicy]
          | leading =>
              refine absurd ⟨entry.value, ?_⟩ hleading
              unfold get?
              rw [hentry, ← hpolicy]
          | wildcard => simp [hpolicy]
    have hnone := hstep.leading_get?_bytes (fun value hvalue => hleading ⟨value, hvalue⟩)
    rw [hkept]
    split
    next hkey => rw [hkey, hnone]
    next => rfl

theorem patterns_erase (hstep : directory.InStep) (uri other : String) :
    (directory.erase uri).patterns[other]? =
      if uri = other then none else directory.patterns[other]? := by
  by_cases hwildcard : ∃ value, directory.get? uri = some { policy := .wildcard, value }
  · obtain ⟨value, hentry⟩ := hwildcard
    unfold get? at hentry
    unfold Directory.erase
    rw [hentry]
    simp [Std.ExtTreeMap.getElem?_erase]
  · have hkept : (directory.erase uri).patterns = directory.patterns := by
      unfold Directory.erase
      cases hentry : directory.entries[uri]? with
      | none => rfl
      | some entry =>
          cases hpolicy : entry.policy with
          | exact => simp [hpolicy]
          | leading => simp [hpolicy]
          | wildcard =>
              refine absurd ⟨entry.value, ?_⟩ hwildcard
              unfold get?
              rw [hentry, ← hpolicy]
    have hnone := hstep.patterns_getElem? (fun value hvalue => hwildcard ⟨value, hvalue⟩)
    rw [hkept]
    split
    next hother => rw [← hother, hnone]
    next => rfl

theorem erase (hstep : directory.InStep) (uri : String) : (directory.erase uri).InStep where
  ordered := hstep.ordered_erase uri
  leading_iff key value := by
    rw [hstep.leading_erase uri key]
    split
    next hkey =>
      subst hkey
      simp only [reduceCtorEq, false_iff, not_exists, not_and]
      intro other hbytes
      simp [get?_erase, bytes_inj.mp hbytes]
    next hkey =>
      rw [hstep.leading_iff]
      exact exists_bytes_congr hkey (fun other hne => by rw [get?_erase, if_neg hne]) _
  patterns_iff other value := by
    rw [hstep.patterns_erase uri other, get?_erase]
    split
    next => simp
    next => exact hstep.patterns_iff other value

theorem leading_insert (hstep : directory.InStep) (uri : String) (policy : MatchPolicy)
    (value : α) (key : List UInt8) :
    (directory.insert uri policy value).leading.get? key =
      if key = bytes uri then (if policy = .leading then some value else none)
      else directory.leading.get? key := by
  have herase := hstep.leading_erase uri key
  cases policy with
  | exact => simpa [Directory.insert] using herase
  | leading =>
      have hinsert := RadixTree.get?_insert (hstep.ordered_erase uri) (bytes uri) value key
      simp only [Directory.insert, if_true]
      rw [hinsert, herase]
      split <;> rfl
  | wildcard => simpa [Directory.insert] using herase

theorem patterns_insert (hstep : directory.InStep) (uri : String) (policy : MatchPolicy)
    (value : α) (other : String) :
    (directory.insert uri policy value).patterns[other]? =
      if uri = other then (if policy = .wildcard then some value else none)
      else directory.patterns[other]? := by
  have herase := hstep.patterns_erase uri other
  cases policy with
  | exact => simpa [Directory.insert] using herase
  | leading => simpa [Directory.insert] using herase
  | wildcard =>
      simp only [Directory.insert, if_true, Std.ExtTreeMap.getElem?_insert, herase,
        Std.LawfulEqCmp.compare_eq_iff_eq]
      split <;> rfl

theorem insert (hstep : directory.InStep) (uri : String) (policy : MatchPolicy) (value : α) :
    (directory.insert uri policy value).InStep where
  ordered := by
    have herase := hstep.ordered_erase uri
    cases policy with
    | exact => exact herase
    | leading => exact herase.insert (bytes uri) value
    | wildcard => exact herase
  leading_iff key stored := by
    rw [hstep.leading_insert uri policy value key]
    split
    next hkey =>
      subst hkey
      constructor
      · intro hstored
        refine ⟨uri, rfl, ?_⟩
        rw [get?_insert, if_pos rfl]
        split at hstored
        next hpolicy => simp_all
        next => contradiction
      · rintro ⟨other, hbytes, hentry⟩
        rw [get?_insert, if_pos (bytes_inj.mp hbytes).symm] at hentry
        simp_all
    next hkey =>
      rw [hstep.leading_iff]
      exact exists_bytes_congr hkey (fun other hne => by rw [get?_insert, if_neg hne]) _
  patterns_iff other stored := by
    rw [hstep.patterns_insert uri policy value other, get?_insert]
    split
    next =>
      by_cases hpolicy : policy = .wildcard <;> simp [hpolicy]
    next => exact hstep.patterns_iff other stored

end InStep

/-! ## Listed records -/

/-- The directory lists every value under its name, a URI with a policy, and nothing else. -/
structure Lists (directory : Directory α) (named : α → Option (String × MatchPolicy)) :
    Prop where
  inStep : directory.InStep
  get?_iff : ∀ uri policy value, directory.get? uri = some { policy, value } ↔
    named value = some (uri, policy)

namespace Lists

variable {directory : Directory α} {named : α → Option (String × MatchPolicy)}

theorem congr (hlists : directory.Lists named) {renamed : α → Option (String × MatchPolicy)}
    (hsame : ∀ value, renamed value = named value) : directory.Lists renamed where
  inStep := hlists.inStep
  get?_iff uri policy value := by rw [hsame, hlists.get?_iff]

theorem unique (hlists : directory.Lists named) {uri : String} {first second : MatchPolicy}
    {left right : α} (hleft : named left = some (uri, first))
    (hright : named right = some (uri, second)) : left = right := by
  have hfirst := (hlists.get?_iff uri first left).mpr hleft
  rw [(hlists.get?_iff uri second right).mpr hright] at hfirst
  simp only [Option.some.injEq, Entry.mk.injEq] at hfirst
  exact hfirst.2.symm

variable [DecidableEq α]

theorem insert (hlists : directory.Lists named) {uri : String} {value : α}
    (hfree : directory.get? uri = none) (hnew : named value = none) (policy : MatchPolicy) :
    (directory.insert uri policy value).Lists fun other =>
      if other = value then some (uri, policy) else named other where
  inStep := hlists.inStep.insert uri policy value
  get?_iff other stored found := by
    rw [get?_insert]
    by_cases huri : uri = other
    · subst huri
      rw [if_pos rfl]
      by_cases hfound : found = value
      · simp [hfound]
      · have hfree := (hlists.get?_iff uri stored found).not.mp (by simp [hfree])
        simp [hfound, Ne.symm hfound, hfree]
    · rw [if_neg huri, hlists.get?_iff]
      by_cases hfound : found = value
      · simp [hfound, hnew, huri]
      · simp [hfound]

theorem erase (hlists : directory.Lists named) {uri : String} {policy : MatchPolicy}
    {value : α} (hnamed : named value = some (uri, policy)) :
    (directory.erase uri).Lists fun other => if other = value then none else named other where
  inStep := hlists.inStep.erase uri
  get?_iff other stored found := by
    rw [get?_erase]
    by_cases hfound : found = value
    · subst hfound
      by_cases huri : uri = other
      · simp [huri]
      · simp only [if_neg huri, if_true, reduceCtorEq, iff_false]
        intro hentry
        rw [hlists.get?_iff, hnamed] at hentry
        simp [huri] at hentry
    · rw [if_neg hfound, ← hlists.get?_iff]
      by_cases huri : uri = other
      · subst huri
        have hother : directory.get? uri = some { policy, value } :=
          (hlists.get?_iff uri policy value).mpr hnamed
        simp [hother, Ne.symm hfound]
      · rw [if_neg huri]

end Lists

/-! ## Canonical directories -/

/-- The parts agree, and the prefixes are in canonical form: the directory is determined by its
entries. -/
structure Canonical (directory : Directory α) : Prop extends directory.InStep where
  canonical : directory.leading.Canonical

theorem canonical_empty : ({} : Directory α).Canonical where
  toInStep := inStep_empty
  canonical := RadixTree.canonical_empty

namespace Canonical

variable {directory other : Directory α}

theorem erase (hcanonical : directory.Canonical) (uri : String) :
    (directory.erase uri).Canonical where
  toInStep := hcanonical.toInStep.erase uri
  canonical := by
    unfold Directory.erase
    cases directory.entries[uri]? with
    | none => exact hcanonical.canonical
    | some entry =>
        simp only
        split
        next => exact hcanonical.canonical
        next => exact hcanonical.canonical.erase (bytes uri)
        next => exact hcanonical.canonical

theorem insert (hcanonical : directory.Canonical) (uri : String) (policy : MatchPolicy)
    (value : α) : (directory.insert uri policy value).Canonical where
  toInStep := hcanonical.toInStep.insert uri policy value
  canonical := by
    have hcleared := (hcanonical.erase uri).canonical
    cases policy with
    | exact => exact hcleared
    | leading => exact hcleared.insert (bytes uri) value
    | wildcard => exact hcleared

theorem ext_get? (hcanonical : directory.Canonical) (hother : other.Canonical)
    (hsame : ∀ uri, directory.get? uri = other.get? uri) : directory = other := by
  have hentries : directory.entries = other.entries := Std.ExtTreeMap.ext_getElem? hsame
  have hpatterns : directory.patterns = other.patterns := by
    refine Std.ExtTreeMap.ext_getElem? fun uri => Option.ext fun value => ?_
    rw [hcanonical.patterns_iff, hother.patterns_iff, hsame]
  have hleading : directory.leading = other.leading := by
    refine hcanonical.canonical.ext_get? hother.canonical fun key => Option.ext fun value => ?_
    simp only [hcanonical.leading_iff, hother.leading_iff, hsame]
  cases directory
  cases other
  simp_all

end Canonical

/-- Canonical directories that list the same names are the same. -/
theorem Lists.ext {directory other : Directory α} {named : α → Option (String × MatchPolicy)}
    (hlists : directory.Lists named) (hother : other.Lists named)
    (hcanonical : directory.Canonical) (hsecond : other.Canonical) : directory = other := by
  refine hcanonical.ext_get? hsecond fun uri => Option.ext fun entry => ?_
  exact (hlists.get?_iff uri entry.policy entry.value).trans
    (hother.get?_iff uri entry.policy entry.value).symm

end Directory

end Wamp.Uri
