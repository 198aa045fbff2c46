import Wamp.Proofs.Directory

/-!
# Resolution in a directory

An incoming URI is resolved to the entry stored under the URI itself, else to the longest stored
prefix, else to a stored pattern that matches.  This is first shown of the search in the radix
tree, and then of a whole directory in terms of the names that it lists.
-/

namespace Wamp

namespace RadixTree

variable {α : Type} {lookup : List UInt8 → Option α} {accept : α → Bool}

/-- The accepted value under the longest stored key that begins a given one, if there is any. -/
def IsLongest (lookup : List UInt8 → Option α) (accept : α → Bool) (key : List UInt8) :
    Option α → Prop
  | none => ∀ stored value, stored <+: key → lookup stored = some value → accept value = false
  | some value =>
    ∃ stored, stored <+: key ∧ lookup stored = some value ∧ accept value = true ∧
      ∀ longer other, longer <+: key → lookup longer = some other → accept other = true →
        longer.length ≤ stored.length

/-- Nothing is stored behind a label that does not begin the key. -/
theorem IsLongest.stray {label key : List UInt8} (hstray : label.isPrefixOf? key = none) :
    IsLongest (fun stored => (label.isPrefixOf? stored).bind lookup) accept key none := by
  intro stored value hstored hvalue
  obtain ⟨rest, hrest, -⟩ := Option.bind_eq_some_iff.mp hvalue
  rw [List.isPrefixOf?_eq_some_iff_append_eq] at hrest
  obtain ⟨more, rfl⟩ := hstored
  rw [← hrest, List.append_assoc, isPrefixOf?_self_append] at hstray
  contradiction

/-- What is longest behind a label is longest altogether. -/
theorem IsLongest.behind {label key : List UInt8} {result : Option α}
    (hlongest : IsLongest lookup accept key result) :
    IsLongest (fun stored => (label.isPrefixOf? stored).bind lookup) accept (label ++ key)
      result := by
  have hbehind : ∀ stored value, stored <+: label ++ key →
      (label.isPrefixOf? stored).bind lookup = some value →
      ∃ rest, stored = label ++ rest ∧ rest <+: key ∧ lookup rest = some value := by
    intro stored value hstored hvalue
    obtain ⟨rest, hrest, hlookup⟩ := Option.bind_eq_some_iff.mp hvalue
    rw [List.isPrefixOf?_eq_some_iff_append_eq] at hrest
    subst hrest
    exact ⟨rest, rfl, (List.prefix_append_right_inj label).mp hstored, hlookup⟩
  cases result with
  | none =>
      intro stored value hstored hvalue
      obtain ⟨rest, -, hrest, hlookup⟩ := hbehind stored value hstored hvalue
      exact hlongest rest value hrest hlookup
  | some value =>
      obtain ⟨stored, hstored, hlookup, haccept, hmax⟩ := hlongest
      refine ⟨label ++ stored, (List.prefix_append_right_inj label).mpr hstored, ?_, haccept, ?_⟩
      · simp only [isPrefixOf?_self_append, Option.bind_some]
        exact hlookup
      · intro longer other hlonger hother hlive
        obtain ⟨rest, rfl, hrest, hlookup⟩ := hbehind longer other hlonger hother
        have hlength := hmax rest other hrest hlookup hlive
        simp only [List.length_append]
        omega

theorem isLongest_nil (accept : α → Bool) :
    IsLongest lookup accept [] ((lookup []).filter accept) := by
  cases hfound : (lookup []).filter accept with
  | none =>
      intro stored value hstored hvalue
      rw [List.prefix_nil] at hstored
      subst hstored
      rw [hvalue, Option.filter_eq_none_iff] at hfound
      simpa using hfound value rfl
  | some value =>
      rw [Option.filter_eq_some_iff] at hfound
      refine ⟨[], List.nil_prefix, hfound.1, hfound.2, ?_⟩
      intro longer other hlonger _ _
      rw [List.prefix_nil] at hlonger
      simp [hlonger]

/-- A value that is held before the first byte counts if nothing deeper does. -/
theorem IsLongest.or {b : UInt8} {bs : List UInt8} {deeper : Option α}
    (hdeeper : IsLongest (fun stored => lookup (b :: stored)) accept bs deeper) :
    IsLongest lookup accept (b :: bs) (deeper.or ((lookup []).filter accept)) := by
  cases deeper with
  | some value =>
      obtain ⟨stored, hstored, hlookup, haccept, hmax⟩ := hdeeper
      refine ⟨b :: stored, List.cons_prefix_cons.mpr ⟨rfl, hstored⟩, hlookup, haccept, ?_⟩
      intro longer other hlonger hother hlive
      cases longer with
      | nil => simp
      | cons c rest =>
          obtain ⟨rfl, hrest⟩ := List.cons_prefix_cons.mp hlonger
          have hlength := hmax rest other hrest hother hlive
          simpa using hlength
  | none =>
      rw [Option.none_or]
      have hhere : IsLongest lookup accept [] ((lookup []).filter accept) := isLongest_nil accept
      cases hfound : (lookup []).filter accept with
      | none =>
          rw [hfound] at hhere
          intro stored value hstored hvalue
          cases stored with
          | nil => exact hhere [] value List.nil_prefix hvalue
          | cons c rest =>
              obtain ⟨rfl, hrest⟩ := List.cons_prefix_cons.mp hstored
              exact hdeeper rest value hrest hvalue
      | some value =>
          rw [Option.filter_eq_some_iff] at hfound
          refine ⟨[], List.nil_prefix, hfound.1, hfound.2, ?_⟩
          intro longer other hlonger hother hlive
          cases longer with
          | nil => simp
          | cons c rest =>
              obtain ⟨rfl, hrest⟩ := List.cons_prefix_cons.mp hlonger
              rw [hdeeper rest other hrest hother] at hlive
              contradiction

mutual

theorem Node.isLongest (accept : α → Bool) (key : List UInt8) : (node : Node α) →
    IsLongest (fun stored => node.get? stored) accept key (node.longest? accept key)
  | .node held edges => by
      cases key with
      | nil => exact isLongest_nil accept
      | cons b bs =>
          unfold Node.longest?
          exact IsLongest.or (edges.isLongest accept b bs)

theorem Edges.isLongest (accept : α → Bool) (b : UInt8) (bs : List UInt8) : (edges : Edges α) →
    IsLongest (fun stored => edges.get? b stored) accept bs (edges.longest? accept b bs)
  | .nil => by
      intro stored value _ hvalue
      simp [Edges.get?] at hvalue
  | .cons first rest target others => by
      unfold Edges.longest? Edges.get?
      by_cases hfirst : first = b
      · simp only [if_pos hfirst]
        cases hrest : rest.isPrefixOf? bs with
        | none => exact IsLongest.stray hrest
        | some key =>
            rw [List.isPrefixOf?_eq_some_iff_append_eq] at hrest
            subst hrest
            exact (target.isLongest accept key).behind
      · simp only [if_neg hfirst]
        exact others.isLongest accept b bs

end

theorem isLongest (tree : RadixTree α) (accept : α → Bool) (key : List UInt8) :
    IsLongest tree.get? accept key (tree.longest? key accept) :=
  tree.root.isLongest accept key

end RadixTree

namespace Uri

/-- A stored URI covers an incoming one under its policy. -/
def Covers (stored : String) (policy : MatchPolicy) (uri : String) : Prop :=
  match policy with
  | .exact => stored = uri
  | .leading => bytes stored <+: bytes uri
  | .wildcard => patternMatches stored uri = true

instance decidableCovers (stored : String) (policy : MatchPolicy) (uri : String) :
    Decidable (Covers stored policy uri) :=
  match policy with
  | .exact => inferInstanceAs (Decidable (stored = uri))
  | .leading => inferInstanceAs (Decidable (bytes stored <+: bytes uri))
  | .wildcard => inferInstanceAs (Decidable (patternMatches stored uri = true))

theorem covers_self (uri : String) (policy : MatchPolicy) : Covers uri policy uri := by
  cases policy with
  | exact => rfl
  | leading => exact List.prefix_refl _
  | wildcard => exact componentsMatch_self _

/-- Which of the listed URIs an incoming one is resolved to: itself whatever its policy is, else
the longest prefix, else any pattern that matches. -/
inductive Prefers (listed : String → MatchPolicy → Prop) (uri : String) :
    String → MatchPolicy → Prop where
  | itself (policy : MatchPolicy) (hlisted : listed uri policy) : Prefers listed uri uri policy
  | leading (stored : String) (hother : ∀ policy, ¬ listed uri policy)
      (hlisted : listed stored .leading) (hcovers : bytes stored <+: bytes uri)
      (hlongest : ∀ longer, listed longer .leading → bytes longer <+: bytes uri →
        (bytes longer).length ≤ (bytes stored).length) :
      Prefers listed uri stored .leading
  | wildcard (stored : String) (hother : ∀ policy, ¬ listed uri policy)
      (hleading : ∀ shorter, listed shorter .leading → ¬ bytes shorter <+: bytes uri)
      (hlisted : listed stored .wildcard) (hcovers : patternMatches stored uri = true) :
      Prefers listed uri stored .wildcard

section Preferred

variable {names : String → MatchPolicy → Prop} {uri stored : String} {policy : MatchPolicy}

theorem Prefers.listed (hprefers : Prefers names uri stored policy) : names stored policy := by
  cases hprefers <;> assumption

theorem Prefers.covers (hprefers : Prefers names uri stored policy) : Covers stored policy uri := by
  cases hprefers with
  | itself => exact covers_self uri policy
  | leading _ _ _ hcovers => exact hcovers
  | wildcard _ _ _ _ hcovers => exact hcovers

end Preferred

/-- A live value is stored for a URI under a policy. -/
def Listed {α : Type} (lookup : String → Option (Entry α)) (live : α → Bool) (stored : String)
    (policy : MatchPolicy) : Prop :=
  ∃ value, lookup stored = some { policy, value } ∧ live value = true

namespace Directory

variable {α : Type} {directory : Directory α} {live : α → Bool} {uri : String}

namespace InStep

theorem filter_entry_eq_none
    (hnone : (directory.entries[uri]?.filter fun entry => live entry.value) = none)
    (policy : MatchPolicy) : ¬ Listed directory.get? live uri policy := by
  rintro ⟨value, hentry, hlive⟩
  unfold get? at hentry
  rw [hentry, Option.filter_eq_none_iff] at hnone
  exact hnone _ rfl hlive

/-- The search for the longest prefix runs over the entries with that policy. -/
theorem isLongest_leading (hstep : directory.InStep) (live : α → Bool) (uri : String) :
    match directory.leading.longest? (bytes uri) live with
    | none => ∀ stored, Listed directory.get? live stored .leading → ¬ bytes stored <+: bytes uri
    | some value => ∃ stored, directory.get? stored = some { policy := .leading, value } ∧
        live value = true ∧ bytes stored <+: bytes uri ∧
        ∀ longer, Listed directory.get? live longer .leading → bytes longer <+: bytes uri →
          (bytes longer).length ≤ (bytes stored).length := by
  have hlongest := directory.leading.isLongest live (bytes uri)
  generalize directory.leading.longest? (bytes uri) live = result at hlongest
  cases result with
  | none =>
      rintro stored ⟨value, hentry, hlive⟩ hprefix
      have hstored := (hstep.leading_iff (bytes stored) value).mpr ⟨stored, rfl, hentry⟩
      rw [hlongest (bytes stored) value hprefix hstored] at hlive
      contradiction
  | some value =>
      obtain ⟨key, hprefix, hfound, hlive, hmax⟩ := hlongest
      obtain ⟨stored, rfl, hentry⟩ := (hstep.leading_iff key value).mp hfound
      refine ⟨stored, hentry, hlive, hprefix, ?_⟩
      rintro longer ⟨other, hother, hlonger⟩ hcovers
      have hstored := (hstep.leading_iff (bytes longer) other).mpr ⟨longer, rfl, hother⟩
      exact hmax (bytes longer) other hcovers hstored hlonger

theorem matchingPattern?_eq_none (hstep : directory.InStep)
    (hnone : directory.matchingPattern? uri live = none) {stored : String}
    (hlisted : Listed directory.get? live stored .wildcard) :
    ¬ patternMatches stored uri = true := by
  obtain ⟨value, hentry, hlive⟩ := hlisted
  intro hmatches
  have hpattern : directory.patterns[stored]? = some value :=
    (hstep.patterns_iff stored value).mpr hentry
  unfold matchingPattern? at hnone
  rw [Option.map_eq_none_iff, List.find?_eq_none] at hnone
  have hmem := Std.ExtTreeMap.mem_toList_iff_getElem?_eq_some.mpr hpattern
  exact hnone (stored, value) hmem (by simp [hlive, hmatches])

theorem matchingPattern?_eq_some (hstep : directory.InStep) {value : α}
    (hsome : directory.matchingPattern? uri live = some value) :
    ∃ stored, directory.get? stored = some { policy := .wildcard, value } ∧ live value = true ∧
      patternMatches stored uri = true := by
  unfold matchingPattern? at hsome
  obtain ⟨⟨stored, found⟩, hfound, rfl⟩ := Option.map_eq_some_iff.mp hsome
  have haccepted := List.find?_some hfound
  rw [Bool.and_eq_true] at haccepted
  have hpattern :=
    Std.ExtTreeMap.mem_toList_iff_getElem?_eq_some.mp (List.mem_of_find?_eq_some hfound)
  exact ⟨stored, (hstep.patterns_iff stored found).mp hpattern, haccepted⟩

theorem not_covers_of_resolve?_eq_none (hstep : directory.InStep)
    (hnone : directory.resolve? uri live = none) {stored : String} {policy : MatchPolicy}
    (hlisted : Listed directory.get? live stored policy) : ¬ Covers stored policy uri := by
  unfold resolve? at hnone
  split at hnone
  next => contradiction
  next hentry =>
    have hlongest := hstep.isLongest_leading live uri
    split at hnone
    next => contradiction
    next hleading =>
      rw [hleading] at hlongest
      rw [Option.map_eq_none_iff] at hnone
      cases policy with
      | exact =>
          rintro rfl
          exact filter_entry_eq_none hentry _ hlisted
      | leading => exact hlongest stored hlisted
      | wildcard => exact hstep.matchingPattern?_eq_none hnone hlisted

/-- What a URI is resolved to is live, and no other choice is preferred to it. -/
theorem prefers_of_resolve?_eq_some (hstep : directory.InStep) {entry : Entry α}
    (hsome : directory.resolve? uri live = some entry) :
    ∃ stored, directory.get? stored = some entry ∧ live entry.value = true ∧
      Prefers (Listed directory.get? live) uri stored entry.policy := by
  unfold resolve? at hsome
  split at hsome
  next found hfound =>
    rw [Option.some.injEq] at hsome
    subst hsome
    obtain ⟨hentry, hlive⟩ := Option.filter_eq_some_iff.mp hfound
    exact ⟨uri, hentry, hlive, .itself _ ⟨_, hentry, hlive⟩⟩
  next hentry =>
    have hother := filter_entry_eq_none hentry
    have hlongest := hstep.isLongest_leading live uri
    split at hsome
    next value hleading =>
      rw [hleading] at hlongest
      obtain ⟨stored, hstored, hlive, hcovers, hmax⟩ := hlongest
      rw [Option.some.injEq] at hsome
      subst hsome
      exact ⟨stored, hstored, hlive, .leading stored hother ⟨_, hstored, hlive⟩ hcovers hmax⟩
    next hleading =>
      rw [hleading] at hlongest
      obtain ⟨value, hvalue, rfl⟩ := Option.map_eq_some_iff.mp hsome
      obtain ⟨stored, hstored, hlive, hcovers⟩ := hstep.matchingPattern?_eq_some hvalue
      exact ⟨stored, hstored, hlive,
        .wildcard stored hother hlongest ⟨_, hstored, hlive⟩ hcovers⟩

end InStep

/-! ## Resolution to listed records -/

/-- The names of the live values. -/
def LiveName (named : α → Option (String × MatchPolicy)) (live : α → Bool) (stored : String)
    (policy : MatchPolicy) : Prop :=
  ∃ value, named value = some (stored, policy) ∧ live value = true

namespace Lists

variable {named : α → Option (String × MatchPolicy)}

theorem listed_eq (hlists : directory.Lists named) (live : α → Bool) :
    Listed directory.get? live = LiveName named live := by
  funext stored policy
  simp only [Listed, LiveName, hlists.get?_iff]

theorem not_covers_of_resolve?_eq_none (hlists : directory.Lists named)
    (hnone : directory.resolve? uri live = none) {stored : String} {policy : MatchPolicy}
    (hlisted : LiveName named live stored policy) : ¬ Covers stored policy uri := by
  rw [← hlists.listed_eq] at hlisted
  exact hlists.inStep.not_covers_of_resolve?_eq_none hnone hlisted

theorem prefers_of_resolve?_eq_some (hlists : directory.Lists named) {entry : Entry α}
    (hsome : directory.resolve? uri live = some entry) :
    ∃ stored, named entry.value = some (stored, entry.policy) ∧ live entry.value = true ∧
      Prefers (LiveName named live) uri stored entry.policy := by
  obtain ⟨stored, hentry, hlive, hprefers⟩ := hlists.inStep.prefers_of_resolve?_eq_some hsome
  rw [hlists.listed_eq] at hprefers
  exact ⟨stored, (hlists.get?_iff stored entry.policy entry.value).mp hentry, hlive, hprefers⟩

end Lists

end Directory

end Uri

end Wamp
