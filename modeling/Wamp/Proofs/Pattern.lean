import Mathlib.Data.List.Forall2
import Wamp.Proofs.FlatTable

/-!
# Instances of a pattern

A pattern matches its instances: the URIs that come from it when it is split at every dot, each
open component gives way to some text without a dot, and what there is then is joined with dots
again.  Hence a pattern matches itself, and what matches an instance of a pattern, read as a
pattern in its turn, matches the pattern as well.
-/

namespace Wamp.Uri

/-! ## Components -/

theorem components_eq_splitOn (uri : List Char) :
    components uri = uri.splitOn separator := by
  induction uri with
  | nil => rfl
  | cons c rest ih =>
      rw [components, List.splitOn_cons_eq_if_modifyHead, ← ih]
      by_cases hc : c = separator
      · simp [hc]
      · simp only [if_neg hc, beq_eq_false_iff_ne.mpr hc, Bool.false_eq_true, if_false]
        cases hcomponents : components rest with
        | nil => exact absurd hcomponents (components_ne_nil rest)
        | cons first others => rfl

theorem separator_not_mem_of_mem_components {uri component : List Char}
    (hcomponent : component ∈ components uri) : separator ∉ component := by
  induction uri generalizing component with
  | nil =>
      rw [List.mem_singleton.mp hcomponent]
      exact List.not_mem_nil
  | cons c rest ih =>
      unfold components at hcomponent
      split at hcomponent
      next =>
        rcases List.mem_cons.mp hcomponent with rfl | hrest
        · exact List.not_mem_nil
        · exact ih hrest
      next hc =>
        cases hcomponents : components rest with
        | nil => exact absurd hcomponents (components_ne_nil rest)
        | cons first others =>
            rw [hcomponents] at hcomponent ih
            rcases List.mem_cons.mp hcomponent with rfl | hothers
            · have hfirst : separator ∉ first := ih List.mem_cons_self
              simp [hfirst, Ne.symm hc]
            · exact ih (List.mem_cons_of_mem first hothers)

/-! ## Matching of components -/

/-- An open component of a pattern admits every component, and any other admits itself. -/
def Admits (expected actual : List Char) : Prop :=
  isOpen expected = true ∨ expected = actual

theorem Admits.trans {pattern between actual : List Char} (hbetween : Admits pattern between)
    (hactual : Admits between actual) : Admits pattern actual := by
  rcases hbetween with hopen | rfl
  · exact Or.inl hopen
  · exact hactual

theorem componentsMatch_iff {pattern uri : List (List Char)} :
    componentsMatch pattern uri = true ↔ List.Forall₂ Admits pattern uri := by
  induction pattern generalizing uri with
  | nil => cases uri <;> simp [componentsMatch]
  | cons expected pattern ih =>
      cases uri with
      | nil => simp [componentsMatch]
      | cons actual uri => simp [componentsMatch, Admits, ih]

theorem componentsMatch_trans {pattern between uri : List (List Char)}
    (hbetween : componentsMatch pattern between = true)
    (huri : componentsMatch between uri = true) : componentsMatch pattern uri = true := by
  rw [componentsMatch_iff] at hbetween huri ⊢
  induction hbetween generalizing uri with
  | nil => exact huri
  | cons hfirst _ ih =>
      cases huri with
      | cons hnext hrest => exact .cons (hfirst.trans hnext) (ih hrest)

/-! ## Instances -/

/-- What an instance of a pattern has in the place of a component. -/
def Fills (component text : String) : Prop :=
  if component = "" ∨ component = "*" then '.' ∉ text.toList else text = component

/-- A URI that comes from a pattern by filling its components. -/
def IsInstance (pattern uri : String) : Prop :=
  ∃ texts : List String,
    List.Forall₂ Fills ((pattern.split '.').toList.map String.Slice.copy) texts ∧
      ".".intercalate texts = uri

theorem fills_iff {expected : List Char} (hexpected : separator ∉ expected) (text : String) :
    Fills (String.ofList expected) text ↔
      Admits expected text.toList ∧ separator ∉ text.toList := by
  have hopen : String.ofList expected = "" ∨ String.ofList expected = "*" ↔
      isOpen expected = true := by
    simp [isOpen, String.ext_iff]
  unfold Fills Admits
  by_cases h : isOpen expected = true
  · rw [if_pos (hopen.mpr h)]
    exact (and_iff_right (Or.inl h)).symm
  · rw [if_neg (mt hopen.mp h)]
    constructor
    · rintro rfl
      rw [String.toList_ofList]
      exact ⟨Or.inr rfl, hexpected⟩
    · rintro ⟨hadmits, -⟩
      rw [hadmits.resolve_left h, String.ofList_toList]

theorem forall₂_fills_iff {expected : List (List Char)}
    (hexpected : ∀ component ∈ expected, separator ∉ component) (texts : List String) :
    List.Forall₂ Fills (expected.map String.ofList) texts ↔
      List.Forall₂ Admits expected (texts.map String.toList) ∧
        ∀ text ∈ texts, separator ∉ text.toList := by
  induction expected generalizing texts with
  | nil => cases texts <;> simp
  | cons component expected ih =>
      obtain ⟨hcomponent, hrest⟩ := List.forall_mem_cons.mp hexpected
      cases texts with
      | nil => simp
      | cons text texts =>
          simp only [List.map_cons, List.forall₂_cons, List.forall_mem_cons,
            fills_iff hcomponent, ih hrest]
          exact and_and_and_comm

theorem patternMatches_iff (pattern uri : String) :
    patternMatches pattern uri = true ↔ IsInstance pattern uri := by
  have hsplit : (pattern.split '.').toList.map String.Slice.copy =
      (components pattern.toList).map String.ofList := by
    rw [String.toList_split_char, components_eq_splitOn]
    rfl
  have hclosed : ∀ text : List Char, ∀ component ∈ components text, separator ∉ component :=
    fun _ _ => separator_not_mem_of_mem_components
  rw [patternMatches, componentsMatch_iff, IsInstance, hsplit]
  constructor
  · intro hadmits
    refine ⟨(components uri.toList).map String.ofList, ?_, ?_⟩
    · rw [forall₂_fills_iff (hclosed pattern.toList)]
      simpa using ⟨hadmits, hclosed uri.toList⟩
    · have hlists : ((components uri.toList).map String.ofList).map String.toList =
          uri.toList.splitOn separator := by
        simp [components_eq_splitOn, Function.comp_def]
      rw [← String.toList_inj, String.toList_intercalate, hlists]
      exact List.intercalate_splitOn separator
  · rintro ⟨texts, hfills, rfl⟩
    obtain ⟨hadmits, htexts⟩ := (forall₂_fills_iff (hclosed pattern.toList) texts).mp hfills
    -- A pattern has a component, so some text is there to be split off again.
    have hnonempty : texts.map String.toList ≠ [] := by
      intro hnil
      rw [hnil, List.forall₂_nil_right_iff] at hadmits
      exact components_ne_nil pattern.toList hadmits
    have hcomponents : components (".".intercalate texts).toList = texts.map String.toList := by
      rw [components_eq_splitOn, String.toList_intercalate]
      exact List.splitOn_intercalate separator (by simpa using htexts) hnonempty
    rwa [hcomponents]

/-- A pattern matches its instances and nothing else.  Hence every URI matches itself, a search for
one that is stored as a pattern finds a pattern, and matching is transitive. -/
theorem matches_as_instances :
    (∀ pattern uri : String, patternMatches pattern uri = true ↔ IsInstance pattern uri) ∧
    (∀ uri : String, patternMatches uri uri = true) ∧
    (∀ pattern between uri : String, patternMatches pattern between = true →
      patternMatches between uri = true → patternMatches pattern uri = true) ∧
    ∀ (α : Type) (changes : List (Change α)) (live : α → Bool) (stored : String),
      Listed (Directory.built changes).get? live stored .wildcard →
      (Directory.built changes).matchingPattern? stored live ≠ none := by
  have hself : ∀ uri : String, patternMatches uri uri = true :=
    fun _ => componentsMatch_self _
  refine ⟨patternMatches_iff, hself, fun _ _ _ => componentsMatch_trans, ?_⟩
  intro α changes live stored hlisted hnone
  have hstep := Directory.inStep_built changes
  exact hstep.matchingPattern?_eq_none hnone hlisted (hself stored)

/-- An empty component, an asterisk, and a pattern between the other two. -/
theorem matches_as_instances_openComponents :
    let changes : List (Change Nat) := [.put "com..*" .wildcard 1, .put "com..*" .wildcard 2]
    patternMatches "com..*" "com.*.error" = true ∧
      patternMatches "com.*.error" "com.app.error" = true ∧
      IsInstance "com..*" "com.app.error" ∧
      Listed (Directory.built changes).get? (· == 2) "com..*" .wildcard ∧
      (Directory.built changes).matchingPattern? "com..*" (· == 2) ≠ none := by
  intro changes
  obtain ⟨hinstances, -, htrans, hfound⟩ := matches_as_instances
  have hbetween : patternMatches "com..*" "com.*.error" = true := by decide +kernel
  have huri : patternMatches "com.*.error" "com.app.error" = true := by decide +kernel
  have hlisted : Listed (Directory.built changes).get? (· == 2) "com..*" .wildcard :=
    ⟨2, by decide +kernel, rfl⟩
  exact ⟨hbetween, huri, (hinstances _ _).mp (htrans _ _ _ hbetween huri), hlisted,
    hfound Nat changes (· == 2) "com..*" hlisted⟩

/-- A lone dot parts two empty components, and both are open. -/
example : patternMatches "." "a.b" = true ∧ patternMatches "." "a" = false := by
  decide +kernel

end Wamp.Uri
