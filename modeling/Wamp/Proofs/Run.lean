import Wamp.Outcome

/-!
# Runs of operations

A run performs operations one after the other, each on the state that the one before it left.
Brokers and dealers run alike, so what holds of every run is stated once, for any way to perform
an operation.

The second half is about the identifiers that a run draws from a counter of the router scope.
As long as the counter has not wrapped they count upwards, and an identifier that is drawn next
was never drawn before.
-/

namespace Wamp

theorem IdCounter.last_next {counter : IdCounter}
    (hroom : counter.last.toNat < maxId.toNat) :
    counter.next.2.last.toNat = counter.last.toNat + 1 := by
  have hsuccessor := toNat_successor counter.last
  rw [if_neg (Nat.not_le.mpr hroom)] at hsuccessor
  exact hsuccessor

theorem IdCounter.snd_next_ne (counter : IdCounter) : counter.next.2 ≠ counter := by
  intro hsame
  have hlast : (successor counter.last).toNat = counter.last.toNat :=
    congrArg (fun counter => counter.last.toNat) hsame
  have hmax : maxId.toNat = 2 ^ 53 := rfl
  rw [toNat_successor] at hlast
  split at hlast <;> omega

section Answers

variable {Error Other Answer : Type} (f : Error → Other)

@[simp] theorem mapError_ok (answer : Answer) :
    (Except.ok answer : Except Error Answer).mapError f = .ok answer := rfl

@[simp] theorem mapError_error (error : Error) :
    (Except.error error : Except Error Answer).mapError f = .error (f error) := rfl

theorem mapError_eq_ok_iff {answer : Except Error Answer} {result : Answer} :
    answer.mapError f = .ok result ↔ answer = .ok result := by
  cases answer <;> simp

theorem map_eq_ok_iff {Result : Type} {f : Answer → Result} {answer : Except Error Answer}
    {result : Result} :
    answer.map f = .ok result ↔ ∃ given, answer = .ok given ∧ f given = result := by
  cases answer <;> simp [Except.map]

theorem bind_eq_ok_iff {Result : Type} {f : Answer → Except Error Result}
    {answer : Except Error Answer} {result : Result} :
    answer.bind f = .ok result ↔ ∃ given, answer = .ok given ∧ f given = .ok result := by
  cases answer <;> simp [Except.bind]

theorem not_ok_of_error {answer : Except Error Answer} {error : Error}
    (herror : answer = .error error) : ¬ ∃ result, answer = .ok result := by
  simp [herror]

end Answers

/-- One operation of a run, with its answer. -/
structure Occurrence (Operation Error Answer : Type) where
  operation : Operation
  answer : Except Error Answer

namespace Run

variable {State Operation Error Note Answer : Type}
  (perform : State → Operation → Outcome State Error Note Answer)

/-- The state that a run leaves. -/
def final (state : State) (operations : List Operation) : State :=
  operations.foldl (fun state operation => (perform state operation).state) state

@[simp] theorem final_nil (state : State) : final perform state [] = state := rfl

@[simp] theorem final_cons (state : State) (operation : Operation) (rest : List Operation) :
    final perform state (operation :: rest) =
      final perform (perform state operation).state rest := rfl

theorem final_append (state : State) (first second : List Operation) :
    final perform state (first ++ second) =
      final perform (final perform state first) second := by
  unfold final
  exact List.foldl_append

theorem final_concat (state : State) (operations : List Operation) (operation : Operation) :
    final perform state (operations ++ [operation]) =
      (perform (final perform state operations) operation).state := by
  rw [final_append]
  rfl

def history (state : State) :
    List Operation → List (Occurrence Operation Error Answer)
  | [] => []
  | operation :: rest =>
    { operation, answer := (perform state operation).answer } ::
      history (perform state operation).state rest

theorem history_append (state : State) (first second : List Operation) :
    history perform state (first ++ second) =
      history perform state first ++ history perform (final perform state first) second := by
  induction first generalizing state with
  | nil => rfl
  | cons operation rest ih =>
      simp only [List.cons_append, history, final_cons]
      rw [ih]

theorem history_concat (state : State) (operations : List Operation) (operation : Operation) :
    history perform state (operations ++ [operation]) =
      history perform state operations ++
        [{ operation, answer := (perform (final perform state operations) operation).answer }] := by
  rw [history_append]
  rfl

/-- What the operations of a run contribute, each in the state in which it is performed, in their
order. -/
def collected {Item : Type} (contribution : State → Operation → List Item) (state : State) :
    List Operation → List Item
  | [] => []
  | operation :: rest =>
    contribution state operation ++ collected contribution (perform state operation).state rest

/-- The last item of a sequence is the one at a certain place, or that place lies before it. -/
theorem concat_eq_append_cons {Item : Type} {items before after : List Item} {item found : Item}
    (hsplit : items ++ [item] = before ++ found :: after) :
    (after = [] ∧ items = before ∧ item = found) ∨
      ∃ rest, after = rest ++ [item] ∧ items = before ++ found :: rest := by
  rcases List.eq_nil_or_concat after with rfl | ⟨rest, last, rfl⟩
  · obtain ⟨hitems, hitem⟩ := List.append_inj' hsplit rfl
    exact Or.inl ⟨rfl, hitems, (List.cons.inj hitem).1⟩
  · rw [List.concat_eq_append, ← List.cons_append, ← List.append_assoc] at hsplit
    obtain ⟨hitems, hitem⟩ := List.append_inj' hsplit rfl
    rw [(List.cons.inj hitem).1]
    exact Or.inr ⟨rest, List.concat_eq_append, hitems⟩

/-- Something holds of every operation of a run and the state in which it is performed. -/
def Throughout (Holds : State → Operation → Prop) (state : State)
    (operations : List Operation) : Prop :=
  ∀ before operation after, operations = before ++ operation :: after →
    Holds (final perform state before) operation

variable {perform}

theorem mem_history_iff {state : State} {operations : List Operation}
    {occurrence : Occurrence Operation Error Answer} :
    occurrence ∈ history perform state operations ↔
      ∃ before operation after, operations = before ++ operation :: after ∧
        occurrence =
          { operation, answer := (perform (final perform state before) operation).answer } := by
  constructor
  · intro hmem
    induction operations generalizing state with
    | nil => simp [history] at hmem
    | cons operation rest ih =>
        rcases List.mem_cons.mp hmem with rfl | hlater
        · exact ⟨[], operation, rest, rfl, rfl⟩
        · obtain ⟨before, later, after, rfl, rfl⟩ := ih hlater
          exact ⟨operation :: before, later, after, rfl, rfl⟩
  · rintro ⟨before, operation, after, rfl, rfl⟩
    rw [history_append]
    exact List.mem_append_right _ List.mem_cons_self

/-- What holds of the last state and not of the first began to hold at some operation. -/
theorem exists_entered (Good : State → Prop) {state : State} {operations : List Operation}
    (hbefore : ¬ Good state) (hafter : Good (final perform state operations)) :
    ∃ before operation after, operations = before ++ operation :: after ∧
      ¬ Good (final perform state before) ∧
      Good (perform (final perform state before) operation).state := by
  induction operations generalizing state with
  | nil => exact absurd hafter hbefore
  | cons operation rest ih =>
      by_cases hnext : Good (perform state operation).state
      · exact ⟨[], operation, rest, rfl, hbefore, hnext⟩
      · obtain ⟨before, later, after, rfl, hstill, hentered⟩ := ih hnext hafter
        exact ⟨operation :: before, later, after, rfl, hstill, hentered⟩

theorem Throughout.of_append {Holds : State → Operation → Prop} {state : State}
    {first second : List Operation}
    (hthroughout : Throughout perform Holds state (first ++ second)) :
    Throughout perform Holds state first := by
  rintro before operation after rfl
  exact hthroughout before operation (after ++ second) (by simp)

theorem throughout_nil (Holds : State → Operation → Prop) (state : State) :
    Throughout perform Holds state [] := by
  rintro before operation after hsplit
  simp at hsplit

theorem throughout_cons {Holds : State → Operation → Prop} {state : State}
    {operation : Operation} {rest : List Operation} :
    Throughout perform Holds state (operation :: rest) ↔
      Holds state operation ∧ Throughout perform Holds (perform state operation).state rest := by
  constructor
  · intro hthroughout
    refine ⟨hthroughout [] operation rest rfl, ?_⟩
    rintro before later after rfl
    exact hthroughout (operation :: before) later after rfl
  · rintro ⟨hnow, hlater⟩ before other after hsplit
    cases before with
    | nil =>
        obtain ⟨rfl, -⟩ := List.cons.inj hsplit
        exact hnow
    | cons earlier before =>
        obtain ⟨rfl, hrest⟩ := List.cons.inj hsplit
        exact hlater before other after hrest

instance Throughout.decidable (Holds : State → Operation → Prop)
    [∀ state operation, Decidable (Holds state operation)] :
    (state : State) → (operations : List Operation) →
      Decidable (Throughout perform Holds state operations)
  | state, [] => isTrue (throughout_nil Holds state)
  | state, operation :: rest =>
    have := Throughout.decidable Holds (perform state operation).state rest
    decidable_of_iff _ throughout_cons.symm

theorem throughout_concat {Holds : State → Operation → Prop} {state : State}
    {operations : List Operation} {operation : Operation} :
    Throughout perform Holds state (operations ++ [operation]) ↔
      Throughout perform Holds state operations ∧
        Holds (final perform state operations) operation := by
  refine ⟨fun hthroughout => ⟨hthroughout.of_append, hthroughout operations operation [] rfl⟩, ?_⟩
  rintro ⟨hearlier, hlast⟩ before other after hsplit
  rcases concat_eq_append_cons hsplit with ⟨-, rfl, rfl⟩ | ⟨middle, -, hsame⟩
  · exact hlast
  · exact hearlier before other middle hsame

theorem Throughout.last {Holds : State → Operation → Prop} {state : State}
    {operations : List Operation} {operation : Operation}
    (hthroughout : Throughout perform Holds state (operations ++ [operation])) :
    Holds (final perform state operations) operation :=
  hthroughout operations operation [] rfl

/-- Two runs that look alike contribute the same, if whatever looks alike contributes the same and
goes on looking alike. -/
theorem collected_congr {Item View Label : Type} {contribution : State → Operation → List Item}
    (view : State → View) (label : Operation → Label) (Good : State → Prop)
    (hstep : ∀ {one other : State} {first second : Operation}, Good one → view one = view other →
      label first = label second →
      contribution one first = contribution other second ∧
        view (perform one first).state = view (perform other second).state)
    {one other : State} (hview : view one = view other) {first second : List Operation}
    (hlabels : first.map label = second.map label)
    (hgood : Throughout perform (fun state _ => Good state) one first) :
    collected perform contribution one first = collected perform contribution other second := by
  induction first generalizing one other second with
  | nil =>
      obtain rfl : second = [] := by simpa using hlabels.symm
      rfl
  | cons operation rest ih =>
      cases second with
      | nil => simp at hlabels
      | cons counterpart remaining =>
          obtain ⟨hlabel, hrest⟩ := List.cons.inj hlabels
          obtain ⟨hnow, hlater⟩ := throughout_cons.mp hgood
          obtain ⟨hsame, hnext⟩ := hstep hnow hview hlabel
          rw [collected, collected, hsame, ih hnext hrest hlater]

/-- What every operation keeps, every run keeps. -/
theorem final_induction (Good : State → Prop)
    (hstep : ∀ state operation, Good state → Good (perform state operation).state)
    {state : State} (hgood : Good state) (operations : List Operation) :
    Good (final perform state operations) := by
  induction operations generalizing state with
  | nil => exact hgood
  | cons operation rest ih => exact ih (hstep state operation hgood)

/-- A run of operations that each leave the state alone leaves it alone, and each is answered as if
it was the first. -/
theorem final_of_idle {state : State} {operations : List Operation}
    (hidle : ∀ operation ∈ operations, (perform state operation).state = state) :
    final perform state operations = state ∧
      history perform state operations = operations.map fun operation =>
        { operation, answer := (perform state operation).answer } := by
  induction operations with
  | nil => exact ⟨rfl, rfl⟩
  | cons operation rest ih =>
      obtain ⟨hfinal, hhistory⟩ := ih fun other hmem => hidle other (List.mem_cons_of_mem _ hmem)
      simp only [final_cons, history, hidle operation List.mem_cons_self]
      exact ⟨hfinal, by rw [hhistory, List.map_cons]⟩

/-! ## What has held since -/

/-- At some point something opened, and nothing that came later, seen with all that came before
it, has undone it. -/
def Since {Item : Type} (opens : Item → Prop) (undoes : List Item → Item → Prop)
    (items : List Item) : Prop :=
  ∃ before opening after, items = before ++ opening :: after ∧ opens opening ∧
    ∀ between undoing later, after = between ++ undoing :: later →
      ¬ undoes (before ++ opening :: between) undoing

section Since

variable {Item : Type} {opens : Item → Prop} {undoes : List Item → Item → Prop}

theorem not_since_nil : ¬ Since opens undoes [] := by
  rintro ⟨before, opening, after, hsplit, -⟩
  simp at hsplit

theorem since_concat {items : List Item} {item : Item} :
    Since opens undoes (items ++ [item]) ↔
      opens item ∨ (Since opens undoes items ∧ ¬ undoes items item) := by
  constructor
  · rintro ⟨before, opening, after, hsplit, hopens, hkept⟩
    rcases concat_eq_append_cons hsplit with ⟨-, -, rfl⟩ | ⟨rest, rfl, rfl⟩
    · exact Or.inl hopens
    · refine Or.inr ⟨⟨before, opening, rest, rfl, hopens, ?_⟩, ?_⟩
      · rintro between undoing later rfl
        refine hkept between undoing (later ++ [item]) ?_
        simp
      · exact hkept rest item [] rfl
  · rintro (hopens | ⟨⟨before, opening, after, rfl, hopens, hkept⟩, hnot⟩)
    · exact ⟨items, item, [], rfl, hopens, by simp⟩
    · refine ⟨before, opening, after ++ [item], by simp, hopens, ?_⟩
      intro between undoing later hsplit
      rcases concat_eq_append_cons hsplit with ⟨-, rfl, rfl⟩ | ⟨rest, -, rfl⟩
      · exact hnot
      · exact hkept between undoing rest rfl

end Since

/-! ## Drawn identifiers -/

variable (perform) in
/-- The identifiers that a run draws from a counter, in the order in which they are drawn. -/
def drawn (ids : State → IdCounter) (state : State) : List Operation → List Id
  | [] => []
  | operation :: rest =>
    let next := (perform state operation).state
    (if ids next = ids state then [] else [(ids next).last.toNat]) ++ drawn ids next rest

variable (perform) in
/-- An operation draws at most one identifier. -/
def CountsUp (ids : State → IdCounter) : Prop :=
  ∀ state operation,
    ids (perform state operation).state = ids state ∨
      ids (perform state operation).state = (ids state).next.2

variable {ids : State → IdCounter}

theorem drawn_append (state : State) (first second : List Operation) :
    drawn perform ids state (first ++ second) =
      drawn perform ids state first ++ drawn perform ids (final perform state first) second := by
  induction first generalizing state with
  | nil => rfl
  | cons operation rest ih =>
      simp only [List.cons_append, drawn, final_cons]
      rw [ih, List.append_assoc]

variable (perform ids) in
theorem length_drawn_le (state : State) (first second : List Operation) :
    (drawn perform ids state first).length ≤
      (drawn perform ids state (first ++ second)).length := by
  rw [drawn_append, List.length_append]
  exact Nat.le_add_right _ _

/-- What an operation keeps as long as the counter has room, a run keeps that does not use the
room up. -/
theorem final_induction_of_drawn (Good : State → Prop) (hcounts : CountsUp perform ids)
    (hstep : ∀ state operation, (ids state).last.toNat < maxId.toNat → Good state →
      Good (perform state operation).state)
    {state : State} (hgood : Good state) (operations : List Operation)
    (hroom : (ids state).last.toNat + (drawn perform ids state operations).length <
      maxId.toNat) :
    Good (final perform state operations) := by
  induction operations generalizing state with
  | nil => exact hgood
  | cons operation rest ih =>
      have hlast : (ids state).last.toNat < maxId.toNat := by omega
      apply ih (hstep state operation hlast hgood)
      simp only [drawn] at hroom
      rcases hcounts state operation with hkept | hnext
      · simpa [hkept] using hroom
      · rw [hnext, if_neg (IdCounter.snd_next_ne _)] at hroom
        rw [hnext, IdCounter.last_next hlast]
        simp only [List.length_append, List.length_singleton] at hroom
        omega

theorem last_final (hcounts : CountsUp perform ids) (state : State)
    (operations : List Operation)
    (hroom : (ids state).last.toNat + (drawn perform ids state operations).length ≤
      maxId.toNat) :
    (ids (final perform state operations)).last.toNat =
      (ids state).last.toNat + (drawn perform ids state operations).length := by
  induction operations generalizing state with
  | nil => rfl
  | cons operation rest ih =>
      simp only [drawn, final_cons] at hroom ⊢
      rcases hcounts state operation with hkept | hnext
      · simp only [hkept, if_true, List.nil_append] at hroom ⊢
        have hrest := ih (perform state operation).state (by rw [hkept]; exact hroom)
        rw [hrest, hkept]
      · by_cases hsame : (ids state).next.2 = ids state
        · rw [hnext] at hroom ⊢
          simp only [hsame, if_true, List.nil_append] at hroom ⊢
          have hrest := ih (perform state operation).state (by rw [hnext, hsame]; exact hroom)
          rw [hrest, hnext, hsame]
        · rw [hnext] at hroom ⊢
          simp only [if_neg hsame, List.length_append, List.length_singleton] at hroom ⊢
          have hlast : (ids state).last.toNat < maxId.toNat := by omega
          have hstart := IdCounter.last_next hlast
          have hrest := ih (perform state operation).state (by rw [hnext, hstart]; omega)
          rw [hrest, hnext, hstart]
          omega

theorem room_append (hcounts : CountsUp perform ids) (state : State)
    (first second : List Operation)
    (hroom : (ids state).last.toNat +
      (drawn perform ids state (first ++ second)).length < maxId.toNat) :
    (ids (final perform state first)).last.toNat +
      (drawn perform ids (final perform state first) second).length < maxId.toNat := by
  rw [drawn_append, List.length_append] at hroom
  rw [last_final hcounts state first (by omega)]
  omega

/-- Before the counter wraps, the drawn identifiers are those that it has passed. -/
theorem mem_drawn_iff (hcounts : CountsUp perform ids) (state : State)
    (operations : List Operation)
    (hroom : (ids state).last.toNat + (drawn perform ids state operations).length ≤
      maxId.toNat) (id : Nat) :
    id ∈ drawn perform ids state operations ↔
      (ids state).last.toNat < id ∧
        id ≤ (ids (final perform state operations)).last.toNat := by
  induction operations generalizing state with
  | nil =>
      simp only [drawn, List.not_mem_nil, final_nil, false_iff]
      omega
  | cons operation rest ih =>
      have hfinal := last_final hcounts (perform state operation).state rest
      simp only [drawn, final_cons] at hroom ⊢
      by_cases hkept : ids (perform state operation).state = ids state
      · simp only [hkept, if_true, List.nil_append] at hroom ⊢
        rw [ih (perform state operation).state (by rw [hkept]; exact hroom), hkept]
      · rw [if_neg hkept] at hroom ⊢
        have hnext := (hcounts state operation).resolve_left hkept
        simp only [List.length_append, List.length_singleton] at hroom
        have hstart : (ids state).next.2.last.toNat = (ids state).last.toNat + 1 :=
          IdCounter.last_next (by omega)
        rw [← hnext] at hstart
        have hrest := ih (perform state operation).state (by omega)
        rw [List.singleton_append, List.mem_cons, hrest]
        have hle := hfinal (by omega)
        constructor
        · rintro (rfl | hlater)
          · omega
          · omega
        · rintro ⟨hlower, hupper⟩
          by_cases hfirst : id = (ids (perform state operation).state).last.toNat
          · exact Or.inl hfirst
          · exact Or.inr (by omega)

/-! ## Parts -/

section Part

variable {Part PartOperation PartError PartNote PartAnswer : Type}
  {performPart : Part → PartOperation → Outcome Part PartError PartNote PartAnswer}
  (part : State → Part) (concern? : Operation → Option PartOperation) (Good : State → Prop)
  (hkept : ∀ state operation, Good state → Good (perform state operation).state)
  (hpart : ∀ state operation, Good state → part (perform state operation).state =
    (concern? operation).elim (part state) fun concern => (performPart (part state) concern).state)

include hkept hpart

/-- A part of the state changes by the operations that concern it and stays the same otherwise. -/
theorem final_part {state : State} (hgood : Good state) (operations : List Operation) :
    part (final perform state operations) =
      final performPart (part state) (operations.filterMap concern?) := by
  induction operations generalizing state with
  | nil => rfl
  | cons operation rest ih =>
      rw [final_cons, ih (hkept state operation hgood), hpart state operation hgood,
        List.filterMap_cons]
      cases concern? operation with
      | none => rfl
      | some concern => rfl

theorem drawn_part (partIds : Part → IdCounter) {state : State} (hgood : Good state)
    (operations : List Operation) :
    drawn perform (fun state => partIds (part state)) state operations =
      drawn performPart partIds (part state) (operations.filterMap concern?) := by
  induction operations generalizing state with
  | nil => rfl
  | cons operation rest ih =>
      rw [drawn, ih (hkept state operation hgood), hpart state operation hgood,
        List.filterMap_cons]
      cases concern? operation with
      | none => simp
      | some concern => rfl

end Part

end Run

end Wamp
