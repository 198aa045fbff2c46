import Mathlib.Data.List.Basic
import Wamp.Uri.RadixTree

/-!
# Lookups in a radix tree

What a lookup finds after an insertion and after a removal, for any key.  Both need the edges of
every node to be in strictly ascending order of their first bytes; the order is kept by both.
-/

namespace Wamp.RadixTree

variable {α : Type}

/-! ## Labels -/

theorem isPrefixOf?_append (first second key : List UInt8) :
    (first ++ second).isPrefixOf? key =
      (first.isPrefixOf? key).bind fun rest => second.isPrefixOf? rest := by
  induction first generalizing key with
  | nil => rfl
  | cons b first ih =>
      cases key with
      | nil => rfl
      | cons c key =>
          simp only [List.cons_append, List.isPrefixOf?]
          split
          · exact ih key
          · rfl

theorem isPrefixOf?_self_append (label key : List UInt8) :
    label.isPrefixOf? (label ++ key) = some key :=
  List.isPrefixOf?_eq_some_iff_append_eq.mpr rfl

theorem eq_append_of_commonPart {left right common leftRest rightRest : List UInt8}
    (hcommon : commonPart left right = (common, leftRest, rightRest)) :
    left = common ++ leftRest ∧ right = common ++ rightRest := by
  have hleft := commonPart_append_left left right
  have hright := commonPart_append_right left right
  rw [hcommon] at hleft hright
  exact ⟨hleft.symm, hright.symm⟩

/-- A label that is used up is the common part, and the key goes on from it. -/
theorem eq_append_of_commonPart_nil {label key common rest : List UInt8}
    (hcommon : commonPart label key = (common, [], rest)) :
    label = common ∧ key = common ++ rest := by
  simpa using eq_append_of_commonPart hcommon

/-- Behind their common part two labels do not go on alike. -/
theorem commonPart_separates {left right common leftRest rightRest : List UInt8} {l : UInt8}
    (hcommon : commonPart left right = (common, l :: leftRest, rightRest)) :
    rightRest.head? ≠ some l := by
  induction left generalizing right common with
  | nil => simp [commonPart] at hcommon
  | cons first left ih =>
      cases right with
      | nil =>
          simp only [commonPart, Prod.mk.injEq] at hcommon
          simp [← hcommon.2.2]
      | cons second right =>
          unfold commonPart at hcommon
          split at hcommon
          next =>
            simp only [Prod.mk.injEq] at hcommon
            exact ih (Prod.ext rfl (Prod.ext hcommon.2.1 hcommon.2.2))
          next hne =>
            simp only [Prod.mk.injEq, List.cons.injEq] at hcommon
            rw [← hcommon.2.1.1, ← hcommon.2.2]
            simpa using Ne.symm hne

/-- A key that leaves a label half-way does not begin with the label. -/
theorem isPrefixOf?_commonPart {label key common leftRest rightRest : List UInt8} {l : UInt8}
    (hcommon : commonPart label key = (common, l :: leftRest, rightRest)) :
    label.isPrefixOf? key = none := by
  have hseparate := commonPart_separates hcommon
  obtain ⟨rfl, rfl⟩ := eq_append_of_commonPart hcommon
  rw [isPrefixOf?_append, isPrefixOf?_self_append, Option.bind_some]
  cases rightRest with
  | nil => rfl
  | cons r rightRest =>
      have hne : l ≠ r := by
        rintro rfl
        exact hseparate rfl
      simp [List.isPrefixOf?, hne]

/-! ## The order of the edges -/

/-- All first bytes lie above a byte. -/
def Edges.Above (lower : UInt8) : Edges α → Prop
  | .nil => True
  | .cons first _ _ others => lower < first ∧ others.Above lower

mutual

/-- The edges of every node are in strictly ascending order of their first bytes. -/
def Node.Ordered : Node α → Prop
  | .node _ edges => edges.Ordered

def Edges.Ordered : Edges α → Prop
  | .nil => True
  | .cons first _ target others => target.Ordered ∧ others.Above first ∧ others.Ordered

end

theorem Edges.Above.mono {edges : Edges α} {lower upper : UInt8} (hle : lower ≤ upper)
    (habove : edges.Above upper) : edges.Above lower := by
  cases edges with
  | nil => trivial
  | cons first rest target others =>
      exact ⟨UInt8.lt_of_le_of_lt hle habove.1, Above.mono hle habove.2⟩

theorem Edges.Above.get?_eq_none {edges : Edges α} {lower : UInt8}
    (habove : edges.Above lower) (bs : List UInt8) : edges.get? lower bs = none := by
  cases edges with
  | nil => rfl
  | cons first rest target others =>
      have hne : first ≠ lower := (UInt8.ne_of_lt habove.1).symm
      rw [Edges.get?, if_neg hne]
      exact get?_eq_none habove.2 bs

theorem Edges.Above.insert {edges : Edges α} {lower b : UInt8} (hlt : lower < b)
    (habove : edges.Above lower) (bs : List UInt8) (value : α) :
    (edges.insert b bs value).Above lower := by
  cases edges with
  | nil => exact ⟨hlt, trivial⟩
  | cons first rest target others =>
      unfold Edges.insert
      split
      next => exact ⟨hlt, habove⟩
      next =>
        split
        next => exact ⟨habove.1, Above.insert hlt habove.2 bs value⟩
        next => split <;> exact ⟨habove.1, habove.2⟩

theorem Edges.Above.folded {target : Node α} {others : Edges α} {lower first : UInt8}
    (hlt : lower < first) (habove : others.Above lower) (rest : List UInt8) :
    (Edges.folded first rest target others).Above lower := by
  unfold Edges.folded
  split
  next => exact habove
  next => exact ⟨hlt, habove⟩
  next => exact ⟨hlt, habove⟩

theorem Edges.Above.erase {edges : Edges α} {lower : UInt8} (habove : edges.Above lower)
    (b : UInt8) (bs : List UInt8) : (edges.erase b bs).Above lower := by
  cases edges with
  | nil => trivial
  | cons first rest target others =>
      unfold Edges.erase
      split
      next =>
        split
        next => exact habove
        next => exact Above.folded habove.1 habove.2 rest
      next => exact ⟨habove.1, Above.erase habove.2 b bs⟩

/-! ## Insertion -/

/-- One key behind a label, among all keys behind it. -/
theorem isPrefixOf?_bind_ite (label key other : List UInt8) (result : Option α)
    (lookup : List UInt8 → Option α) :
    ((label.isPrefixOf? other).bind fun rest => if rest = key then result else lookup rest) =
      if other = label ++ key then result else (label.isPrefixOf? other).bind lookup := by
  cases hrest : label.isPrefixOf? other with
  | none =>
      have hne : other ≠ label ++ key := by
        rintro rfl
        rw [isPrefixOf?_self_append] at hrest
        contradiction
      rw [if_neg hne]
      rfl
  | some rest =>
      have happend := List.isPrefixOf?_eq_some_iff_append_eq.mp hrest
      subst happend
      simp

theorem Node.get?_leaf (value : α) (key : List UInt8) :
    (Node.leaf value).get? key = if key = [] then some value else none := by
  cases key <;> simp [Node.leaf, Node.get?, Edges.get?]

theorem get?_leaf_bind (label key : List UInt8) (value : α) :
    ((label.isPrefixOf? key).bind fun rest => (Node.leaf value).get? rest) =
      if key = label then some value else none := by
  have hbind := isPrefixOf?_bind_ite label [] key (some value) fun _ => none
  simpa [Node.get?_leaf] using hbind

/-- A fork answers for the new key, and for the keys of the target behind the rest of its
label. -/
theorem Node.get?_fork (first : UInt8) (rest : List UInt8) (target : Node α)
    (key : List UInt8) (value : α) (hseparate : key.head? ≠ some first)
    (other : List UInt8) :
    (Node.fork first rest target key value).get? other =
      if other = key then some value
      else ((first :: rest).isPrefixOf? other).bind fun below => target.get? below := by
  cases key with
  | nil =>
      cases other with
      | nil => simp [Node.fork, Node.get?]
      | cons c cs =>
          simp only [Node.fork, Node.get?, Edges.get?, List.isPrefixOf?, beq_iff_eq]
          by_cases hfirst : first = c <;> simp [hfirst]
  | cons b bs =>
      have hne : first ≠ b := by
        rintro rfl
        exact hseparate rfl
      cases other with
      | nil =>
          unfold Node.fork
          simp only
          split <;> simp [Node.get?, List.isPrefixOf?]
      | cons c cs =>
          have hleaf := get?_leaf_bind bs cs value
          unfold Node.fork
          simp only
          split
          all_goals
            simp only [Node.get?, Edges.get?, List.isPrefixOf?, beq_iff_eq, hleaf,
              List.cons.injEq]
            by_cases hfirst : first = c
            · subst hfirst
              simp [hne, Ne.symm hne]
            · by_cases hb : b = c
              · subst hb
                simp [hne]
              · simp [hfirst, hb, Ne.symm hb]

mutual

theorem Node.get?_insert {node : Node α} (hordered : node.Ordered) (key : List UInt8)
    (value : α) (other : List UInt8) :
    (node.insert key value).get? other =
      if other = key then some value else node.get? other := by
  cases node with
  | node held edges =>
      cases key with
      | nil => cases other <;> simp [Node.insert, Node.get?]
      | cons b bs =>
          cases other with
          | nil => simp [Node.insert, Node.get?]
          | cons c cs =>
              simp only [Node.insert, Node.get?, List.cons.injEq]
              exact Edges.get?_insert hordered b bs value c cs

theorem Edges.get?_insert {edges : Edges α} (hordered : edges.Ordered) (b : UInt8)
    (bs : List UInt8) (value : α) (c : UInt8) (cs : List UInt8) :
    (edges.insert b bs value).get? c cs =
      if c = b ∧ cs = bs then some value else edges.get? c cs := by
  cases edges with
  | nil =>
      simp only [Edges.insert, Edges.get?, get?_leaf_bind]
      by_cases hb : b = c
      · simp [hb]
      · simp [hb, Ne.symm hb]
  | cons first rest target others =>
      obtain ⟨htarget, habove, hothers⟩ := hordered
      unfold Edges.insert
      split
      next hlt =>
        have hall : (Edges.cons first rest target others).Above b :=
          ⟨hlt, habove.mono (UInt8.le_of_lt hlt)⟩
        rw [Edges.get?, get?_leaf_bind]
        by_cases hb : b = c
        · subst hb
          simp [hall.get?_eq_none]
        · simp [hb, Ne.symm hb]
      next hge =>
        split
        next hlt =>
          rw [Edges.get?, Edges.get?, Edges.get?_insert hothers b bs value c cs]
          by_cases hfirst : first = c
          · subst hfirst
            simp [UInt8.ne_of_lt hlt]
          · simp [hfirst]
        next hle =>
          have hsame : b = first := UInt8.le_antisymm (UInt8.not_lt.mp hle) (UInt8.not_lt.mp hge)
          subst hsame
          by_cases hb : b = c
          · subst hb
            split
            next key hcommon =>
              -- The label is used up, and the key goes on below the target.
              obtain ⟨rfl, rfl⟩ := eq_append_of_commonPart_nil hcommon
              simp only [Edges.get?, if_true, true_and, Node.get?_insert htarget]
              exact isPrefixOf?_bind_ite _ key cs _ _
            next common next lower key hcommon =>
              -- The key leaves the label half-way, where the edge is split.
              have hseparate := commonPart_separates hcommon
              obtain ⟨rfl, rfl⟩ := eq_append_of_commonPart hcommon
              simp only [Edges.get?, if_true, true_and, isPrefixOf?_append, Option.bind_assoc,
                Node.get?_fork next lower target key value hseparate]
              exact isPrefixOf?_bind_ite common key cs _ _
          · split <;> simp [Edges.get?, hb, Ne.symm hb]

end

theorem Node.fork_ordered {first : UInt8} {target : Node α} {key : List UInt8}
    (htarget : target.Ordered) (hseparate : key.head? ≠ some first) (rest : List UInt8)
    (value : α) : (Node.fork first rest target key value).Ordered := by
  cases key with
  | nil => exact ⟨htarget, trivial, trivial⟩
  | cons b bs =>
      unfold Node.fork
      simp only
      split
      next hlt => exact ⟨trivial, ⟨hlt, trivial⟩, htarget, trivial, trivial⟩
      next hge =>
        have hne : first ≠ b := by
          rintro rfl
          exact hseparate rfl
        have hlt : first < b := UInt8.lt_of_le_of_ne (UInt8.not_lt.mp hge) hne
        exact ⟨htarget, ⟨hlt, trivial⟩, trivial, trivial, trivial⟩

mutual

theorem Node.Ordered.insert {node : Node α} (hordered : node.Ordered) (key : List UInt8)
    (value : α) : (node.insert key value).Ordered := by
  cases node with
  | node held edges =>
      cases key with
      | nil => exact hordered
      | cons b bs => exact Edges.Ordered.insert hordered b bs value

theorem Edges.Ordered.insert {edges : Edges α} (hordered : edges.Ordered) (b : UInt8)
    (bs : List UInt8) (value : α) : (edges.insert b bs value).Ordered := by
  cases edges with
  | nil => exact ⟨trivial, trivial, trivial⟩
  | cons first rest target others =>
      obtain ⟨htarget, habove, hothers⟩ := hordered
      unfold Edges.insert
      split
      next hlt =>
        exact ⟨trivial, ⟨hlt, habove.mono (UInt8.le_of_lt hlt)⟩, htarget, habove, hothers⟩
      next hge =>
        split
        next hlt =>
          exact ⟨htarget, habove.insert hlt bs value, Edges.Ordered.insert hothers b bs value⟩
        next hle =>
          split
          next key hcommon =>
            exact ⟨Node.Ordered.insert htarget key value, habove, hothers⟩
          next common next lower key hcommon =>
            have hseparate := commonPart_separates hcommon
            exact ⟨Node.fork_ordered htarget hseparate lower value, habove, hothers⟩

end

/-! ## Removal -/

/-- Folding changes no lookup. -/
theorem Edges.get?_folded {first : UInt8} {others : Edges α} (habove : others.Above first)
    (rest : List UInt8) (target : Node α) (c : UInt8) (cs : List UInt8) :
    (Edges.folded first rest target others).get? c cs =
      (Edges.cons first rest target others).get? c cs := by
  unfold Edges.folded
  split
  next =>
    rw [Edges.get?]
    split
    next hfirst =>
      subst hfirst
      rw [habove.get?_eq_none]
      cases rest.isPrefixOf? cs with
      | none => rfl
      | some key => cases key <;> rfl
    next => rfl
  next next lower below =>
    rw [Edges.get?, Edges.get?, isPrefixOf?_append]
    split
    next hfirst =>
      cases rest.isPrefixOf? cs with
      | none => rfl
      | some key =>
          cases key with
          | nil => rfl
          | cons k key =>
              simp only [Option.bind_some, List.isPrefixOf?, Node.get?, Edges.get?, beq_iff_eq]
              split <;> rfl
    next => rfl
  next => rfl

mutual

theorem Node.get?_erase {node : Node α} (hordered : node.Ordered) (key other : List UInt8) :
    (node.erase key).get? other = if other = key then none else node.get? other := by
  cases node with
  | node held edges =>
      cases key with
      | nil => cases other <;> simp [Node.erase, Node.get?]
      | cons b bs =>
          cases other with
          | nil => simp [Node.erase, Node.get?]
          | cons c cs =>
              simp only [Node.erase, Node.get?, List.cons.injEq]
              exact Edges.get?_erase hordered b bs c cs

theorem Edges.get?_erase {edges : Edges α} (hordered : edges.Ordered) (b : UInt8)
    (bs : List UInt8) (c : UInt8) (cs : List UInt8) :
    (edges.erase b bs).get? c cs =
      if c = b ∧ cs = bs then none else edges.get? c cs := by
  cases edges with
  | nil => simp [Edges.erase, Edges.get?]
  | cons first rest target others =>
      obtain ⟨htarget, habove, hothers⟩ := hordered
      unfold Edges.erase
      split
      next hfirst =>
        subst hfirst
        split
        next habsent =>
          rw [Edges.get?]
          split
          next hsame =>
            subst hsame
            by_cases hbs : cs = bs
            · simp [hbs, habsent]
            · simp [hbs]
          next hne => simp [Ne.symm hne]
        next key hkey =>
          have happend := List.isPrefixOf?_eq_some_iff_append_eq.mp hkey
          subst happend
          rw [Edges.get?_folded habove, Edges.get?, Edges.get?]
          split
          next hsame =>
            subst hsame
            simp only [Node.get?_erase htarget, true_and]
            exact isPrefixOf?_bind_ite rest key cs none _
          next hne => simp [Ne.symm hne]
      next hne =>
        rw [Edges.get?, Edges.get?, Edges.get?_erase hothers b bs c cs]
        split
        next hsame =>
          subst hsame
          simp [hne]
        next => rfl

end

theorem Edges.Ordered.folded {first : UInt8} {target : Node α} {others : Edges α}
    (htarget : target.Ordered) (habove : others.Above first) (hothers : others.Ordered)
    (rest : List UInt8) : (Edges.folded first rest target others).Ordered := by
  unfold Edges.folded
  split
  next => exact hothers
  next => exact ⟨htarget.1, habove, hothers⟩
  next => exact ⟨htarget, habove, hothers⟩

mutual

theorem Node.Ordered.erase {node : Node α} (hordered : node.Ordered) (key : List UInt8) :
    (node.erase key).Ordered := by
  cases node with
  | node held edges =>
      cases key with
      | nil => exact hordered
      | cons b bs => exact Edges.Ordered.erase hordered b bs

theorem Edges.Ordered.erase {edges : Edges α} (hordered : edges.Ordered) (b : UInt8)
    (bs : List UInt8) : (edges.erase b bs).Ordered := by
  cases edges with
  | nil => trivial
  | cons first rest target others =>
      obtain ⟨htarget, habove, hothers⟩ := hordered
      unfold Edges.erase
      split
      next =>
        split
        next => exact ⟨htarget, habove, hothers⟩
        next key hkey =>
          exact Edges.Ordered.folded (Node.Ordered.erase htarget key) habove hothers rest
      next => exact ⟨htarget, habove.erase b bs, Edges.Ordered.erase hothers b bs⟩

end

/-! ## Whole trees -/

def Ordered (tree : RadixTree α) : Prop :=
  tree.root.Ordered

theorem ordered_empty : (empty : RadixTree α).Ordered := trivial

theorem Ordered.insert {tree : RadixTree α} (hordered : tree.Ordered) (key : List UInt8)
    (value : α) : (tree.insert key value).Ordered :=
  Node.Ordered.insert hordered key value

theorem Ordered.erase {tree : RadixTree α} (hordered : tree.Ordered) (key : List UInt8) :
    (tree.erase key).Ordered :=
  Node.Ordered.erase hordered key

theorem get?_insert {tree : RadixTree α} (hordered : tree.Ordered) (key : List UInt8)
    (value : α) (other : List UInt8) :
    (tree.insert key value).get? other =
      if other = key then some value else tree.get? other :=
  Node.get?_insert hordered key value other

theorem get?_erase {tree : RadixTree α} (hordered : tree.Ordered) (key other : List UInt8) :
    (tree.erase key).get? other = if other = key then none else tree.get? other :=
  Node.get?_erase hordered key other

end Wamp.RadixTree
