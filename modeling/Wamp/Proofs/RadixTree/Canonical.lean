import Wamp.Proofs.RadixTree

/-!
# The canonical form of a radix tree

Below the root every node holds a value or branches.  Insertions and removals keep this form, and
a tree in this form is determined by what its lookups find: two such trees with the same values
under the same keys are equal, edge by edge.
-/

namespace Wamp.RadixTree

variable {α : Type}

/-! ## Compressed edges -/

def Edges.count : Edges α → Nat
  | .nil => 0
  | .cons _ _ _ others => others.count + 1

/-- The node holds a value or branches, so that it cannot be folded into the edge above it. -/
def Node.Firm : Node α → Prop
  | .node held edges => held = none → 2 ≤ edges.count

mutual

/-- Every node below this one is firm. -/
def Node.Compressed : Node α → Prop
  | .node _ edges => edges.Compressed

def Edges.Compressed : Edges α → Prop
  | .nil => True
  | .cons _ _ target others => target.Firm ∧ target.Compressed ∧ others.Compressed

end

theorem Edges.count_le_insert (edges : Edges α) (b : UInt8) (bs : List UInt8) (value : α) :
    edges.count ≤ (edges.insert b bs value).count := by
  cases edges with
  | nil => exact Nat.zero_le _
  | cons first rest target others =>
      have hothers := count_le_insert others b bs value
      unfold Edges.insert
      split
      next => simp [Edges.count]
      next =>
        split
        next => simpa [Edges.count] using hothers
        next => split <;> simp [Edges.count]

theorem Node.firm_leaf (value : α) : (Node.leaf value).Firm := by
  intro hnone
  contradiction

theorem Node.Firm.insert {node : Node α} (hfirm : node.Firm) (key : List UInt8) (value : α) :
    (node.insert key value).Firm := by
  cases node with
  | node held edges =>
      cases key with
      | nil =>
          intro hnone
          contradiction
      | cons b bs =>
          intro hnone
          exact Nat.le_trans (hfirm hnone) (edges.count_le_insert b bs value)

theorem Node.firm_fork (first : UInt8) (rest : List UInt8) (target : Node α)
    (key : List UInt8) (value : α) : (Node.fork first rest target key value).Firm := by
  cases key with
  | nil =>
      intro hnone
      contradiction
  | cons b bs =>
      unfold Node.fork
      simp only
      split <;> exact fun _ => Nat.le_refl 2

theorem Node.compressed_fork {target : Node α} (hfirm : target.Firm)
    (hcompressed : target.Compressed) (first : UInt8) (rest key : List UInt8) (value : α) :
    (Node.fork first rest target key value).Compressed := by
  cases key with
  | nil => exact ⟨hfirm, hcompressed, trivial⟩
  | cons b bs =>
      unfold Node.fork
      simp only
      split
      next => exact ⟨firm_leaf value, trivial, hfirm, hcompressed, trivial⟩
      next => exact ⟨hfirm, hcompressed, firm_leaf value, trivial, trivial⟩

mutual

theorem Node.Compressed.insert {node : Node α} (hcompressed : node.Compressed)
    (key : List UInt8) (value : α) : (node.insert key value).Compressed := by
  cases node with
  | node held edges =>
      cases key with
      | nil => exact hcompressed
      | cons b bs => exact Edges.Compressed.insert hcompressed b bs value

theorem Edges.Compressed.insert {edges : Edges α} (hcompressed : edges.Compressed) (b : UInt8)
    (bs : List UInt8) (value : α) : (edges.insert b bs value).Compressed := by
  cases edges with
  | nil => exact ⟨Node.firm_leaf value, trivial, trivial⟩
  | cons first rest target others =>
      obtain ⟨hfirm, htarget, hothers⟩ := hcompressed
      unfold Edges.insert
      split
      next => exact ⟨Node.firm_leaf value, trivial, hfirm, htarget, hothers⟩
      next =>
        split
        next => exact ⟨hfirm, htarget, Edges.Compressed.insert hothers b bs value⟩
        next =>
          split
          next key _ =>
            exact ⟨hfirm.insert key value, Node.Compressed.insert htarget key value, hothers⟩
          next next lower key _ =>
            exact ⟨Node.firm_fork next lower target key value,
              Node.compressed_fork hfirm htarget next lower key value, hothers⟩

end

/-- An edge to a firm node stays as it is. -/
theorem Edges.folded_of_firm {target : Node α} (hfirm : target.Firm) (first : UInt8)
    (rest : List UInt8) (others : Edges α) :
    Edges.folded first rest target others = .cons first rest target others := by
  unfold Edges.folded
  split
  next => simp [Node.Firm, Edges.count] at hfirm
  next => simp [Node.Firm, Edges.count] at hfirm
  next => rfl

/-- Whatever becomes of the target, what is left of the edge after folding is compressed. -/
theorem Edges.Compressed.folded {target : Node α} {others : Edges α}
    (htarget : target.Compressed) (hothers : others.Compressed) (first : UInt8)
    (rest : List UInt8) : (Edges.folded first rest target others).Compressed := by
  unfold Edges.folded
  split
  next => exact hothers
  next =>
    obtain ⟨hfirm, hbelow, -⟩ := htarget
    exact ⟨hfirm, hbelow, hothers⟩
  next hnil hsingle =>
    refine ⟨?_, htarget, hothers⟩
    match target with
    | .node (some _) _ => exact fun hnone => nomatch hnone
    | .node none .nil => exact absurd rfl hnil
    | .node none (.cons next lower below .nil) => exact absurd rfl (hsingle next lower below)
    | .node none (.cons _ _ _ (.cons _ _ _ _)) => exact fun _ => Nat.le_add_left 2 _

mutual

theorem Node.Compressed.erase {node : Node α} (hcompressed : node.Compressed)
    (key : List UInt8) : (node.erase key).Compressed := by
  cases node with
  | node held edges =>
      cases key with
      | nil => exact hcompressed
      | cons b bs => exact Edges.Compressed.erase hcompressed b bs

theorem Edges.Compressed.erase {edges : Edges α} (hcompressed : edges.Compressed) (b : UInt8)
    (bs : List UInt8) : (edges.erase b bs).Compressed := by
  cases edges with
  | nil => trivial
  | cons first rest target others =>
      obtain ⟨hfirm, htarget, hothers⟩ := hcompressed
      unfold Edges.erase
      split
      next =>
        split
        next => exact ⟨hfirm, htarget, hothers⟩
        next key _ =>
          exact Edges.Compressed.folded (Node.Compressed.erase htarget key) hothers first rest
      next => exact ⟨hfirm, htarget, Edges.Compressed.erase hothers b bs⟩

end

/-! ## Lookups determine the tree -/

theorem Edges.get?_cons_label (first : UInt8) (rest : List UInt8) (target : Node α)
    (others : Edges α) (key : List UInt8) :
    (Edges.cons first rest target others).get? first (rest ++ key) = target.get? key := by
  rw [Edges.get?, if_pos rfl, isPrefixOf?_self_append, Option.bind_some]

theorem Node.exists_get? : (node : Node α) → node.Firm → node.Compressed →
    ∃ key value, node.get? key = some value
  | .node (some value) _, _, _ => ⟨[], value, rfl⟩
  | .node none .nil, hfirm, _ => absurd (hfirm rfl) (by simp [Edges.count])
  | .node none (.cons first rest target others), _, ⟨hfirm, hcompressed, _⟩ => by
      obtain ⟨key, value, hvalue⟩ := target.exists_get? hfirm hcompressed
      refine ⟨first :: (rest ++ key), value, ?_⟩
      rw [Node.get?, Edges.get?_cons_label, hvalue]

/-- Not all keys at a firm node begin with one and the same byte. -/
theorem Node.exists_get?_of_head_ne {node : Node α} (hfirm : node.Firm)
    (hordered : node.Ordered) (hcompressed : node.Compressed) (c : UInt8) :
    ∃ key value, node.get? key = some value ∧ key.head? ≠ some c := by
  match node with
  | .node (some value) _ => exact ⟨[], value, rfl, by simp⟩
  | .node none .nil => simp [Firm, Edges.count] at hfirm
  | .node none (.cons first rest target .nil) => simp [Firm, Edges.count] at hfirm
  | .node none (.cons first rest target (.cons second more lower others)) =>
      obtain ⟨hfirst, htarget, hsecond, hlower, -⟩ := hcompressed
      obtain ⟨-, ⟨hlt, -⟩, -⟩ := hordered
      by_cases hc : first = c
      · obtain ⟨key, value, hvalue⟩ := lower.exists_get? hsecond hlower
        have hne : first ≠ second := UInt8.ne_of_lt hlt
        refine ⟨second :: (more ++ key), value, ?_, ?_⟩
        · rw [Node.get?, Edges.get?, if_neg hne, Edges.get?_cons_label, hvalue]
        · simp [← hc, Ne.symm hne]
      · obtain ⟨key, value, hvalue⟩ := target.exists_get? hfirst htarget
        refine ⟨first :: (rest ++ key), value, ?_, ?_⟩
        · rw [Node.get?, Edges.get?_cons_label, hvalue]
        · simp [hc]

/-- A label that begins every key behind another label begins that label. -/
theorem prefix_of_behind {target : Node α} (hfirm : target.Firm) (hordered : target.Ordered)
    (hcompressed : target.Compressed) {label rest : List UInt8}
    (hbehind : ∀ key value, target.get? key = some value → label <+: rest ++ key) :
    label <+: rest := by
  obtain ⟨key, value, hvalue⟩ := target.exists_get? hfirm hcompressed
  have hrest : rest <+: rest ++ key := List.prefix_append rest key
  rcases List.prefix_or_prefix_of_prefix (hbehind key value hvalue) hrest with hlabel | hlonger
  · exact hlabel
  · obtain ⟨more, rfl⟩ := hlonger
    cases more with
    | nil => simp
    | cons c more =>
        -- The target stores a key that does not go on as the longer label does.
        obtain ⟨other, found, hfound, hhead⟩ :=
          Node.exists_get?_of_head_ne hfirm hordered hcompressed c
        have hother := (List.prefix_append_right_inj rest).mp (hbehind other found hfound)
        obtain ⟨last, rfl⟩ := hother
        simp at hhead

/-- Two edges behind which the same is found have the same label. -/
theorem label_eq {left right : Node α} {label other : List UInt8}
    (hleft : left.Firm ∧ left.Ordered ∧ left.Compressed)
    (hright : right.Firm ∧ right.Ordered ∧ right.Compressed)
    (hsame : ∀ key, (label.isPrefixOf? key).bind (fun rest => left.get? rest) =
      (other.isPrefixOf? key).bind fun rest => right.get? rest) : label = other := by
  have hbehind : ∀ (node : Node α) (first second : List UInt8) (lookup : List UInt8 → Option α),
      (∀ key, (first.isPrefixOf? key).bind (fun rest => node.get? rest) =
        (second.isPrefixOf? key).bind lookup) →
      ∀ key value, node.get? key = some value → second <+: first ++ key := by
    intro node first second lookup hagree key value hvalue
    have hfound := hagree (first ++ key)
    rw [isPrefixOf?_self_append, Option.bind_some, hvalue] at hfound
    obtain ⟨rest, hrest, -⟩ := Option.bind_eq_some_iff.mp hfound.symm
    exact ⟨rest, List.isPrefixOf?_eq_some_iff_append_eq.mp hrest⟩
  have hother : other <+: label :=
    prefix_of_behind hleft.1 hleft.2.1 hleft.2.2 (hbehind left label other _ hsame)
  have hlabel : label <+: other :=
    prefix_of_behind hright.1 hright.2.1 hright.2.2
      (hbehind right other label _ fun key => (hsame key).symm)
  exact hlabel.eq_of_length (Nat.le_antisymm hlabel.length_le hother.length_le)

/-- The least first byte of nonempty compressed edges is the first byte of a stored key. -/
theorem Edges.Compressed.exists_get?_first {first : UInt8} {rest : List UInt8}
    {target : Node α} {others : Edges α}
    (hcompressed : (Edges.cons first rest target others).Compressed) :
    ∃ bs value, (Edges.cons first rest target others).get? first bs = some value := by
  obtain ⟨key, value, hvalue⟩ := target.exists_get? hcompressed.1 hcompressed.2.1
  refine ⟨rest ++ key, value, ?_⟩
  rw [Edges.get?_cons_label, hvalue]

theorem Edges.Ordered.first_le {first : UInt8} {rest : List UInt8} {target : Node α}
    {others : Edges α} (hordered : (Edges.cons first rest target others).Ordered) {b : UInt8}
    {bs : List UInt8} {value : α}
    (hfound : (Edges.cons first rest target others).get? b bs = some value) : first ≤ b := by
  by_contra hnot
  have hlt : b < first := UInt8.not_le.mp hnot
  have hall : (Edges.cons first rest target others).Above b :=
    ⟨hlt, hordered.2.1.mono (UInt8.le_of_lt hlt)⟩
  rw [hall.get?_eq_none] at hfound
  contradiction

mutual

/-- Nodes in canonical form that answer alike are equal. -/
theorem Node.ext_get? : {left right : Node α} → left.Ordered → left.Compressed →
    right.Ordered → right.Compressed → (∀ key, left.get? key = right.get? key) → left = right
  | .node held edges, .node other more, hleft, hpacked, hright, hfolded, hsame => by
      have hheld : held = other := hsame []
      have hedges : edges = more :=
        Edges.ext_get? hleft hpacked hright hfolded fun b bs => hsame (b :: bs)
      rw [hheld, hedges]

theorem Edges.ext_get? : {left right : Edges α} → left.Ordered → left.Compressed →
    right.Ordered → right.Compressed → (∀ b bs, left.get? b bs = right.get? b bs) → left = right
  | .nil, .nil, _, _, _, _, _ => rfl
  | .nil, .cons first rest target others, _, _, _, hpacked, hsame => by
      obtain ⟨bs, value, hvalue⟩ := hpacked.exists_get?_first
      rw [← hsame] at hvalue
      contradiction
  | .cons first rest target others, .nil, _, hpacked, _, _, hsame => by
      obtain ⟨bs, value, hvalue⟩ := hpacked.exists_get?_first
      rw [hsame] at hvalue
      contradiction
  | .cons first rest target others, .cons second more lower beside, hleft, hpacked, hright,
      hfolded, hsame => by
      have hfirst : first = second := by
        obtain ⟨bs, value, hvalue⟩ := hpacked.exists_get?_first
        obtain ⟨cs, found, hfound⟩ := hfolded.exists_get?_first
        rw [← hsame] at hfound
        rw [hsame] at hvalue
        exact UInt8.le_antisymm (hleft.first_le hfound) (hright.first_le hvalue)
      subst hfirst
      obtain ⟨htarget, habove, hothers⟩ := hleft
      obtain ⟨hlower, hbeyond, hbeside⟩ := hright
      have hbehind : ∀ key, (rest.isPrefixOf? key).bind (fun below => target.get? below) =
          (more.isPrefixOf? key).bind fun below => lower.get? below := by
        intro key
        have hkey := hsame first key
        rwa [Edges.get?, if_pos rfl, Edges.get?, if_pos rfl] at hkey
      have hlabel : rest = more :=
        label_eq ⟨hpacked.1, htarget, hpacked.2.1⟩ ⟨hfolded.1, hlower, hfolded.2.1⟩ hbehind
      subst hlabel
      have hnode : target = lower := by
        refine Node.ext_get? htarget hpacked.2.1 hlower hfolded.2.1 fun key => ?_
        simpa [isPrefixOf?_self_append] using hbehind (rest ++ key)
      have hrest : others = beside := by
        refine Edges.ext_get? hothers hpacked.2.2 hbeside hfolded.2.2 fun b bs => ?_
        by_cases hb : first = b
        · rw [← hb, habove.get?_eq_none, hbeyond.get?_eq_none]
        · have hkey := hsame b bs
          rwa [Edges.get?, if_neg hb, Edges.get?, if_neg hb] at hkey
      rw [hnode, hrest]

end

/-! ## The number of values -/

@[simp] theorem Edges.length_toList_cons (first : UInt8) (rest : List UInt8) (target : Node α)
    (others : Edges α) : (Edges.cons first rest target others).toList.length =
      target.toList.length + others.toList.length := by
  simp [Edges.toList]

theorem Node.length_toList_leaf (value : α) : (Node.leaf value).toList.length = 1 := rfl

theorem Node.length_toList_fork (first : UInt8) (rest : List UInt8) (target : Node α)
    (key : List UInt8) (value : α) :
    (Node.fork first rest target key value).toList.length = target.toList.length + 1 := by
  cases key with
  | nil => simp [fork, Node.toList, Edges.toList, Nat.add_comm]
  | cons b bs =>
      unfold fork
      simp only
      split <;> simp [Node.toList, Edges.toList, length_toList_leaf, Nat.add_comm]

mutual

theorem Node.length_toList_insert {node : Node α} (hordered : node.Ordered) (key : List UInt8)
    (value : α) : (node.insert key value).toList.length =
      if (node.get? key).isSome then node.toList.length else node.toList.length + 1 := by
  cases node with
  | node held edges =>
      cases key with
      | nil => cases held <;> simp [Node.insert, Node.toList, Node.get?, Nat.add_comm]
      | cons b bs =>
          have hedges := Edges.length_toList_insert hordered b bs value
          simp only [Node.insert, Node.toList, Node.get?, List.length_append, hedges]
          split <;> rfl

theorem Edges.length_toList_insert {edges : Edges α} (hordered : edges.Ordered) (b : UInt8)
    (bs : List UInt8) (value : α) : (edges.insert b bs value).toList.length =
      if (edges.get? b bs).isSome then edges.toList.length else edges.toList.length + 1 := by
  cases edges with
  | nil => simp [Edges.insert, Edges.get?, Edges.toList, Node.length_toList_leaf]
  | cons first rest target others =>
      obtain ⟨htarget, habove, hothers⟩ := hordered
      unfold Edges.insert
      split
      next hlt =>
        have hall : (Edges.cons first rest target others).Above b :=
          ⟨hlt, habove.mono (UInt8.le_of_lt hlt)⟩
        simp [hall.get?_eq_none, Node.length_toList_leaf, Nat.add_comm]
      next hge =>
        split
        next hlt =>
          have hlength := Edges.length_toList_insert hothers b bs value
          rw [Edges.get?, if_neg (UInt8.ne_of_lt hlt), Edges.length_toList_cons,
            Edges.length_toList_cons, hlength]
          split <;> rfl
        next hle =>
          have hsame : b = first := UInt8.le_antisymm (UInt8.not_lt.mp hle) (UInt8.not_lt.mp hge)
          subst hsame
          split
          next key hcommon =>
            obtain ⟨rfl, rfl⟩ := eq_append_of_commonPart_nil hcommon
            have hlength := Node.length_toList_insert htarget key value
            rw [Edges.get?_cons_label, Edges.length_toList_cons, Edges.length_toList_cons, hlength]
            split <;> omega
          next common next lower key hcommon =>
            have hstray := isPrefixOf?_commonPart hcommon
            simp only [Edges.get?, hstray, Edges.length_toList_cons, Node.length_toList_fork,
              Option.bind_none, Option.isSome_none, if_true, Bool.false_eq_true, if_false]
            omega

end

theorem Edges.length_toList_folded (first : UInt8) (rest : List UInt8) (target : Node α)
    (others : Edges α) : (Edges.folded first rest target others).toList.length =
      target.toList.length + others.toList.length := by
  unfold Edges.folded
  split <;> simp [Node.toList, Edges.toList]

mutual

theorem Node.length_toList_erase (node : Node α) (key : List UInt8) :
    (node.erase key).toList.length + (if (node.get? key).isSome then 1 else 0) =
      node.toList.length := by
  cases node with
  | node held edges =>
      cases key with
      | nil => cases held <;> simp [Node.erase, Node.toList, Node.get?, Nat.add_comm]
      | cons b bs =>
          have hedges := Edges.length_toList_erase edges b bs
          rw [Node.erase, Node.toList, Node.toList, Node.get?, List.length_append,
            List.length_append]
          omega

theorem Edges.length_toList_erase (edges : Edges α) (b : UInt8) (bs : List UInt8) :
    (edges.erase b bs).toList.length + (if (edges.get? b bs).isSome then 1 else 0) =
      edges.toList.length := by
  cases edges with
  | nil => rfl
  | cons first rest target others =>
      unfold Edges.erase Edges.get?
      split
      next =>
        cases hrest : rest.isPrefixOf? bs with
        | none => rfl
        | some key =>
            have htarget := Node.length_toList_erase target key
            simp only [Edges.length_toList_folded, Edges.length_toList_cons, Option.bind_some]
            omega
      next =>
        have hothers := Edges.length_toList_erase others b bs
        simp only [Edges.length_toList_cons]
        omega

end

/-! ## Whole trees -/

/-- The tree is ordered and compressed, and counts its values right. -/
structure Canonical (tree : RadixTree α) : Prop where
  ordered : tree.Ordered
  compressed : tree.root.Compressed
  size_eq : tree.size = tree.toList.length

theorem canonical_empty : (empty : RadixTree α).Canonical where
  ordered := ordered_empty
  compressed := trivial
  size_eq := rfl

namespace Canonical

variable {tree other : RadixTree α}

theorem insert (hcanonical : tree.Canonical) (key : List UInt8) (value : α) :
    (tree.insert key value).Canonical where
  ordered := hcanonical.ordered.insert key value
  compressed := Node.Compressed.insert hcanonical.compressed key value
  size_eq := by
    have hlength := Node.length_toList_insert hcanonical.ordered key value
    have hsize := hcanonical.size_eq
    unfold toList at hsize ⊢
    unfold RadixTree.insert get?
    rw [hlength, hsize]

theorem erase (hcanonical : tree.Canonical) (key : List UInt8) :
    (tree.erase key).Canonical where
  ordered := hcanonical.ordered.erase key
  compressed := Node.Compressed.erase hcanonical.compressed key
  size_eq := by
    have hlength := Node.length_toList_erase tree.root key
    have hsize := hcanonical.size_eq
    unfold toList at hsize ⊢
    unfold RadixTree.erase get?
    simp only
    split at hlength
    next hfound =>
      rw [if_pos hfound]
      omega
    next habsent =>
      rw [if_neg habsent]
      omega

/-- What the lookups find determines the whole tree. -/
theorem ext_get? (hcanonical : tree.Canonical) (hother : other.Canonical)
    (hsame : ∀ key, tree.get? key = other.get? key) : tree = other := by
  have hroot : tree.root = other.root :=
    Node.ext_get? hcanonical.ordered hcanonical.compressed hother.ordered hother.compressed hsame
  have hsize : tree.size = other.size := by
    rw [hcanonical.size_eq, hother.size_eq, toList, toList, hroot]
  cases tree
  cases other
  simp_all

end Canonical

end Wamp.RadixTree
