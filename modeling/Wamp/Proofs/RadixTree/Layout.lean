import Wamp.Proofs.RadixTree.FiniteMap

/-!
# The layout of a radix tree

A radix tree may be stored with less care: each edge of a node is kept under a byte together with
its whole label, and nothing ties the two, or keeps a label from being empty.  Insertions first
cut an edge and then go on below it, and removals join edges while they come back.  The trees that
are built in this layout are exactly those of the radix trees, so they are canonical as well: the
labels begin with their bytes, nodes below the root hold a value or branch, and the final map
determines the whole tree.
-/

namespace Wamp.RadixTree

variable {α : Type}

/-! ## Stored trees -/

mutual

inductive Stored (α : Type) where
  | node (value : Option α) (children : Children α)
  deriving DecidableEq, Repr

/-- The edges of a node by their bytes, from the least to the greatest. -/
inductive Children (α : Type) where
  | nil
  | cons (byte : UInt8) (label : List UInt8) (child : Stored α) (others : Children α)
  deriving DecidableEq, Repr

end

namespace Children

def find? (byte : UInt8) : Children α → Option (List UInt8 × Stored α)
  | .nil => none
  | .cons kept label child others =>
    if kept = byte then some (label, child) else others.find? byte

def put (byte : UInt8) (label : List UInt8) (child : Stored α) : Children α → Children α
  | .nil => .cons byte label child .nil
  | .cons kept other below others =>
    if byte < kept then .cons byte label child (.cons kept other below others)
    else if byte = kept then .cons byte label child others
    else .cons kept other below (others.put byte label child)

def remove (byte : UInt8) : Children α → Children α
  | .nil => .nil
  | .cons kept label child others =>
    if kept = byte then others else .cons kept label child (others.remove byte)

def count : Children α → Nat
  | .nil => 0
  | .cons _ _ _ others => others.count + 1

/-- An edge is put back after a removal behind it.  It goes if nothing is left there, and takes
over the only edge of a node that holds nothing. -/
def compacted (byte : UInt8) (label : List UInt8) (child : Stored α) (children : Children α) :
    Children α :=
  match child with
  | .node none .nil => children.remove byte
  | .node none (.cons _ lower below .nil) => children.put byte (label ++ lower) below
  | _ => children.put byte label child

end Children

namespace Stored

def value? : Stored α → Option α
  | .node value _ => value

def children : Stored α → Children α
  | .node _ children => children

def commonLength (left right : List UInt8) : Nat :=
  ((left.zip right).takeWhile fun pair => pair.1 == pair.2).length

/-- An edge whose label goes on behind the common part is cut there. -/
def cut (common : Nat) (label : List UInt8) (child : Stored α) : List UInt8 × Stored α :=
  match label.drop common with
  | [] => (label, child)
  | next :: lower => (label.take common, .node none (.cons next (next :: lower) child .nil))

/-- Inserts a key, at most so deep, and hands back the value that gives way. -/
def insert? (value : α) : (depth : Nat) → (key : List UInt8) → Stored α →
    Option (Option α × Stored α)
  | 0, _, _ => none
  | _ + 1, [], .node held children => some (held, .node (some value) children)
  | depth + 1, first :: rest, .node held children =>
    match children.find? first with
    | none =>
      some (none, .node held (children.put first (first :: rest) (.node (some value) .nil)))
    | some (label, child) =>
      let common := commonLength label (first :: rest)
      let edge := cut common label child
      (edge.2.insert? value depth ((first :: rest).drop common)).map fun (displaced, child) =>
        (displaced, .node held (children.put first edge.1 child))

/-- Removes a key, at most so deep, and hands back its value. -/
def remove? : (depth : Nat) → (key : List UInt8) → Stored α → Option (Option α × Stored α)
  | 0, _, _ => none
  | _ + 1, [], .node held children => some (held, .node none children)
  | depth + 1, first :: rest, .node held children =>
    match children.find? first with
    | none => some (none, .node held children)
    | some (label, child) =>
      match label.isPrefixOf? (first :: rest) with
      | none => some (none, .node held children)
      | some key =>
        (child.remove? depth key).map fun (removed, child) =>
          if removed.isSome then (removed, .node held (children.compacted first label child))
          else (none, .node held (children.put first label child))

end Stored

mutual

/-- All edges of a stored tree: their bytes, their labels and where they lead. -/
def Stored.edges : Stored α → List (UInt8 × List UInt8 × Stored α)
  | .node _ children => children.edges

def Children.edges : Children α → List (UInt8 × List UInt8 × Stored α)
  | .nil => []
  | .cons byte label child others => (byte, label, child) :: (child.edges ++ others.edges)

end

/-- Labels are not empty and begin with the byte under which they are kept, and nodes below the
root hold a value or branch. -/
structure Stored.Compact (root : Stored α) : Prop where
  head_label : ∀ byte label child, (byte, label, child) ∈ root.edges → label.head? = some byte
  firm : ∀ byte label child, (byte, label, child) ∈ root.edges →
    child.value?.isSome ∨ 2 ≤ child.children.count

structure StoredTree (α : Type) where
  root : Stored α := .node none .nil
  length : Nat := 0
  deriving DecidableEq, Repr

namespace StoredTree

/-- Makes a change, and says which value is displaced.  A key has no more parts than bytes. -/
def change? (tree : StoredTree α) : Change α → Option (Option α × StoredTree α)
  | .put key value =>
    let bytes := Uri.bytes key
    (tree.root.insert? value (bytes.length + 1) bytes).map fun (displaced, root) =>
      (displaced, { root, length := if displaced.isNone then tree.length + 1 else tree.length })
  | .drop key =>
    let bytes := Uri.bytes key
    (tree.root.remove? (bytes.length + 1) bytes).map fun (removed, root) =>
      (removed, { root, length := if removed.isSome then tree.length - 1 else tree.length })

def built? (changes : List (Change α)) : Option (StoredTree α) :=
  changes.foldlM (fun tree change => (tree.change? change).map Prod.snd) {}

end StoredTree

/-! ## How a tree is stored -/

mutual

def Node.stored : Node α → Stored α
  | .node held edges => .node held edges.stored

def Edges.stored : Edges α → Children α
  | .nil => .nil
  | .cons first rest target others =>
    .cons first (first :: rest) target.stored others.stored

end

def stored (tree : RadixTree α) : StoredTree α where
  root := tree.root.stored
  length := tree.size

mutual

theorem Node.stored_inj : {left right : Node α} → left.stored = right.stored → left = right
  | .node held edges, .node other more, hsame => by
      obtain ⟨rfl, hedges⟩ := Stored.node.inj hsame
      rw [Edges.stored_inj hedges]

theorem Edges.stored_inj : {left right : Edges α} → left.stored = right.stored → left = right
  | .nil, .nil, _ => rfl
  | .nil, .cons _ _ _ _, hsame => nomatch hsame
  | .cons _ _ _ _, .nil, hsame => nomatch hsame
  | .cons first rest target others, .cons second more lower beside, hsame => by
      obtain ⟨rfl, hlabel, htarget, hothers⟩ := Children.cons.inj hsame
      rw [(List.cons.inj hlabel).2, Node.stored_inj htarget, Edges.stored_inj hothers]

end

theorem stored_inj {tree other : RadixTree α} (hsame : tree.stored = other.stored) :
    tree = other := by
  obtain ⟨root, size⟩ := tree
  obtain ⟨top, count⟩ := other
  obtain ⟨hroot, rfl⟩ := StoredTree.mk.inj hsame
  obtain rfl : root = top := Node.stored_inj hroot
  rfl

theorem Edges.count_stored (edges : Edges α) : edges.stored.count = edges.count := by
  cases edges with
  | nil => rfl
  | cons first rest target others => exact congrArg (· + 1) (count_stored others)

mutual

/-- Every edge of a stored tree is one of the tree. -/
theorem Node.exists_of_mem_edges {node : Node α} (hcompressed : node.Compressed)
    {byte : UInt8} {label : List UInt8} {child : Stored α}
    (hmem : (byte, label, child) ∈ node.stored.edges) :
    ∃ rest target, label = byte :: rest ∧ child = Node.stored target ∧ target.Firm := by
  cases node with
  | node held edges => exact Edges.exists_of_mem_edges hcompressed hmem

theorem Edges.exists_of_mem_edges {edges : Edges α} (hcompressed : edges.Compressed)
    {byte : UInt8} {label : List UInt8} {child : Stored α}
    (hmem : (byte, label, child) ∈ edges.stored.edges) :
    ∃ rest target, label = byte :: rest ∧ child = Node.stored target ∧ target.Firm := by
  cases edges with
  | nil => simp [Edges.stored, Children.edges] at hmem
  | cons first rest target others =>
      obtain ⟨hfirm, htarget, hothers⟩ := hcompressed
      rw [Edges.stored, Children.edges, List.mem_cons, List.mem_append] at hmem
      rcases hmem with hhere | hbelow | hbeside
      · obtain ⟨rfl, hsame⟩ := Prod.mk.inj hhere
        obtain ⟨rfl, rfl⟩ := Prod.mk.inj hsame
        exact ⟨rest, target, rfl, rfl, hfirm⟩
      · exact Node.exists_of_mem_edges htarget hbelow
      · exact Edges.exists_of_mem_edges hothers hbeside

end

theorem Node.Compressed.compact {node : Node α} (hcompressed : node.Compressed) :
    node.stored.Compact where
  head_label byte label child hmem := by
    obtain ⟨rest, target, rfl, -, -⟩ := Node.exists_of_mem_edges hcompressed hmem
    rfl
  firm byte label child hmem := by
    obtain ⟨rest, target, -, rfl, hfirm⟩ := Node.exists_of_mem_edges hcompressed hmem
    match target with
    | .node (some value) edges => exact Or.inl rfl
    | .node none edges => exact Or.inr (edges.count_stored ▸ hfirm rfl)

/-! ## The edge on the way to a key -/

def Edges.find? (b : UInt8) : Edges α → Option (List UInt8 × Node α)
  | .nil => none
  | .cons first rest target others =>
    if first = b then some (rest, target) else others.find? b

theorem Edges.find?_stored (edges : Edges α) (b : UInt8) :
    edges.stored.find? b =
      (edges.find? b).map fun (rest, target) => (b :: rest, target.stored) := by
  cases edges with
  | nil => rfl
  | cons first rest target others =>
      rw [Edges.stored, Children.find?, Edges.find?, find?_stored others b]
      split
      next hfirst =>
        subst hfirst
        rfl
      next => rfl

theorem Edges.get?_eq_find? (edges : Edges α) (b : UInt8) (bs : List UInt8) :
    edges.get? b bs = (edges.find? b).bind fun (rest, target) =>
      (rest.isPrefixOf? bs).bind fun key => target.get? key := by
  cases edges with
  | nil => rfl
  | cons first rest target others =>
      rw [Edges.get?, Edges.find?, get?_eq_find? others b bs]
      split <;> rfl

theorem Edges.Above.lt_of_find? {edges : Edges α} {lower b : UInt8} (habove : edges.Above lower)
    {edge : List UInt8 × Node α} (hfound : edges.find? b = some edge) : lower < b := by
  cases edges with
  | nil => contradiction
  | cons first rest target others =>
      unfold Edges.find? at hfound
      split at hfound
      next hfirst => exact hfirst ▸ habove.1
      next => exact lt_of_find? habove.2 hfound

/-- What edges hand down to every target holds behind the edge that is found. -/
theorem Edges.forall_find? {Holds : Edges α → Prop} {Good : Node α → Prop}
    (hcons : ∀ first rest target others, Holds (.cons first rest target others) →
      Good target ∧ Holds others)
    {edges : Edges α} (hholds : Holds edges) {b : UInt8} {rest : List UInt8} {target : Node α}
    (hfound : edges.find? b = some (rest, target)) : Good target := by
  cases edges with
  | nil => contradiction
  | cons first label below others =>
      obtain ⟨hgood, hothers⟩ := hcons first label below others hholds
      unfold Edges.find? at hfound
      split at hfound
      next =>
        obtain ⟨rfl, rfl⟩ := Prod.mk.inj (Option.some.inj hfound)
        exact hgood
      next => exact forall_find? hcons hothers hfound

theorem Edges.Ordered.find? {edges : Edges α} (hordered : edges.Ordered) {b : UInt8}
    {rest : List UInt8} {target : Node α} (hfound : edges.find? b = some (rest, target)) :
    target.Ordered :=
  Edges.forall_find? (fun _ _ _ _ hcons => ⟨hcons.1, hcons.2.2⟩) hordered hfound

theorem Edges.Compressed.find? {edges : Edges α} (hcompressed : edges.Compressed) {b : UInt8}
    {rest : List UInt8} {target : Node α} (hfound : edges.find? b = some (rest, target)) :
    target.Compressed :=
  Edges.forall_find? (fun _ _ _ _ hcons => hcons.2) hcompressed hfound

/-- Behind the first edges nothing is put in front of them. -/
theorem Children.put_cons_of_lt {byte kept : UInt8} (hlt : kept < byte) (label other : List UInt8)
    (child below : Stored α) (others : Children α) :
    (Children.cons kept other below others).put byte label child =
      .cons kept other below (others.put byte label child) := by
  rw [Children.put, if_neg (UInt8.not_lt.mpr (UInt8.le_of_lt hlt)),
    if_neg (UInt8.ne_of_lt hlt).symm]

theorem Children.put_cons_self (byte : UInt8) (label other : List UInt8) (child below : Stored α)
    (others : Children α) :
    (Children.cons byte other below others).put byte label child =
      .cons byte label child others := by
  rw [Children.put, if_neg (UInt8.lt_irrefl byte), if_pos rfl]

theorem Edges.put_stored_self {edges : Edges α} (hordered : edges.Ordered) {b : UInt8}
    {rest : List UInt8} {target : Node α} (hfound : edges.find? b = some (rest, target)) :
    edges.stored.put b (b :: rest) target.stored = edges.stored := by
  cases edges with
  | nil => contradiction
  | cons first label below others =>
      unfold Edges.find? at hfound
      rw [Edges.stored]
      split at hfound
      next hfirst =>
        obtain ⟨rfl, rfl⟩ := Prod.mk.inj (Option.some.inj hfound)
        subst hfirst
        rw [Children.put_cons_self]
      next =>
        rw [Children.put_cons_of_lt (hordered.2.1.lt_of_find? hfound),
          put_stored_self hordered.2.2 hfound]

/-! ## Insertions -/

/-- The edge labelled `b :: rest`, cut behind its common part with the key `b :: bs`. -/
def Edges.parted (rest bs : List UInt8) (target : Node α) : List UInt8 × Node α :=
  match commonPart rest bs with
  | (_, [], _) => (rest, target)
  | (common, next :: lower, _) => (common, .node none (.cons next lower target .nil))

theorem Stored.commonLength_eq (left right : List UInt8) :
    commonLength left right = (commonPart left right).1.length := by
  induction left generalizing right with
  | nil => simp [commonLength, commonPart]
  | cons l left ih =>
      cases right with
      | nil => simp [commonLength, commonPart]
      | cons r right =>
          have hrest := ih right
          unfold commonLength at hrest ⊢
          rw [List.zip_cons_cons, List.takeWhile_cons, commonPart]
          by_cases hsame : l = r
          · simp [hsame, hrest]
          · simp [hsame]

theorem Stored.commonLength_cons (b : UInt8) (rest bs : List UInt8) :
    commonLength (b :: rest) (b :: bs) = (commonPart rest bs).1.length + 1 := by
  rw [commonLength_eq, commonPart, if_pos rfl]
  rfl

theorem Edges.cut_stored (b : UInt8) (rest bs : List UInt8) (target : Node α) :
    Stored.cut (Stored.commonLength (b :: rest) (b :: bs)) (b :: rest) target.stored =
      (b :: (parted rest bs target).1, (parted rest bs target).2.stored) := by
  have hrest := commonPart_append_left rest bs
  unfold Stored.cut parted
  rw [Stored.commonLength_cons]
  generalize commonPart rest bs = parts at hrest ⊢
  obtain ⟨common, left, right⟩ := parts
  subst hrest
  cases left with
  | nil => simp
  | cons next lower =>
      simp [Node.stored, Edges.stored]

theorem drop_commonLength (b : UInt8) (rest bs : List UInt8) :
    (b :: bs).drop (Stored.commonLength (b :: rest) (b :: bs)) = (commonPart rest bs).2.2 := by
  have hbs := commonPart_append_right rest bs
  rw [Stored.commonLength_cons, List.drop_succ_cons]
  generalize commonPart rest bs = parts at hbs ⊢
  subst hbs
  exact List.drop_left

theorem length_commonPart_le (rest bs : List UInt8) :
    (commonPart rest bs).2.2.length ≤ bs.length := by
  have hbs := congrArg List.length (commonPart_append_right rest bs)
  rw [List.length_append] at hbs
  omega

/-- Inserting below a cut is branching off. -/
theorem Node.insert_eq_fork {next : UInt8} {key : List UInt8} (hseparate : key.head? ≠ some next)
    (lower : List UInt8) (target : Node α) (value : α) :
    (Node.node none (.cons next lower target .nil)).insert key value =
      .fork next lower target key value := by
  cases key with
  | nil => rfl
  | cons b bs =>
      have hne : b ≠ next := fun hsame => hseparate (congrArg some hsame)
      rw [Node.insert, Edges.insert, Node.fork]
      by_cases hlt : b < next
      · rw [if_pos hlt, if_pos hlt]
      · have hgt : next < b := UInt8.lt_of_le_of_ne (UInt8.not_lt.mp hlt) hne.symm
        rw [if_neg hlt, if_pos hgt, if_neg hlt, Edges.insert]

theorem Edges.parted_ordered {target : Node α} (hordered : target.Ordered)
    (rest bs : List UInt8) : (parted rest bs target).2.Ordered := by
  unfold parted
  split
  next => exact hordered
  next => exact ⟨hordered, trivial, trivial⟩

theorem Edges.get?_parted (rest bs : List UInt8) (target : Node α) :
    (parted rest bs target).2.get? (commonPart rest bs).2.2 =
      (rest.isPrefixOf? bs).bind fun key => target.get? key := by
  unfold parted
  split
  next common key hcommon =>
    rw [hcommon]
    obtain ⟨rfl, rfl⟩ := eq_append_of_commonPart_nil hcommon
    rw [isPrefixOf?_self_append, Option.bind_some]
  next common next lower key hcommon =>
    rw [isPrefixOf?_commonPart hcommon, hcommon, Option.bind_none]
    have hseparate := commonPart_separates hcommon
    cases key with
    | nil => rfl
    | cons b bs =>
        have hne : next ≠ b := fun hsame => hseparate (congrArg some hsame.symm)
        rw [Node.get?, Edges.get?, if_neg hne, Edges.get?]

theorem Edges.insert_stored_of_none {edges : Edges α} {b : UInt8} (hnone : edges.find? b = none)
    (bs : List UInt8) (value : α) :
    (edges.insert b bs value).stored = edges.stored.put b (b :: bs) (.node (some value) .nil) := by
  cases edges with
  | nil => rfl
  | cons first rest target others =>
      unfold Edges.find? at hnone
      split at hnone
      next => contradiction
      next hne =>
        rw [Edges.insert, Edges.stored, Children.put]
        split
        next => rfl
        next hge =>
          have hlt : first < b := UInt8.lt_of_le_of_ne (UInt8.not_lt.mp hge) hne
          rw [if_pos hlt, if_neg (Ne.symm hne), Edges.stored, insert_stored_of_none hnone bs value]

theorem Edges.insert_stored {edges : Edges α} (hordered : edges.Ordered) {b : UInt8}
    {rest : List UInt8} {target : Node α} (hfound : edges.find? b = some (rest, target))
    (bs : List UInt8) (value : α) :
    (edges.insert b bs value).stored = edges.stored.put b (b :: (parted rest bs target).1)
      ((parted rest bs target).2.insert (commonPart rest bs).2.2 value).stored := by
  cases edges with
  | nil => contradiction
  | cons first label below others =>
      unfold Edges.find? at hfound
      rw [Edges.insert, Edges.stored]
      split at hfound
      next hfirst =>
        obtain ⟨rfl, rfl⟩ := Prod.mk.inj (Option.some.inj hfound)
        subst hfirst
        rw [if_neg (UInt8.lt_irrefl first), if_neg (UInt8.lt_irrefl first),
          Children.put_cons_self]
        unfold parted
        split
        next common key hcommon => rw [hcommon, Edges.stored]
        next common next lower key hcommon =>
          rw [hcommon, Node.insert_eq_fork (commonPart_separates hcommon), Edges.stored]
      next =>
        have hlt : first < b := hordered.2.1.lt_of_find? hfound
        rw [if_neg (UInt8.not_lt.mpr (UInt8.le_of_lt hlt)), if_pos hlt,
          Children.put_cons_of_lt hlt, Edges.stored,
          insert_stored hordered.2.2 hfound bs value]

/-- An insertion into a stored tree ends, and leaves what is stored of the tree. -/
theorem Node.insert?_stored (value : α) {depth : Nat} {key : List UInt8} {node : Node α}
    (hordered : node.Ordered) (hdepth : key.length < depth) :
    node.stored.insert? value depth key =
      some (node.get? key, (node.insert key value).stored) := by
  induction depth generalizing key node with
  | zero => exact absurd hdepth (Nat.not_lt_zero _)
  | succ depth ih =>
      obtain ⟨held, edges⟩ := node
      cases key with
      | nil => rfl
      | cons b bs =>
          rw [Node.stored, Stored.insert?, edges.find?_stored, Node.get?, edges.get?_eq_find?,
            Node.insert, Node.stored]
          cases hfound : edges.find? b with
          | none => rw [Edges.insert_stored_of_none hfound]; rfl
          | some edge =>
              obtain ⟨rest, target⟩ := edge
              have hbelow : (commonPart rest bs).2.2.length < depth :=
                Nat.lt_of_le_of_lt (length_commonPart_le rest bs) (Nat.lt_of_succ_lt_succ hdepth)
              have hnext := ih (Edges.parted_ordered (Edges.Ordered.find? hordered hfound) rest bs)
                hbelow
              simp only [Option.map_some, Option.bind_some, Edges.cut_stored, drop_commonLength,
                hnext]
              rw [Edges.get?_parted, Edges.insert_stored hordered hfound]

/-! ## Removals -/

theorem Edges.erase_of_none {edges : Edges α} {b : UInt8} {bs : List UInt8}
    (hnone : ∀ rest target, edges.find? b = some (rest, target) → rest.isPrefixOf? bs = none) :
    edges.erase b bs = edges := by
  cases edges with
  | nil => rfl
  | cons first rest target others =>
      unfold Edges.find? at hnone
      unfold Edges.erase
      split
      next hfirst =>
        rw [if_pos hfirst] at hnone
        rw [hnone rest target rfl]
      next hfirst =>
        rw [if_neg hfirst] at hnone
        rw [erase_of_none hnone]

theorem Edges.folded_stored (first : UInt8) (rest : List UInt8) (target below : Node α)
    (others : Edges α) : (Edges.folded first rest target others).stored =
      (Children.cons first (first :: rest) below.stored others.stored).compacted first
        (first :: rest) target.stored := by
  match target with
  | .node none .nil => simp [folded, Node.stored, Edges.stored, Children.compacted, Children.remove]
  | .node none (.cons next lower lowest .nil) =>
      simp [folded, Node.stored, Edges.stored, Children.compacted, Children.put_cons_self]
  | .node none (.cons _ _ _ (.cons _ _ _ _)) | .node (some _) _ =>
      simp [folded, Node.stored, Edges.stored, Children.compacted, Children.put_cons_self]

theorem Children.compacted_cons_of_lt {byte kept : UInt8} (hlt : kept < byte)
    (label other : List UInt8) (child below : Stored α) (others : Children α) :
    (Children.cons kept other below others).compacted byte label child =
      .cons kept other below (others.compacted byte label child) := by
  unfold compacted
  split
  next => rw [remove, if_neg (UInt8.ne_of_lt hlt)]
  next => rw [put_cons_of_lt hlt]
  next => rw [put_cons_of_lt hlt]

theorem Edges.erase_stored {edges : Edges α} (hordered : edges.Ordered) {b : UInt8}
    {rest bs key : List UInt8} {target : Node α} (hfound : edges.find? b = some (rest, target))
    (hkey : rest.isPrefixOf? bs = some key) :
    (edges.erase b bs).stored =
      edges.stored.compacted b (b :: rest) (target.erase key).stored := by
  cases edges with
  | nil => contradiction
  | cons first label below others =>
      unfold Edges.find? at hfound
      rw [Edges.erase, Edges.stored]
      split at hfound
      next hfirst =>
        obtain ⟨rfl, rfl⟩ := Prod.mk.inj (Option.some.inj hfound)
        subst hfirst
        rw [if_pos rfl, hkey, Edges.folded_stored _ _ _ below]
      next hfirst =>
        rw [if_neg hfirst, Edges.stored, erase_stored hordered.2.2 hfound hkey,
          Children.compacted_cons_of_lt (hordered.2.1.lt_of_find? hfound)]

/-- A removal from a stored tree ends, and leaves what is stored of the tree. -/
theorem Node.remove?_stored {depth : Nat} {key : List UInt8} {node : Node α}
    (hordered : node.Ordered) (hcompressed : node.Compressed) (hdepth : key.length < depth) :
    node.stored.remove? depth key = some (node.get? key, (node.erase key).stored) := by
  induction depth generalizing key node with
  | zero => exact absurd hdepth (Nat.not_lt_zero _)
  | succ depth ih =>
      obtain ⟨held, edges⟩ := node
      cases key with
      | nil => rfl
      | cons b bs =>
          rw [Node.stored, Stored.remove?, edges.find?_stored, Node.get?, edges.get?_eq_find?,
            Node.erase, Node.stored]
          cases hfound : edges.find? b with
          | none =>
              have hsame : edges.erase b bs = edges := Edges.erase_of_none (by simp [hfound])
              simp [hsame]
          | some edge =>
              obtain ⟨rest, target⟩ := edge
              simp only [Option.map_some, Option.bind_some, List.isPrefixOf?, beq_self_eq_true,
                if_true]
              cases hkey : rest.isPrefixOf? bs with
              | none =>
                  have hsame : edges.erase b bs = edges :=
                    Edges.erase_of_none (by simpa [hfound] using hkey)
                  simp [hsame]
              | some key =>
                  have hlength : key.length ≤ bs.length := by
                    have hbs := List.isPrefixOf?_eq_some_iff_append_eq.mp hkey
                    rw [← hbs, List.length_append]
                    exact Nat.le_add_left _ _
                  have htarget := Edges.Compressed.find? hcompressed hfound
                  have hnext := ih (Edges.Ordered.find? hordered hfound) htarget
                    (Nat.lt_of_le_of_lt hlength (Nat.lt_of_succ_lt_succ hdepth))
                  simp only [hnext, Option.map_some, Option.bind_some]
                  cases hvalue : target.get? key with
                  | some value => simp [Edges.erase_stored hordered hfound hkey]
                  | none =>
                      have habsent : edges.get? b bs = none := by
                        simp [edges.get?_eq_find?, hfound, hkey, hvalue]
                      rw [Node.erase_eq_self htarget hvalue,
                        Edges.erase_eq_self hcompressed habsent]
                      simp [Edges.put_stored_self hordered hfound]

/-! ## Changes -/

namespace Represents

variable {tree : RadixTree α} {map : PlainMap α}

theorem change?_stored (hmap : tree.Represents map) (change : Change α) :
    tree.stored.change? change = some ((tree.change change).1, (tree.change change).2.stored) := by
  cases change with
  | put key value =>
      have hroot : tree.root.stored.insert? value ((Uri.bytes key).length + 1) (Uri.bytes key) =
          some (tree.get? (Uri.bytes key), (tree.root.insert (Uri.bytes key) value).stored) :=
        Node.insert?_stored value hmap.canonical.ordered (Nat.lt_succ_self _)
      rw [RadixTree.change, hmap.canonical.ordered.replace_eq]
      simp only [StoredTree.change?, stored, hroot, Option.map_some, RadixTree.insert]
      cases tree.get? (Uri.bytes key) <;> rfl
  | drop key =>
      have hroot : tree.root.stored.remove? ((Uri.bytes key).length + 1) (Uri.bytes key) =
          some (tree.get? (Uri.bytes key), (tree.root.erase (Uri.bytes key)).stored) :=
        Node.remove?_stored hmap.canonical.ordered hmap.canonical.compressed (Nat.lt_succ_self _)
      rw [RadixTree.change, hmap.canonical.take_eq]
      simp only [StoredTree.change?, stored, hroot, Option.map_some, RadixTree.erase]

end Represents

theorem built?_eq (changes : List (Change α)) :
    StoredTree.built? changes = some (built changes).stored := by
  induction changes using List.reverseRecOn with
  | nil => rfl
  | append_singleton changes change ih =>
      unfold StoredTree.built? at ih ⊢
      rw [List.foldlM_append, ih, built_concat]
      simp [(represents_built changes).change?_stored]

/-- Whatever is inserted and removed, the tree that is built is the stored one of the radix tree:
every label begins with its byte, and below the root every node holds a value or branches.  Two
sequences of changes build the same tree exactly if they lead to the same map; and a key that is
new is removed again without a trace. -/
theorem layout_of_changes :
    (∀ changes : List (Change α), ∃ tree, StoredTree.built? changes = some tree ∧
      tree = (built changes).stored ∧ tree.root.Compact) ∧
    (∀ changes others : List (Change α),
      StoredTree.built? changes = StoredTree.built? others ↔
        PlainMap.built changes = PlainMap.built others) ∧
    ∀ (changes : List (Change α)) (key : String) (value : α),
      (PlainMap.built changes)[key]? = none →
        StoredTree.built? (changes ++ [.put key value, .drop key]) =
          StoredTree.built? changes := by
  have hiff : ∀ changes others : List (Change α),
      StoredTree.built? changes = StoredTree.built? others ↔
        PlainMap.built changes = PlainMap.built others := by
    intro changes others
    rw [built?_eq, built?_eq, Option.some.injEq, ← built_eq_iff]
    exact ⟨stored_inj, congrArg stored⟩
  refine ⟨fun changes => ?_, hiff, fun changes key value hnew => ?_⟩
  · exact ⟨_, built?_eq changes, rfl,
      (represents_built changes).canonical.compressed.compact⟩
  · exact (hiff _ _).mpr (PlainMap.built_put_drop hnew value)

/-- The new key parts the edge that the other two keys share, and the parts are joined again. -/
theorem layout_partedEdge :
    let changes : List (Change Nat) := [.put "com.sum" 1, .put "com.summary" 2]
    (PlainMap.built changes)["com.news"]? = none ∧
      StoredTree.built? (changes ++ [.put "com.news" 3]) ≠ StoredTree.built? changes ∧
      StoredTree.built? (changes ++ [.put "com.news" 3, .drop "com.news"]) =
        StoredTree.built? changes := by
  intro changes
  have hnew : (PlainMap.built changes)["com.news"]? = none := by decide +kernel
  exact ⟨hnew, by decide +kernel, layout_of_changes.2.2 changes "com.news" 3 hnew⟩

end Wamp.RadixTree
