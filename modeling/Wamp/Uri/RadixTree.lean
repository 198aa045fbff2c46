/-!
# Radix trees

A radix tree is a finite map keyed by sequences of bytes that also answers longest-prefix
queries.  Every edge carries a nonempty label, of which the first byte is kept apart: the edges
that leave a node are in ascending order of their first bytes, and no two share one.  Removing a
key folds a node without value and with a single edge into the edge above it, so that below the
root every node holds a value or branches.
-/

namespace Wamp

namespace RadixTree

mutual

inductive Node (α : Type) where
  | node (value : Option α) (edges : Edges α)
  deriving DecidableEq, Repr

/-- The edges that leave a node, from the least first byte to the greatest. -/
inductive Edges (α : Type) where
  | nil
  | cons (first : UInt8) (rest : List UInt8) (target : Node α) (others : Edges α)
  deriving DecidableEq, Repr

end

variable {α : Type}

/-- The longest common beginning of two labels, and what is left of each. -/
def commonPart : List UInt8 → List UInt8 → List UInt8 × List UInt8 × List UInt8
  | l :: left, r :: right =>
    if l = r then
      let (common, leftRest, rightRest) := commonPart left right
      (l :: common, leftRest, rightRest)
    else
      ([], l :: left, r :: right)
  | left, right => ([], left, right)

theorem commonPart_append_left (left right : List UInt8) :
    (commonPart left right).1 ++ (commonPart left right).2.1 = left := by
  induction left generalizing right with
  | nil => simp [commonPart]
  | cons l left ih =>
    cases right with
    | nil => simp [commonPart]
    | cons r right =>
      unfold commonPart
      split
      · simp [ih right]
      · rfl

theorem commonPart_append_right (left right : List UInt8) :
    (commonPart left right).1 ++ (commonPart left right).2.2 = right := by
  induction left generalizing right with
  | nil => simp [commonPart]
  | cons l left ih =>
    cases right with
    | nil => simp [commonPart]
    | cons r right =>
      unfold commonPart
      split
      · rename_i h
        simp [ih right, h]
      · rfl

def Node.empty : Node α :=
  .node none .nil

def Node.leaf (value : α) : Node α :=
  .node (some value) .nil

/-- The node where an edge labelled `first :: rest` that leads to `target` branches off for
`key`. -/
def Node.fork (first : UInt8) (rest : List UInt8) (target : Node α) (key : List UInt8)
    (value : α) : Node α :=
  match key with
  | [] => .node (some value) (.cons first rest target .nil)
  | b :: bs =>
    if b < first then
      .node none (.cons b bs (.leaf value) (.cons first rest target .nil))
    else
      .node none (.cons first rest target (.cons b bs (.leaf value) .nil))

mutual

def Node.insert (key : List UInt8) (value : α) : Node α → Node α
  | .node held edges =>
    match key with
    | [] => .node (some value) edges
    | b :: bs => .node held (edges.insert b bs value)

/-- Inserts the key `b :: bs` below the node that these edges leave. -/
def Edges.insert (b : UInt8) (bs : List UInt8) (value : α) : Edges α → Edges α
  | .nil => .cons b bs (.leaf value) .nil
  | .cons first rest target others =>
    if b < first then
      .cons b bs (.leaf value) (.cons first rest target others)
    else if first < b then
      .cons first rest target (others.insert b bs value)
    else
      match commonPart rest bs with
      | (_, [], key) => .cons first rest (target.insert key value) others
      | (common, next :: lower, key) =>
        .cons first common (.fork next lower target key value) others

end

/-- The edges `first :: rest` to `target` and then `others`, where a target that holds nothing
is left out and one that only passes on is folded into the edge. -/
def Edges.folded (first : UInt8) (rest : List UInt8) (target : Node α) (others : Edges α) :
    Edges α :=
  match target with
  | .node none .nil => others
  | .node none (.cons next lower below .nil) => .cons first (rest ++ next :: lower) below others
  | _ => .cons first rest target others

mutual

def Node.erase (key : List UInt8) : Node α → Node α
  | .node held edges =>
    match key with
    | [] => .node none edges
    | b :: bs => .node held (edges.erase b bs)

/-- Erases the key `b :: bs` below the node that these edges leave. -/
def Edges.erase (b : UInt8) (bs : List UInt8) : Edges α → Edges α
  | .nil => .nil
  | .cons first rest target others =>
    if first = b then
      match rest.isPrefixOf? bs with
      | none => .cons first rest target others
      | some key => .folded first rest (target.erase key) others
    else
      .cons first rest target (others.erase b bs)

end

mutual

/-- Inserts the key, and hands back the value that gives way on the way down. -/
def Node.replace (key : List UInt8) (value : α) : Node α → Option α × Node α
  | .node held edges =>
    match key with
    | [] => (held, .node (some value) edges)
    | b :: bs =>
      let (displaced, edges) := edges.replace b bs value
      (displaced, .node held edges)

def Edges.replace (b : UInt8) (bs : List UInt8) (value : α) : Edges α → Option α × Edges α
  | .nil => (none, .cons b bs (.leaf value) .nil)
  | .cons first rest target others =>
    if b < first then
      (none, .cons b bs (.leaf value) (.cons first rest target others))
    else if first < b then
      let (displaced, others) := others.replace b bs value
      (displaced, .cons first rest target others)
    else
      match commonPart rest bs with
      | (_, [], key) =>
        let (displaced, target) := target.replace key value
        (displaced, .cons first rest target others)
      | (common, next :: lower, key) =>
        (none, .cons first common (.fork next lower target key value) others)

end

mutual

/-- Erases the key, and hands back its value; nothing is folded where no value is found. -/
def Node.take (key : List UInt8) : Node α → Option α × Node α
  | .node held edges =>
    match key with
    | [] => (held, .node none edges)
    | b :: bs =>
      let (taken, edges) := edges.take b bs
      (taken, .node held edges)

def Edges.take (b : UInt8) (bs : List UInt8) : Edges α → Option α × Edges α
  | .nil => (none, .nil)
  | .cons first rest target others =>
    if first = b then
      match rest.isPrefixOf? bs with
      | none => (none, .cons first rest target others)
      | some key =>
        match target.take key with
        | (none, _) => (none, .cons first rest target others)
        | (some taken, target) => (some taken, .folded first rest target others)
    else
      let (taken, others) := others.take b bs
      (taken, .cons first rest target others)

end

mutual

def Node.get? (key : List UInt8) : Node α → Option α
  | .node held edges =>
    match key with
    | [] => held
    | b :: bs => edges.get? b bs

def Edges.get? (b : UInt8) (bs : List UInt8) : Edges α → Option α
  | .nil => none
  | .cons first rest target others =>
    if first = b then (rest.isPrefixOf? bs).bind fun key => target.get? key
    else others.get? b bs

end

mutual

/-- The accepted value at the deepest node on the way down along `key`. -/
def Node.longest? (accept : α → Bool) (key : List UInt8) : Node α → Option α
  | .node held edges =>
    match key with
    | [] => held.filter accept
    | b :: bs => (edges.longest? accept b bs).or (held.filter accept)

def Edges.longest? (accept : α → Bool) (b : UInt8) (bs : List UInt8) : Edges α → Option α
  | .nil => none
  | .cons first rest target others =>
    if first = b then (rest.isPrefixOf? bs).bind fun key => target.longest? accept key
    else others.longest? accept b bs

end

mutual

/-- Keys and values in ascending order of the keys. -/
def Node.toList : Node α → List (List UInt8 × α)
  | .node held edges => (held.map fun value => ([], value)).toList ++ edges.toList

def Edges.toList : Edges α → List (List UInt8 × α)
  | .nil => []
  | .cons first rest target others =>
    (target.toList.map fun (key, value) => (first :: (rest ++ key), value)) ++ others.toList

end

end RadixTree

structure RadixTree (α : Type) where
  root : RadixTree.Node α := .empty
  size : Nat := 0
  deriving DecidableEq, Repr

namespace RadixTree

variable {α : Type}

def empty : RadixTree α := {}

def isEmpty (tree : RadixTree α) : Bool :=
  tree.size == 0

def get? (tree : RadixTree α) (key : List UInt8) : Option α :=
  tree.root.get? key

/-- Stores a value, in place of the one that `get?` finds before. -/
def insert (tree : RadixTree α) (key : List UInt8) (value : α) : RadixTree α where
  root := tree.root.insert key value
  size := if (tree.get? key).isSome then tree.size else tree.size + 1

def erase (tree : RadixTree α) (key : List UInt8) : RadixTree α where
  root := tree.root.erase key
  size := if (tree.get? key).isSome then tree.size - 1 else tree.size

/-- Stores a value, and hands back the one that gives way to it. -/
def replace (tree : RadixTree α) (key : List UInt8) (value : α) : Option α × RadixTree α :=
  let (displaced, root) := tree.root.replace key value
  (displaced, { root, size := if displaced.isNone then tree.size + 1 else tree.size })

/-- Takes the value of a key out of the tree, and hands it back. -/
def take (tree : RadixTree α) (key : List UInt8) : Option α × RadixTree α :=
  let (taken, root) := tree.root.take key
  (taken, { root, size := if taken.isSome then tree.size - 1 else tree.size })

/-- The value of the longest stored key that begins `key` and whose value is accepted. -/
def longest? (tree : RadixTree α) (key : List UInt8) (accept : α → Bool := fun _ => true) :
    Option α :=
  tree.root.longest? accept key

def toList (tree : RadixTree α) : List (List UInt8 × α) :=
  tree.root.toList

end RadixTree

end Wamp
