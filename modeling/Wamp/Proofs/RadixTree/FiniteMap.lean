import Mathlib.Data.List.Induction
import Wamp.Proofs.RadixTree.Canonical
import Wamp.Proofs.Resolution

/-!
# Radix trees as finite maps

Values are stored under strings and searched by the bytes of the strings.  The same changes that
build a radix tree build a plain map, and the tree answers as the plain map has it: what a key
holds, what a change displaces, how many keys there are, and which key is the longest one at the
beginning of a query.
-/

namespace Wamp.RadixTree

variable {α : Type}

/-! ## The value that is displaced -/

mutual

theorem Node.replace_eq {node : Node α} (hordered : node.Ordered) (key : List UInt8)
    (value : α) : node.replace key value = (node.get? key, node.insert key value) := by
  cases node with
  | node held edges =>
      cases key with
      | nil => rfl
      | cons b bs =>
          rw [Node.replace, Edges.replace_eq hordered b bs value]
          rfl

theorem Edges.replace_eq {edges : Edges α} (hordered : edges.Ordered) (b : UInt8)
    (bs : List UInt8) (value : α) :
    edges.replace b bs value = (edges.get? b bs, edges.insert b bs value) := by
  cases edges with
  | nil => rfl
  | cons first rest target others =>
      obtain ⟨htarget, habove, hothers⟩ := hordered
      unfold Edges.replace Edges.insert
      split
      next hlt =>
        have hall : (Edges.cons first rest target others).Above b :=
          ⟨hlt, habove.mono (UInt8.le_of_lt hlt)⟩
        rw [hall.get?_eq_none]
      next hge =>
        split
        next hlt =>
          rw [Edges.replace_eq hothers b bs value, Edges.get?, if_neg (UInt8.ne_of_lt hlt)]
        next hle =>
          have hsame : b = first := UInt8.le_antisymm (UInt8.not_lt.mp hle) (UInt8.not_lt.mp hge)
          subst hsame
          split
          next key hcommon =>
            obtain ⟨rfl, rfl⟩ := eq_append_of_commonPart_nil hcommon
            rw [Node.replace_eq htarget key value, Edges.get?_cons_label]
          next common next lower key hcommon =>
            have hstray := isPrefixOf?_commonPart hcommon
            rw [Edges.get?, if_pos rfl, hstray, Option.bind_none]

end

mutual

/-- Nothing changes where nothing is erased. -/
theorem Node.erase_eq_self {node : Node α} (hcompressed : node.Compressed) {key : List UInt8}
    (habsent : node.get? key = none) : node.erase key = node := by
  cases node with
  | node held edges =>
      cases key with
      | nil =>
          have hheld : held = none := habsent
          rw [hheld]
          rfl
      | cons b bs => rw [Node.erase, Edges.erase_eq_self hcompressed habsent]

theorem Edges.erase_eq_self {edges : Edges α} (hcompressed : edges.Compressed) {b : UInt8}
    {bs : List UInt8} (habsent : edges.get? b bs = none) : edges.erase b bs = edges := by
  cases edges with
  | nil => rfl
  | cons first rest target others =>
      obtain ⟨hfirm, htarget, hothers⟩ := hcompressed
      unfold Edges.erase
      unfold Edges.get? at habsent
      split
      next hfirst =>
        rw [if_pos hfirst] at habsent
        split
        next => rfl
        next key hkey =>
          rw [hkey, Option.bind_some] at habsent
          rw [Node.erase_eq_self htarget habsent, Edges.folded_of_firm hfirm]
      next hfirst =>
        rw [if_neg hfirst] at habsent
        rw [Edges.erase_eq_self hothers habsent]

end

mutual

theorem Node.take_eq {node : Node α} (hcompressed : node.Compressed) (key : List UInt8) :
    node.take key = (node.get? key, node.erase key) := by
  cases node with
  | node held edges =>
      cases key with
      | nil => rfl
      | cons b bs =>
          rw [Node.take, Edges.take_eq hcompressed b bs]
          rfl

theorem Edges.take_eq {edges : Edges α} (hcompressed : edges.Compressed) (b : UInt8)
    (bs : List UInt8) : edges.take b bs = (edges.get? b bs, edges.erase b bs) := by
  cases edges with
  | nil => rfl
  | cons first rest target others =>
      obtain ⟨hfirm, htarget, hothers⟩ := hcompressed
      unfold Edges.take Edges.get? Edges.erase
      split
      next =>
        cases rest.isPrefixOf? bs with
        | none => rfl
        | some key =>
            simp only [Option.bind_some, Node.take_eq htarget key]
            cases hfound : target.get? key with
            | none => rw [Node.erase_eq_self htarget hfound, Edges.folded_of_firm hfirm]
            | some value => rfl
      next => rw [Edges.take_eq hothers b bs]

end

theorem Ordered.replace_eq {tree : RadixTree α} (hordered : tree.Ordered) (key : List UInt8)
    (value : α) : tree.replace key value = (tree.get? key, tree.insert key value) := by
  unfold RadixTree.replace RadixTree.insert get?
  rw [Node.replace_eq hordered]
  cases tree.root.get? key <;> rfl

theorem Canonical.take_eq {tree : RadixTree α} (hcanonical : tree.Canonical)
    (key : List UInt8) : tree.take key = (tree.get? key, tree.erase key) := by
  unfold take RadixTree.erase get?
  rw [Node.take_eq hcanonical.compressed]

/-! ## The same changes -/

inductive Change (α : Type) where
  | put (key : String) (value : α)
  | drop (key : String)

/-- Values by their keys, and nothing else. -/
abbrev PlainMap (α : Type) := Std.ExtTreeMap String α

/-- Makes a change, and says which value is displaced. -/
def change (tree : RadixTree α) : Change α → Option α × RadixTree α
  | .put key value => tree.replace (Uri.bytes key) value
  | .drop key => tree.take (Uri.bytes key)

def PlainMap.change (map : PlainMap α) : Change α → Option α × PlainMap α
  | .put key value => (map[key]?, map.insert key value)
  | .drop key => (map[key]?, map.erase key)

def built (changes : List (Change α)) : RadixTree α :=
  changes.foldl (fun tree change => (tree.change change).2) empty

def PlainMap.built (changes : List (Change α)) : PlainMap α :=
  changes.foldl (fun map change => (PlainMap.change map change).2) ∅

theorem built_concat (changes : List (Change α)) (change : Change α) :
    built (changes ++ [change]) = ((built changes).change change).2 := by
  rw [built, List.foldl_append]
  rfl

theorem PlainMap.built_concat (changes : List (Change α)) (change : Change α) :
    PlainMap.built (changes ++ [change]) =
      (PlainMap.change (PlainMap.built changes) change).2 := by
  rw [PlainMap.built, List.foldl_append]
  rfl

/-- The tree is in canonical form and stores what the map holds, under the bytes of its key. -/
structure Represents (tree : RadixTree α) (map : PlainMap α) : Prop where
  canonical : tree.Canonical
  get?_bytes : ∀ key, tree.get? (Uri.bytes key) = map[key]?
  exists_bytes : ∀ stored value, tree.get? stored = some value → ∃ key, Uri.bytes key = stored
  size_eq : tree.size = map.size

theorem represents_empty : (empty : RadixTree α).Represents ∅ where
  canonical := canonical_empty
  get?_bytes key := by
    rw [Std.ExtTreeMap.getElem?_empty]
    cases Uri.bytes key <;> rfl
  exists_bytes stored value hvalue := by
    cases stored <;> contradiction
  size_eq := rfl

namespace Represents

variable {tree other : RadixTree α} {map : PlainMap α}

theorem insert (hmap : tree.Represents map) (key : String) (value : α) :
    (tree.insert (Uri.bytes key) value).Represents (map.insert key value) where
  canonical := hmap.canonical.insert (Uri.bytes key) value
  get?_bytes other := by
    rw [RadixTree.get?_insert hmap.canonical.ordered, hmap.get?_bytes]
    simp [Std.ExtTreeMap.getElem?_insert, Uri.bytes_inj, @eq_comm _ other]
  exists_bytes stored found hfound := by
    rw [RadixTree.get?_insert hmap.canonical.ordered] at hfound
    split at hfound
    next hstored => exact ⟨key, hstored.symm⟩
    next => exact hmap.exists_bytes stored found hfound
  size_eq := by
    rw [Std.ExtTreeMap.size_insert, Std.ExtTreeMap.contains_eq_isSome_getElem?,
      ← hmap.get?_bytes, ← hmap.size_eq]
    rfl

theorem erase (hmap : tree.Represents map) (key : String) :
    (tree.erase (Uri.bytes key)).Represents (map.erase key) where
  canonical := hmap.canonical.erase (Uri.bytes key)
  get?_bytes other := by
    rw [RadixTree.get?_erase hmap.canonical.ordered, hmap.get?_bytes]
    simp [Std.ExtTreeMap.getElem?_erase, Uri.bytes_inj, @eq_comm _ other]
  exists_bytes stored found hfound := by
    rw [RadixTree.get?_erase hmap.canonical.ordered] at hfound
    split at hfound
    next => contradiction
    next => exact hmap.exists_bytes stored found hfound
  size_eq := by
    rw [Std.ExtTreeMap.size_erase, Std.ExtTreeMap.contains_eq_isSome_getElem?,
      ← hmap.get?_bytes, ← hmap.size_eq]
    rfl

theorem change_put (hmap : tree.Represents map) (key : String) (value : α) :
    tree.change (.put key value) = (map[key]?, tree.insert (Uri.bytes key) value) := by
  rw [RadixTree.change, hmap.canonical.ordered.replace_eq, hmap.get?_bytes]

theorem change_drop (hmap : tree.Represents map) (key : String) :
    tree.change (.drop key) = (map[key]?, tree.erase (Uri.bytes key)) := by
  rw [RadixTree.change, hmap.canonical.take_eq, hmap.get?_bytes]

theorem displaced (hmap : tree.Represents map) (change : Change α) :
    (tree.change change).1 = (PlainMap.change map change).1 := by
  cases change with
  | put key value =>
      rw [hmap.change_put]
      rfl
  | drop key =>
      rw [hmap.change_drop]
      rfl

theorem change (hmap : tree.Represents map) (change : Change α) :
    (tree.change change).2.Represents (PlainMap.change map change).2 := by
  cases change with
  | put key value =>
      rw [hmap.change_put]
      exact hmap.insert key value
  | drop key =>
      rw [hmap.change_drop]
      exact hmap.erase key

theorem isEmpty_iff (hmap : tree.Represents map) : tree.isEmpty ↔ map = ∅ := by
  rw [isEmpty, hmap.size_eq, ← Std.ExtTreeMap.isEmpty_eq_size_beq_zero,
    Std.ExtTreeMap.isEmpty_iff]

/-- A removal that finds a value has one to count down. -/
theorem size_drop (hmap : tree.Represents map) {key : String} {value : α}
    (hdrop : (tree.change (.drop key)).1 = some value) :
    tree.size = (tree.change (.drop key)).2.size + 1 := by
  have hfound : tree.get? (Uri.bytes key) = some value := by
    rwa [hmap.displaced, PlainMap.change, ← hmap.get?_bytes] at hdrop
  have hlength := Node.length_toList_erase tree.root (Uri.bytes key)
  have herased := (hmap.canonical.erase (Uri.bytes key)).size_eq
  have hsize := hmap.canonical.size_eq
  rw [show tree.root.get? (Uri.bytes key) = some value from hfound] at hlength
  rw [hmap.change_drop, herased, hsize]
  exact hlength.symm

/-- A map has one tree. -/
theorem unique (hmap : tree.Represents map) (hother : other.Represents map) : tree = other := by
  refine hmap.canonical.ext_get? hother.canonical fun stored => ?_
  by_cases hbytes : ∃ key, Uri.bytes key = stored
  · obtain ⟨key, rfl⟩ := hbytes
    rw [hmap.get?_bytes, hother.get?_bytes]
  · have hnone : ∀ {tree : RadixTree α}, tree.Represents map → tree.get? stored = none := by
      intro tree hmap
      exact Option.eq_none_iff_forall_not_mem.mpr fun value hvalue =>
        hbytes (hmap.exists_bytes stored value hvalue)
    rw [hnone hmap, hnone hother]

/-- A tree has one map. -/
theorem map_unique {more : PlainMap α} (hmap : tree.Represents map)
    (hmore : tree.Represents more) : map = more := by
  apply Std.ExtTreeMap.ext_getElem?
  intro key
  rw [← hmap.get?_bytes, ← hmore.get?_bytes]

end Represents

theorem represents_built (changes : List (Change α)) :
    (built changes).Represents (PlainMap.built changes) := by
  induction changes using List.reverseRecOn with
  | nil => exact represents_empty
  | append_singleton changes change ih =>
      rw [built_concat, PlainMap.built_concat]
      exact ih.change change

theorem built_eq_iff (changes others : List (Change α)) :
    built changes = built others ↔ PlainMap.built changes = PlainMap.built others := by
  constructor
  · intro hsame
    exact (hsame ▸ represents_built changes).map_unique (represents_built others)
  · intro hsame
    exact (hsame ▸ represents_built changes).unique (represents_built others)

theorem PlainMap.built_put_drop {changes : List (Change α)} {key : String}
    (hnew : (PlainMap.built changes)[key]? = none) (value : α) :
    PlainMap.built (changes ++ [.put key value, .drop key]) = PlainMap.built changes := by
  rw [List.append_cons, built_concat, built_concat]
  apply Std.ExtTreeMap.ext_getElem?
  intro other
  simp only [PlainMap.change, Std.ExtTreeMap.getElem?_erase, Std.ExtTreeMap.getElem?_insert,
    Std.LawfulEqCmp.compare_eq_iff_eq]
  split
  next hsame => rw [← hsame, hnew]
  next => rfl

/-! ## The same answers -/

/-- The accepted value of the longest key that begins a query, if any accepted value has such a
key.  Keys that begin the same query begin one another, so the longest is the one that all the
others begin. -/
def PlainMap.IsLongest (map : PlainMap α) (accept : α → Bool) (query : String) :
    Option α → Prop
  | none => ∀ (key : String) (value : α), map[key]? = some value → key.toList <+: query.toList →
      accept value = false
  | some value =>
    ∃ key : String, map[key]? = some value ∧ key.toList <+: query.toList ∧ accept value = true ∧
      ∀ (other : String) (found : α), map[other]? = some found → other.toList <+: query.toList →
        accept found = true → other.toList <+: key.toList

theorem Represents.isLongest {tree : RadixTree α} {map : PlainMap α}
    (hmap : tree.Represents map) (accept : α → Bool) (query : String) :
    PlainMap.IsLongest map accept query (tree.longest? (Uri.bytes query) accept) := by
  have hlongest := tree.isLongest accept (Uri.bytes query)
  cases hfound : tree.longest? (Uri.bytes query) accept with
  | none =>
      rw [hfound] at hlongest
      intro key value hvalue hprefix
      rw [← hmap.get?_bytes] at hvalue
      exact hlongest (Uri.bytes key) value (Uri.bytes_prefix_iff.mpr hprefix) hvalue
  | some value =>
      rw [hfound] at hlongest
      obtain ⟨stored, hstored, hvalue, haccept, hmax⟩ := hlongest
      obtain ⟨key, rfl⟩ := hmap.exists_bytes stored value hvalue
      rw [hmap.get?_bytes] at hvalue
      refine ⟨key, hvalue, Uri.bytes_prefix_iff.mp hstored, haccept, ?_⟩
      intro other found hother hprefix haccepted
      rw [← hmap.get?_bytes] at hother
      have hbefore := Uri.bytes_prefix_iff.mpr hprefix
      have hle := hmax (Uri.bytes other) found hbefore hother haccepted
      exact Uri.bytes_prefix_iff.mp (List.prefix_of_prefix_length_le hbefore hstored hle)

/-- However a tree was built, it answers as the plain map that the same changes build, and the
counter is never taken below zero. -/
theorem answers_as_plain_map (changes : List (Change α)) :
    let tree := built changes
    let map := PlainMap.built changes
    (∀ key, tree.get? (Uri.bytes key) = map[key]?) ∧
    (∀ change, (tree.change change).1 = (PlainMap.change map change).1) ∧
    tree.size = map.size ∧ (tree.isEmpty ↔ map = ∅) ∧
    (∀ key value, (tree.change (.drop key)).1 = some value →
      tree.size = (tree.change (.drop key)).2.size + 1) ∧
    ∀ accept query,
      PlainMap.IsLongest map accept query (tree.longest? (Uri.bytes query) accept) := by
  intro tree map
  have hmap : tree.Represents map := represents_built changes
  exact ⟨hmap.get?_bytes, hmap.displaced, hmap.size_eq, hmap.isEmpty_iff,
    fun _ _ => hmap.size_drop, hmap.isLongest⟩

/-- Two characters whose encodings begin with the same byte part below one edge, and what is left
of it when one of them goes is folded again. -/
example : built [.put "é" 1, .put "è" 2, .drop "é"] =
    { root := .node none (.cons 0xC3 [0xA8] (.leaf 2) .nil), size := 1 } := by
  decide +kernel

end Wamp.RadixTree
