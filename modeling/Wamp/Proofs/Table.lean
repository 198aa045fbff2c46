import Wamp.Session

/-!
# Tables

Brokers and dealers keep their state in finite tables.  What holds of every entry of a table goes
on holding when an entry is taken out, and when one is put in of which it holds as well.
-/

namespace Wamp.Table

variable {Key Value : Type} [Ord Key] [Std.TransOrd Key] {table : Std.ExtTreeMap Key Value}
  {Holds : Key → Value → Prop}

theorem mem_iff_exists {key : Key} :
    key ∈ table ↔ ∃ value, table[key]? = some value := by
  rw [Std.ExtTreeMap.mem_iff_isSome_getElem?, Option.isSome_iff_exists]

theorem mem_of_getElem? {key : Key} {value : Value} (hvalue : table[key]? = some value) :
    key ∈ table :=
  mem_iff_exists.mpr ⟨value, hvalue⟩

theorem forall_erase (hall : ∀ key value, table[key]? = some value → Holds key value)
    (erased key : Key) (value : Value) (hvalue : (table.erase erased)[key]? = some value) :
    Holds key value := by
  rw [Std.ExtTreeMap.getElem?_erase] at hvalue
  split at hvalue
  next => contradiction
  next => exact hall key value hvalue

/-- Entries that are changed one after the other, each of them once, are changed as if each was
the only one. -/
theorem getElem?_foldl {State : Type} [DecidableEq Key]
    (entries : State → Std.ExtTreeMap Key Value) (Good : State → Prop)
    {step : State → Key → State} {change : Value → Option Value}
    (hkept : ∀ state key, Good state → Good (step state key))
    (hstep : ∀ state key other, Good state → (entries (step state key))[other]? =
      if key = other then (entries state)[other]?.bind change else (entries state)[other]?)
    {state : State} (hgood : Good state) {keys : List Key} (honce : keys.Nodup) (other : Key) :
    (entries (keys.foldl step state))[other]? =
      if other ∈ keys then (entries state)[other]?.bind change else (entries state)[other]? := by
  induction keys generalizing state with
  | nil => simp
  | cons key rest ih =>
      obtain ⟨hnew, hrest⟩ := List.nodup_cons.mp honce
      rw [List.foldl_cons, ih (hkept state key hgood) hrest, hstep state key other hgood]
      by_cases hsame : key = other
      · subst hsame
        simp [hnew]
      · simp [hsame, Ne.symm hsame]

variable [Std.LawfulEqOrd Key]

theorem size_le_length {keys : List Key} (hall : ∀ key, key ∈ table → key ∈ keys) :
    table.size ≤ keys.length := by
  rw [← Std.ExtTreeMap.length_keys]
  exact Std.ExtTreeMap.nodup_keys.length_le_of_subset fun key hkey =>
    hall key (Std.ExtTreeMap.mem_keys.mp hkey)

/-- Keys that outnumber the entries of a table are not all among its keys. -/
theorem exists_not_mem {keys : List Key} (honce : keys.Nodup)
    (hmany : table.size < keys.length) : ∃ key ∈ keys, key ∉ table := by
  apply Classical.byContradiction
  intro hnone
  have hsubset : keys ⊆ table.keys := by
    intro key hkey
    rw [Std.ExtTreeMap.mem_keys]
    exact Classical.byContradiction fun hmissing => hnone ⟨key, hkey, hmissing⟩
  have hfew : keys.length ≤ table.keys.length := honce.length_le_of_subset hsubset
  rw [Std.ExtTreeMap.length_keys] at hfew
  exact Nat.not_le.mpr hmany hfew

theorem erase_of_not_mem {keys : Std.ExtTreeSet Key} {key : Key} (hmissing : key ∉ keys) :
    keys.erase key = keys := by
  apply Std.ExtTreeSet.ext_mem
  intro other
  rw [Std.ExtTreeSet.mem_erase, Ne, Std.LawfulEqCmp.compare_eq_iff_eq, and_iff_right_iff_imp]
  rintro hmem rfl
  exact hmissing hmem

theorem forall_insert (hall : ∀ key value, table[key]? = some value → Holds key value)
    {inserted : Key} {new : Value} (hnew : Holds inserted new) (key : Key) (value : Value)
    (hvalue : (table.insert inserted new)[key]? = some value) : Holds key value := by
  rw [Std.ExtTreeMap.getElem?_insert] at hvalue
  split at hvalue
  next hsame =>
    obtain rfl : inserted = key := Std.LawfulEqCmp.eq_of_compare hsame
    obtain rfl : new = value := Option.some.inj hvalue
    exact hnew
  next => exact hall key value hvalue

/-- An entry that is written anew adds no key. -/
theorem mem_insert_iff {key : Key} (hmem : key ∈ table) (value : Value) (other : Key) :
    other ∈ table.insert key value ↔ other ∈ table := by
  rw [Std.ExtTreeMap.mem_insert, Std.LawfulEqCmp.compare_eq_iff_eq]
  constructor
  · rintro (rfl | hold)
    · exact hmem
    · exact hold
  · exact Or.inr

theorem erase_insert_self (table : Std.ExtTreeMap Key Value) (key : Key) (value : Value) :
    (table.insert key value).erase key = table.erase key := by
  apply Std.ExtTreeMap.ext_getElem?
  intro other
  rw [Std.ExtTreeMap.getElem?_erase, Std.ExtTreeMap.getElem?_insert,
    Std.ExtTreeMap.getElem?_erase]
  split <;> rfl

theorem insert_erase_self (table : Std.ExtTreeMap Key Value) (key : Key) (value : Value) :
    (table.erase key).insert key value = table.insert key value := by
  apply Std.ExtTreeMap.ext_getElem?
  intro other
  rw [Std.ExtTreeMap.getElem?_insert, Std.ExtTreeMap.getElem?_insert,
    Std.ExtTreeMap.getElem?_erase]
  split <;> rfl

theorem insert_insert_self (table : Std.ExtTreeMap Key Value) (key : Key) (old new : Value) :
    (table.insert key old).insert key new = table.insert key new := by
  apply Std.ExtTreeMap.ext_getElem?
  intro other
  rw [Std.ExtTreeMap.getElem?_insert, Std.ExtTreeMap.getElem?_insert,
    Std.ExtTreeMap.getElem?_insert]
  split <;> rfl

theorem erase_comm (table : Std.ExtTreeMap Key Value) (first second : Key) :
    (table.erase first).erase second = (table.erase second).erase first := by
  apply Std.ExtTreeMap.ext_getElem?
  intro other
  simp only [Std.ExtTreeMap.getElem?_erase]
  split <;> split <;> rfl

/-- A new entry that is taken out again leaves the table as it was. -/
theorem erase_insert_of_not_mem {key : Key} (hnew : key ∉ table) (value : Value) :
    (table.insert key value).erase key = table := by
  rw [erase_insert_self]
  apply Std.ExtTreeMap.ext_getElem?
  intro other
  rw [Std.ExtTreeMap.getElem?_erase]
  split
  next hsame =>
    rw [← Std.LawfulEqCmp.eq_of_compare hsame, Std.ExtTreeMap.getElem?_eq_none hnew]
  next => rfl

section Map

variable {Other : Type} (f : Key → Value → Other)

theorem map_insert (table : Std.ExtTreeMap Key Value) (key : Key) (value : Value) :
    (table.insert key value).map f = (table.map f).insert key (f key value) := by
  apply Std.ExtTreeMap.ext_getElem?
  intro other
  rw [Std.ExtTreeMap.getElem?_map, Std.ExtTreeMap.getElem?_insert, Std.ExtTreeMap.getElem?_insert,
    Std.ExtTreeMap.getElem?_map]
  split
  next hsame => rw [Option.map_some, Std.LawfulEqCmp.eq_of_compare hsame]
  next => rfl

theorem map_erase (table : Std.ExtTreeMap Key Value) (key : Key) :
    (table.erase key).map f = (table.map f).erase key := by
  apply Std.ExtTreeMap.ext_getElem?
  intro other
  rw [Std.ExtTreeMap.getElem?_map, Std.ExtTreeMap.getElem?_erase, Std.ExtTreeMap.getElem?_erase,
    Std.ExtTreeMap.getElem?_map]
  split <;> rfl

end Map

end Wamp.Table
