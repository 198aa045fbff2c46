import Wamp.Proofs.Table

/-!
# Holdings

The broker and the dealer both keep a table of what each attached session holds.  A session
*holds* an identifier if the identifier stands in the session's row of the table.
-/

namespace Wamp.Holdings

def Holds (held : Holdings) (session id : Id) : Prop :=
  ∃ ids, held[session]? = some ids ∧ id ∈ ids

variable {held : Holdings} {session : Id}

theorem Holds.mem {id : Id} (hholds : Holds held session id) : session ∈ held := by
  obtain ⟨ids, hrow, _⟩ := hholds
  exact Table.mem_of_getElem? hrow

theorem nodup_toList (ids : Std.ExtTreeSet Id) : ids.toList.Nodup :=
  Std.ExtTreeSet.distinct_toList.imp fun hne hsame => hne (by simp [hsame])

theorem mem_getD_iff (id : Id) : id ∈ held.getD session ∅ ↔ Holds held session id := by
  unfold Holds
  rw [Std.ExtTreeMap.getD_eq_getD_getElem?]
  cases held[session]? with
  | none => simp
  | some ids => simp

theorem holds_of_getElem? {ids : Std.ExtTreeSet Id} (hrow : held[session]? = some ids)
    (id : Id) : Holds held session id ↔ id ∈ ids := by
  simp [Holds, hrow]

theorem not_holds_empty (other id : Id) : ¬ Holds ∅ other id := by
  simp [Holds]

/-- A session gets an empty row. -/
theorem holds_open (hnew : session ∉ held) (other id : Id) :
    Holds (held.insert session ∅) other id ↔ Holds held other id := by
  unfold Holds
  rw [Std.ExtTreeMap.getElem?_insert]
  by_cases hsame : session = other
  · subst hsame
    simp [Std.ExtTreeMap.getElem?_eq_none hnew]
  · simp [hsame]

/-- A session loses its row, and with it every identifier that stands there. -/
theorem holds_close (held : Holdings) (session other id : Id) :
    Holds (held.erase session) other id ↔
      ¬ (session = other ∧ id ∈ (held.getD session ∅).toList) ∧ Holds held other id := by
  rw [Std.ExtTreeSet.mem_toList, mem_getD_iff]
  by_cases hsame : session = other
  · subst hsame
    simp [Holds]
  · simp [Holds, Std.ExtTreeMap.getElem?_erase, hsame]

/-- A session gets one more identifier. -/
theorem holds_give (held : Holdings) (session given other id : Id) :
    Holds (held.insert session ((held.getD session ∅).insert given)) other id ↔
      (session = other ∧ given = id) ∨ Holds held other id := by
  by_cases hsame : session = other
  · subst hsame
    rw [holds_of_getElem? Std.ExtTreeMap.getElem?_insert_self, Std.ExtTreeSet.mem_insert,
      mem_getD_iff]
    simp
  · unfold Holds
    rw [Std.ExtTreeMap.getElem?_insert]
    simp [hsame]

/-- An identifier is taken from a session. -/
theorem holds_take {ids : Std.ExtTreeSet Id} (hrow : held[session]? = some ids)
    (taken other id : Id) :
    Holds (held.insert session (ids.erase taken)) other id ↔
      ¬ (session = other ∧ taken = id) ∧ Holds held other id := by
  by_cases hsame : session = other
  · subst hsame
    rw [holds_of_getElem? Std.ExtTreeMap.getElem?_insert_self, Std.ExtTreeSet.mem_erase,
      holds_of_getElem? hrow]
    simp
  · unfold Holds
    rw [Std.ExtTreeMap.getElem?_insert]
    simp [hsame]

/-- What a session does not hold cannot be taken from it. -/
theorem take_of_not_mem {ids : Std.ExtTreeSet Id} (hrow : held[session]? = some ids) {id : Id}
    (hmissing : id ∉ ids) : held.insert session (ids.erase id) = held := by
  have hids : ids.erase id = ids := by
    apply Std.ExtTreeSet.ext_mem
    intro other
    simp only [Std.ExtTreeSet.mem_erase, ne_eq, Std.LawfulEqCmp.compare_eq_iff_eq]
    constructor
    · exact And.right
    · intro hmem
      refine ⟨?_, hmem⟩
      rintro rfl
      exact hmissing hmem
  apply Std.ExtTreeMap.ext_getElem?
  intro other
  simp only [hids, Std.ExtTreeMap.getElem?_insert, Std.LawfulEqCmp.compare_eq_iff_eq]
  by_cases hsame : session = other
  · rw [if_pos hsame, ← hsame, hrow]
  · rw [if_neg hsame]

end Wamp.Holdings
