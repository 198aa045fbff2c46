import Wamp.Proofs.Dealer.Attachment
import Wamp.Proofs.Dealer.InFlight
import Wamp.Proofs.Dealer.Turns

/-!
# Sessions that leave a dealer

A session that is detached is taken out of one registration after the other, and then the calls that
it waits for are forgotten one after the other.  What is left is said entry by entry: each
registration is what it was without the session, with the same callee due unless that was the
session, and the calls of the others are still in flight.
-/

namespace Wamp

namespace Registration

variable {registration : Registration} {session : Id}

/-- The callee that serves the next call. -/
def due? (registration : Registration) (draw : Nat) : Option Id :=
  (registration.pick? draw).bind fun position => registration.callees[position]?

/-- The callee that stands behind another one, and the first one behind the last. -/
def successor? (registration : Registration) (callee : Id) : Option Id :=
  registration.callees[(registration.callees.idxOf callee + 1) % registration.callees.length]?

/-- A registration without one of its callees, if there are others. -/
def without (registration : Registration) (session : Id) : Option Registration :=
  let left := registration.leave session
  if left.callees.isEmpty then none else some left

/-- What becomes of a registration that others go on serving when a session leaves: only its callees
and its cursor may change, and where they are served in turn the same one is due, or the successor
of the session if that was due. -/
structure Parted (found : Registration) (session : Id) (kept : Registration) : Prop where
  frame : kept =
    { found with callees := found.callees.erase session, cursor := kept.cursor }
  untouched : session ∉ found.callees → kept = found
  due : found.invoke = .roundRobin → ∃ callee, (∀ draw, found.due? draw = some callee) ∧
    ∀ draw, kept.due? draw =
      if callee = session then found.successor? session else some callee

theorem WellFormed.due?_eq_head?_turns (hformed : registration.WellFormed)
    (hround : registration.invoke = .roundRobin) (draw : Nat) :
    registration.due? draw = registration.turns.head? := by
  obtain ⟨position, callee, hpick, hposition⟩ := hformed.exists_pick? draw
  obtain ⟨rest, hturns, -⟩ := turns_commit hformed.cursor_le hround hpick hposition
  rw [due?, hpick, Option.bind_some, hposition, hturns, List.head?_cons]

/-- The successor of the callee that is due has the second turn. -/
theorem WellFormed.successor?_eq (hformed : registration.WellFormed) {callee other : Id}
    {rest : List Id} (hturns : registration.turns = callee :: other :: rest) :
    registration.successor? callee = some other := by
  have hlength : registration.callees.length = rest.length + 2 := by
    rw [← List.length_rotate, ← turns, hturns]
    rfl
  have hfirst : registration.callees[registration.cursor % registration.callees.length]? =
      some callee := by
    have hrotate := List.getElem?_rotate (n := registration.cursor)
      (show 0 < registration.callees.length by omega)
    rwa [← turns, hturns, Nat.zero_add, List.getElem?_cons_zero, eq_comm] at hrotate
  obtain ⟨hlt, rfl⟩ := List.getElem?_eq_some_iff.mp hfirst
  have hsecond := List.getElem?_rotate (n := registration.cursor)
    (show 1 < registration.callees.length by omega)
  rw [← turns, hturns] at hsecond
  unfold successor?
  rw [hformed.nodup.idxOf_getElem, Nat.mod_add_mod, Nat.add_comm, ← hsecond]
  rfl

/-- The callee that is due stays so, unless it is the session that leaves. -/
theorem WellFormed.head?_erase_turns (hformed : registration.WellFormed)
    (hleft : registration.turns.erase session ≠ []) {callee : Id} {rest : List Id}
    (hturns : registration.turns = callee :: rest) :
    (registration.turns.erase session).head? =
      if callee = session then registration.successor? session else some callee := by
  rw [hturns] at hleft ⊢
  split
  next hsame =>
    subst hsame
    rw [List.erase_cons_head] at hleft ⊢
    cases rest with
    | nil => exact absurd rfl hleft
    | cons other rest => rw [hformed.successor?_eq hturns, List.head?_cons]
  next hother => rw [List.erase_cons_tail (by simpa using hother), List.head?_cons]

theorem WellFormed.due_leave (hformed : registration.WellFormed)
    (hround : registration.invoke = .roundRobin) (hcallee : session ∈ registration.callees)
    (hleft : (registration.leave session).callees ≠ []) :
    ∃ callee, (∀ draw, registration.due? draw = some callee) ∧
      ∀ draw, (registration.leave session).due? draw =
        if callee = session then registration.successor? session else some callee := by
  have hparted := hformed.leave hcallee hleft
  have hinvoke : (registration.leave session).invoke = .roundRobin := by
    obtain ⟨cursor, hsession⟩ := registration.leave_eq session
    rw [hsession, hround]
  have hturns := turns_leave hformed session
  have hstays : registration.turns.erase session ≠ [] := by
    rwa [← hturns, turns, Ne, List.rotate_eq_nil_iff]
  cases hfirst : registration.turns with
  | nil =>
      rw [hfirst] at hstays
      exact absurd rfl hstays
  | cons callee rest =>
      refine ⟨callee, fun draw => ?_, fun draw => ?_⟩
      · rw [hformed.due?_eq_head?_turns hround, hfirst, List.head?_cons]
      · rw [hparted.due?_eq_head?_turns hinvoke, hturns, hformed.head?_erase_turns hstays hfirst]

theorem WellFormed.parted_leave (hformed : registration.WellFormed)
    (hleft : registration.callees.erase session ≠ []) :
    registration.Parted session (registration.leave session) where
  frame := by
    obtain ⟨cursor, hsession⟩ := registration.leave_eq session
    rw [hsession]
  untouched := leave_of_not_mem
  due hround := by
    by_cases hcallee : session ∈ registration.callees
    · rw [← callees_leave] at hleft
      exact hformed.due_leave hround hcallee hleft
    · rw [leave_of_not_mem hcallee]
      obtain ⟨position, callee, hpick, hposition⟩ := hformed.exists_pick? 0
      have hdue : ∀ draw, registration.due? draw = some callee := by
        intro draw
        rw [hformed.due?_eq_head?_turns hround, ← hformed.due?_eq_head?_turns hround 0, due?,
          hpick, Option.bind_some, hposition]
      have hother : callee ≠ session := by
        rintro rfl
        exact hcallee (List.mem_of_getElem? hposition)
      refine ⟨callee, hdue, fun draw => ?_⟩
      rw [if_neg hother, hdue draw]

theorem WellFormed.without_of_not_mem (hformed : registration.WellFormed)
    (hmissing : session ∉ registration.callees) :
    registration.without session = some registration := by
  simp [without, leave_of_not_mem hmissing, hformed.served]

end Registration

namespace Dealer

variable {dealer : Dealer} {session : Id}

/-- The state of a dealer from which a session is detached that is taken out of the given
registrations one after the other, whereupon the given invocations are forgotten. -/
def departed (dealer : Dealer) (session : Id) (registrations abandoned : List Id) : Dealer :=
  let detached :=
    { dealer with
      sessions := dealer.sessions.erase session
      held := dealer.held.erase session }
  abandoned.foldl dropPending (detached.removeCalleeFromAll session registrations).1

/-- What a session leaves behind when it is detached. -/
structure Detached (dealer : Dealer) (session : Id) (left : Dealer) : Prop where
  frame : left =
    { dealer with
      sessions := dealer.sessions.erase session
      held := dealer.held.erase session
      registrations := left.registrations
      directory := left.directory
      pending := left.pending
      invocationOf := left.invocationOf }
  none_new : ∀ id : Id, dealer.registrations[id]? = none → left.registrations[id]? = none
  deleted : ∀ (id : Id) (found : Registration), dealer.registrations[id]? = some found →
    found.callees.erase session = [] → left.registrations[id]? = none
  kept : ∀ (id : Id) (found : Registration), dealer.registrations[id]? = some found →
    found.callees.erase session ≠ [] →
    ∃ kept, left.registrations[id]? = some kept ∧ found.Parted session kept
  /-- The directory lists the registrations that are left, and nothing else. -/
  listed : ∀ procedure policy id,
    left.directory.get? procedure = some { policy, value := id } ↔
      ∃ found, left.registrations[id]? = some found ∧ found.procedure = procedure ∧
        found.policy = policy
  /-- The calls of the session are no longer in flight, and those of the others are. -/
  pending : ∀ invocation : Id, left.pending[invocation]? =
    (dealer.pending[invocation]?).filter fun pending => pending.caller ≠ session
  invocationOf : ∀ key : CallKey, left.invocationOf[key]? =
    if key.caller = session then none else dealer.invocationOf[key]?
  unordered : ∀ registrations abandoned : List Id,
    registrations.Perm (dealer.held.getD session ∅).toList →
    abandoned.Perm (dealer.pendingOf session) →
    dealer.departed session registrations abandoned = left

/-! ## One registration after the other -/

/-- A registration that loses a callee goes with the last one. -/
theorem Catalogued.getElem?_removeCallee (hcatalogued : dealer.Catalogued)
    (session id other : Id) :
    (dealer.removeCallee session id).1.registrations[other]? =
      if id = other then
        (dealer.registrations[other]?).bind fun found => found.without session
      else dealer.registrations[other]? := by
  have hremoves := dealer.removes_removeCallee session id
  generalize (dealer.removeCallee session id).1 = state at hremoves ⊢
  cases hremoves with
  | stranger hserved =>
      split
      next hsame =>
        subst hsame
        cases hfound : dealer.registrations[id]? with
        | none => rfl
        | some found =>
            have hmissing : session ∉ found.callees := fun hmem => hserved ⟨found, hfound, hmem⟩
            rw [Option.bind_some,
              (hcatalogued.wellFormed id found hfound).without_of_not_mem hmissing]
      next => rfl
  | last found hfound hcallee hleft =>
      by_cases hsame : id = other
      · subst hsame
        simp [hfound, Registration.without, hleft]
      · simp [Std.ExtTreeMap.getElem?_erase, hsame]
  | other found hfound hcallee hleft =>
      by_cases hsame : id = other
      · subst hsame
        simp [hfound, Registration.without, hleft]
      · simp [Std.ExtTreeMap.getElem?_insert, hsame]

theorem fst_removeCalleeFromAll (dealer : Dealer) (session : Id) (ids : List Id) :
    (dealer.removeCalleeFromAll session ids).1 =
      ids.foldl (fun left id => (left.removeCallee session id).1) dealer := by
  induction ids generalizing dealer with
  | nil => rfl
  | cons id rest ih => exact ih (dealer.removeCallee session id).1

theorem Catalogued.getElem?_removeCalleeFromAll (hcatalogued : dealer.Catalogued) (session : Id)
    {ids : List Id} (honce : ids.Nodup) (other : Id) :
    (dealer.removeCalleeFromAll session ids).1.registrations[other]? =
      if other ∈ ids then
        (dealer.registrations[other]?).bind fun found => found.without session
      else dealer.registrations[other]? := by
  rw [fst_removeCalleeFromAll]
  exact Table.getElem?_foldl Dealer.registrations Catalogued
    (fun _ id hcatalogued => hcatalogued.removeCallee session id)
    (fun _ id other hcatalogued => hcatalogued.getElem?_removeCallee session id other)
    hcatalogued honce other

/-- In which order a session is taken out of its registrations makes no difference. -/
theorem Catalogued.removeCalleeFromAll_perm (hcatalogued : dealer.Catalogued)
    (hcanonical : dealer.directory.Canonical) (session : Id) {ids permuted : List Id}
    (honce : ids.Nodup) (hperm : permuted.Perm ids) :
    (dealer.removeCalleeFromAll session permuted).1 =
      (dealer.removeCalleeFromAll session ids).1 := by
  have hregistrations : (dealer.removeCalleeFromAll session permuted).1.registrations =
      (dealer.removeCalleeFromAll session ids).1.registrations := by
    apply Std.ExtTreeMap.ext_getElem?
    intro other
    rw [hcatalogued.getElem?_removeCalleeFromAll session (hperm.nodup_iff.mpr honce),
      hcatalogued.getElem?_removeCalleeFromAll session honce]
    simp only [hperm.mem_iff]
  have hnamed : ∀ id, (dealer.removeCalleeFromAll session permuted).1.named id =
      (dealer.removeCalleeFromAll session ids).1.named id := by
    intro id
    rw [named, named, hregistrations]
  have hdirectory : (dealer.removeCalleeFromAll session permuted).1.directory =
      (dealer.removeCalleeFromAll session ids).1.directory :=
    (hcatalogued.removeCalleeFromAll session permuted).lists.ext
      ((hcatalogued.removeCalleeFromAll session ids).lists.congr hnamed)
      (canonical_removeCalleeFromAll hcanonical session permuted)
      (canonical_removeCalleeFromAll hcanonical session ids)
  obtain ⟨_, _, hforth⟩ := dealer.removeCalleeFromAll_eq session permuted
  obtain ⟨_, _, hback⟩ := dealer.removeCalleeFromAll_eq session ids
  rw [hforth, hback] at hregistrations hdirectory ⊢
  simp only at hregistrations hdirectory
  rw [hregistrations, hdirectory]

/-! ## What is left -/

/-- The registrations have no bearing on which calls the session waits for. -/
theorem state_removeSession_eq_departed (hattached : dealer.isAttached session = true) :
    (dealer.removeSession session).state =
      dealer.departed session (dealer.held.getD session ∅).toList (dealer.pendingOf session) := by
  obtain ⟨_, _, hwithdrawn⟩ := dealer.withdrawn_eq session
  have hpending : (dealer.withdrawn session).pendingOf session = dealer.pendingOf session := by
    rw [hwithdrawn]
    rfl
  rw [dealer.state_removeSession hattached, hpending]
  rfl

/-- The directory of a dealer lists its registrations. -/
theorem Catalogued.get?_eq_some_iff (hcatalogued : dealer.Catalogued) (procedure : String)
    (policy : MatchPolicy) (id : Id) :
    dealer.directory.get? procedure = some { policy, value := id } ↔
      ∃ found, dealer.registrations[id]? = some found ∧ found.procedure = procedure ∧
        found.policy = policy := by
  rw [hcatalogued.lists.get?_iff, named, Option.map_eq_some_iff]
  simp only [Prod.mk.injEq]

/-- Every registration is what it was without the session, whether the session serves it or not. -/
theorem Tables.getElem?_departed (htables : dealer.Tables) (session : Id) (abandoned : List Id)
    (id : Id) :
    (dealer.departed session (dealer.held.getD session ∅).toList abandoned).registrations[id]? =
      (dealer.registrations[id]?).bind fun found => found.without session := by
  let detached : Dealer :=
    { dealer with
      sessions := dealer.sessions.erase session
      held := dealer.held.erase session }
  have hcatalogued : detached.Catalogued := { htables.toCatalogued with }
  have hdeparted := hcatalogued.getElem?_removeCalleeFromAll session
    (Holdings.nodup_toList (dealer.held.getD session ∅)) id
  obtain ⟨_, _, hdropped⟩ := foldl_dropPending_eq
    (detached.removeCalleeFromAll session (dealer.held.getD session ∅).toList).1 abandoned
  change (abandoned.foldl Dealer.dropPending
    (detached.removeCalleeFromAll session _).1).registrations[id]? = _
  rw [hdropped]
  refine hdeparted.trans ?_
  split
  next => rfl
  next hnot =>
    rw [Std.ExtTreeSet.mem_toList, Holdings.mem_getD_iff, htables.holds_iff] at hnot
    change dealer.registrations[id]? = _
    cases hfound : dealer.registrations[id]? with
    | none => rfl
    | some found =>
        have hmissing : session ∉ found.callees := fun hmem => hnot ⟨found, hfound, hmem⟩
        rw [Option.bind_some, (htables.wellFormed id found hfound).without_of_not_mem hmissing]

/-- The invocations that are left are those whose caller stays. -/
theorem getElem?_pending_departed (dealer : Dealer) (session : Id) (registrations : List Id)
    (invocation : Id) :
    (dealer.departed session registrations (dealer.pendingOf session)).pending[invocation]? =
      (dealer.pending[invocation]?).filter fun pending => pending.caller ≠ session := by
  obtain ⟨_, _, hleft⟩ := removeCalleeFromAll_eq
    { dealer with
      sessions := dealer.sessions.erase session
      held := dealer.held.erase session } session registrations
  simp only [departed]
  rw [hleft, getElem?_foldl_dropPending]
  simp only [mem_pendingOf]
  cases dealer.pending[invocation]? with
  | none => simp
  | some found => by_cases hcaller : found.caller = session <;> simp [Option.filter_some, hcaller]

/-- The index goes on finding the calls of the others, and none of the session. -/
theorem Indexed.getElem?_invocationOf_departed (hindexed : dealer.Indexed) {left : Dealer}
    (hleft : left.Indexed)
    (hpending : ∀ invocation : Id, left.pending[invocation]? =
      (dealer.pending[invocation]?).filter fun pending => pending.caller ≠ session)
    (key : CallKey) :
    left.invocationOf[key]? =
      if key.caller = session then none else dealer.invocationOf[key]? := by
  refine Option.ext fun invocation => ?_
  rw [hleft key invocation, hpending]
  split
  next hcaller =>
    simp only [Option.filter_eq_some_iff, reduceCtorEq, iff_false]
    rintro ⟨pending, ⟨-, hother⟩, rfl⟩
    exact absurd hcaller (of_decide_eq_true hother)
  next hcaller =>
    rw [hindexed key invocation]
    simp only [Option.filter_eq_some_iff]
    constructor
    · rintro ⟨pending, ⟨hfound, -⟩, hkey⟩
      exact ⟨pending, hfound, hkey⟩
    · rintro ⟨pending, hfound, rfl⟩
      exact ⟨pending, ⟨hfound, decide_eq_true hcaller⟩, rfl⟩

theorem Tables.detached_removeSession (htables : dealer.Tables) (hindexed : dealer.Indexed)
    (hcanonical : dealer.directory.Canonical) (hattached : dealer.isAttached session = true) :
    dealer.Detached session (dealer.removeSession session).state := by
  have hcatalogued : ((dealer.removeSession session).state).Catalogued :=
    (htables.perform (.detach session)).toCatalogued
  have hstate := state_removeSession_eq_departed hattached
  have hregistration : ∀ id : Id, (dealer.removeSession session).state.registrations[id]? =
      (dealer.registrations[id]?).bind fun found => found.without session := by
    intro id
    rw [hstate]
    exact htables.getElem?_departed session _ id
  have hpending : ∀ invocation : Id,
      (dealer.removeSession session).state.pending[invocation]? =
        (dealer.pending[invocation]?).filter fun pending => pending.caller ≠ session := by
    intro invocation
    rw [hstate]
    exact dealer.getElem?_pending_departed session _ invocation
  have hleft : (dealer.removeSession session).state.Indexed := by
    rw [dealer.state_removeSession hattached]
    exact hindexed.detach session
  constructor
  case frame =>
    obtain ⟨_, _, _, _, hframe⟩ := dealer.removeSession_eq hattached
    rw [hframe]
  case none_new =>
    intro id hnone
    rw [hregistration, hnone, Option.bind_none]
  case deleted =>
    intro id found hfound hlast
    rw [hregistration, hfound, Option.bind_some]
    simp [Registration.without, Registration.callees_leave, hlast]
  case kept =>
    intro id found hfound hothers
    refine ⟨found.leave session, ?_, (htables.wellFormed id found hfound).parted_leave hothers⟩
    rw [hregistration, hfound, Option.bind_some]
    simp [Registration.without, Registration.callees_leave, hothers]
  case listed => exact hcatalogued.get?_eq_some_iff
  case pending => exact hpending
  case invocationOf => exact hindexed.getElem?_invocationOf_departed hleft hpending
  case unordered =>
    intro registrations abandoned hperm habandoned
    let detached : Dealer :=
      { dealer with
        sessions := dealer.sessions.erase session
        held := dealer.held.erase session }
    have hcatalogued : detached.Catalogued := { htables.toCatalogued with }
    have hsame := hcatalogued.removeCalleeFromAll_perm hcanonical session
      (Holdings.nodup_toList _) hperm
    rw [hstate]
    change abandoned.foldl Dealer.dropPending
      (detached.removeCalleeFromAll session registrations).1 = _
    rw [hsame]
    exact foldl_dropPending_perm _ habandoned

end Dealer

end Wamp
