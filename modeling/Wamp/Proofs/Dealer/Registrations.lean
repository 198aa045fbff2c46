import Wamp.Proofs.Dealer.Announcing
import Wamp.Proofs.Directory
import Wamp.Proofs.Holdings
import Wamp.Proofs.Registration

/-!
# The registrations of a dealer

A dealer stores who serves what twice, and the procedure of a registration in its directory a
second time.  The invariant below says that the tables agree and that every registration is well
formed.  Every operation keeps it, whatever identifiers are drawn.
-/

namespace Wamp.Dealer

/-- The procedure and the policy of a registration. -/
def named (dealer : Dealer) (id : Id) : Option (String × MatchPolicy) :=
  (dealer.registrations[id]?).map fun found => (found.procedure, found.policy)

def ServedBy (dealer : Dealer) (session id : Id) : Prop :=
  ∃ found, dealer.registrations[id]? = some found ∧ session ∈ found.callees

/-- The registrations bear their own identifiers and are well formed, and the directory lists
them and nothing else. -/
structure Catalogued (dealer : Dealer) : Prop where
  id_eq : ∀ (id : Id) (found : Registration), dealer.registrations[id]? = some found →
    found.id = id
  wellFormed : ∀ (id : Id) (found : Registration), dealer.registrations[id]? = some found →
    found.WellFormed
  lists : dealer.directory.Lists dealer.named

/-- All tables of registrations agree: besides the catalogue, exactly the attached sessions have
a row among the holdings, and it names the registrations that the session serves. -/
structure Tables (dealer : Dealer) : Prop extends dealer.Catalogued where
  attached_iff : ∀ session, session ∈ dealer.held ↔ dealer.isAttached session = true
  holds_iff : ∀ session id, dealer.held.Holds session id ↔ dealer.ServedBy session id

theorem named_eq_some {dealer : Dealer} {id : Id} {found : Registration}
    (hfound : dealer.registrations[id]? = some found) :
    dealer.named id = some (found.procedure, found.policy) := by
  simp [named, hfound]

theorem tables_empty : ({} : Dealer).Tables where
  id_eq := by simp
  wellFormed := by simp
  lists :=
    { inStep := Uri.Directory.inStep_empty
      get?_iff := by simp [Uri.Directory.get?, named] }
  attached_iff := by simp [isAttached]
  holds_iff := by simp [Holdings.not_holds_empty, ServedBy]

theorem Tables.attached_of_servedBy {dealer : Dealer} (htables : dealer.Tables)
    {session id : Id} (hserved : dealer.ServedBy session id) :
    dealer.isAttached session = true := by
  rw [← htables.attached_iff]
  exact ((htables.holds_iff session id).mpr hserved).mem

/-- The identifier of a new registration is the first free one of the listed draws and as many
numbers as cannot all be taken. -/
theorem find?_eq_freshRegistrationId (dealer : Dealer) (ambient : Ambient) :
    ((ambient.drawnId :: ambient.laterIds) ++
        List.range' 1 (dealer.registrations.size + 1)).find?
        (fun id => !dealer.registrations.contains id) =
      some (dealer.freshRegistrationId ambient) := by
  rw [List.find?_append]
  unfold freshRegistrationId
  simp only
  split
  next id hdrawn => rw [hdrawn, Option.some_or]
  next hdrawn =>
    rw [hdrawn, Option.none_or]
    obtain ⟨id, hmem, hfree⟩ : ∃ id ∈ List.range' 1 (dealer.registrations.size + 1),
        id ∉ dealer.registrations := Table.exists_not_mem List.nodup_range' (by simp)
    cases hnumbered : (List.range' 1 (dealer.registrations.size + 1)).find?
        (fun id => !dealer.registrations.contains id) with
    | some first => rfl
    | none =>
        have htaken := List.find?_eq_none.mp hnumbered id hmem
        simp [hfree] at htaken

theorem freshRegistrationId_not_mem (dealer : Dealer) (ambient : Ambient) :
    dealer.freshRegistrationId ambient ∉ dealer.registrations := by
  have hfree := List.find?_some (dealer.find?_eq_freshRegistrationId ambient)
  rwa [Bool.not_eq_true', ← Bool.not_eq_true, Std.ExtTreeMap.contains_iff_mem] at hfree

/-- As long as a dealer has fewer registrations than there are identifiers, a new one stays within
them if the draws do. -/
theorem freshRegistrationId_range {dealer : Dealer} {ambient : Ambient}
    (hroom : dealer.registrations.size < maxId.toNat)
    (hdraws : ∀ id ∈ ambient.drawnId :: ambient.laterIds, 1 ≤ id ∧ id ≤ maxId.toNat) :
    1 ≤ dealer.freshRegistrationId ambient ∧
      dealer.freshRegistrationId ambient ≤ maxId.toNat := by
  have hmem := List.mem_of_find?_eq_some (dealer.find?_eq_freshRegistrationId ambient)
  rcases List.mem_append.mp hmem with hdrawn | hnumbered
  · exact hdraws _ hdrawn
  · obtain ⟨hpos, hlt⟩ := List.mem_range'_1.mp hnumbered
    have hle : dealer.freshRegistrationId ambient ≤ dealer.registrations.size + 1 := by
      rw [Nat.add_comm] at hlt
      exact Nat.le_of_lt_succ hlt
    exact ⟨hpos, Nat.le_trans hle hroom⟩

/-! ## Removing callees -/

section Removing

variable {dealer : Dealer}

/-- What becomes of a dealer whose registration loses a callee: nothing if the session does not
serve it, and the registration goes with its last callee. -/
inductive Removes (dealer : Dealer) (session id : Id) : Dealer → Prop where
  | stranger (hserved : ¬ dealer.ServedBy session id) : Removes dealer session id dealer
  | last (found : Registration) (hfound : dealer.registrations[id]? = some found)
      (hcallee : session ∈ found.callees) (hleft : (found.leave session).callees = []) :
      Removes dealer session id
        { dealer with
          registrations := dealer.registrations.erase id
          directory := dealer.directory.erase found.procedure }
  | other (found : Registration) (hfound : dealer.registrations[id]? = some found)
      (hcallee : session ∈ found.callees) (hleft : (found.leave session).callees ≠ []) :
      Removes dealer session id
        { dealer with registrations := dealer.registrations.insert id (found.leave session) }

theorem removes_removeCallee (dealer : Dealer) (session id : Id) :
    dealer.Removes session id (dealer.removeCallee session id).1 := by
  unfold removeCallee
  cases hfound : dealer.registrations[id]? with
  | none => exact .stranger (by simp [ServedBy, hfound])
  | some found =>
      simp only
      split
      next hcallee =>
        rw [List.contains_iff_mem] at hcallee
        split
        next hleft => exact .last found hfound hcallee (List.isEmpty_iff.mp hleft)
        next hleft => exact .other found hfound hcallee (by simpa using hleft)
      next hcallee => exact .stranger (by simpa [ServedBy, hfound] using hcallee)

theorem Catalogued.removeCallee (hcatalogued : dealer.Catalogued) (session id : Id) :
    (dealer.removeCallee session id).1.Catalogued := by
  have hremoves := dealer.removes_removeCallee session id
  generalize (dealer.removeCallee session id).1 = state at hremoves ⊢
  cases hremoves with
  | stranger => exact hcatalogued
  | last found hfound =>
      refine ⟨Table.forall_erase hcatalogued.id_eq id,
        Table.forall_erase hcatalogued.wellFormed id,
        (hcatalogued.lists.erase (named_eq_some hfound)).congr ?_⟩
      intro other
      by_cases hsame : other = id
      · simp [named, hsame]
      · simp [named, Std.ExtTreeMap.getElem?_erase, hsame, Ne.symm hsame]
  | other found hfound hcallee hleft =>
      obtain ⟨cursor, hsession⟩ := found.leave_eq session
      have hformed := (hcatalogued.wellFormed id found hfound).leave hcallee hleft
      have hid : (found.leave session).id = id := by
        rw [hsession]
        exact hcatalogued.id_eq id found hfound
      refine ⟨Table.forall_insert hcatalogued.id_eq hid,
        Table.forall_insert hcatalogued.wellFormed hformed, hcatalogued.lists.congr ?_⟩
      intro other
      by_cases hsame : id = other
      · subst hsame
        simp [named, hfound, hsession]
      · simp [named, Std.ExtTreeMap.getElem?_insert, hsame]

theorem Catalogued.servedBy_removeCallee (hcatalogued : dealer.Catalogued)
    (session id other held : Id) :
    (dealer.removeCallee session id).1.ServedBy other held ↔
      ¬ (session = other ∧ id = held) ∧ dealer.ServedBy other held := by
  have hremoves := dealer.removes_removeCallee session id
  generalize (dealer.removeCallee session id).1 = state at hremoves ⊢
  cases hremoves with
  | stranger hserved =>
      refine ⟨fun hother => ⟨?_, hother⟩, And.right⟩
      rintro ⟨rfl, rfl⟩
      exact hserved hother
  | last found hfound hcallee hleft =>
      -- The registration goes, but nobody except the session served it.
      have honly : ∀ callee, callee ∈ found.callees → session = callee := by
        intro callee hmem
        by_contra hother
        have herased := (List.mem_erase_of_ne (Ne.symm hother)).mpr hmem
        rw [← Registration.callees_leave, hleft] at herased
        exact List.not_mem_nil herased
      unfold ServedBy
      by_cases hsame : id = held
      · subst hsame
        simpa [hfound, not_imp_not] using honly other
      · simp [Std.ExtTreeMap.getElem?_erase, hsame]
  | other found hfound hcallee hleft =>
      have hnodup := (hcatalogued.wellFormed id found hfound).nodup
      unfold ServedBy
      by_cases hsame : id = held
      · subst hsame
        simp [hfound, Registration.callees_leave, hnodup.mem_erase_iff, eq_comm]
      · simp [Std.ExtTreeMap.getElem?_insert, hsame]

theorem Catalogued.removeCalleeFromAll (hcatalogued : dealer.Catalogued) (session : Id)
    (ids : List Id) : (dealer.removeCalleeFromAll session ids).1.Catalogued := by
  induction ids generalizing dealer with
  | nil => exact hcatalogued
  | cons id rest ih => exact ih (hcatalogued.removeCallee session id)

theorem Catalogued.servedBy_removeCalleeFromAll (hcatalogued : dealer.Catalogued)
    (session : Id) (ids : List Id) (other held : Id) :
    (dealer.removeCalleeFromAll session ids).1.ServedBy other held ↔
      ¬ (session = other ∧ held ∈ ids) ∧ dealer.ServedBy other held := by
  induction ids generalizing dealer with
  | nil => simp [Dealer.removeCalleeFromAll]
  | cons id rest ih =>
      simp only [Dealer.removeCalleeFromAll]
      rw [ih (hcatalogued.removeCallee session id), hcatalogued.servedBy_removeCallee,
        List.mem_cons]
      tauto

end Removing

/-! ## The invariant after each operation -/

namespace Tables

variable {dealer : Dealer}

theorem congr (htables : dealer.Tables) {other : Dealer}
    (hsessions : other.sessions = dealer.sessions)
    (hregistrations : other.registrations = dealer.registrations)
    (hheld : other.held = dealer.held) (hdirectory : other.directory = dealer.directory) :
    other.Tables where
  id_eq := by
    rw [hregistrations]
    exact htables.id_eq
  wellFormed := by
    rw [hregistrations]
    exact htables.wellFormed
  lists := by
    rw [hdirectory]
    apply htables.lists.congr
    simp [named, hregistrations]
  attached_iff := by
    unfold isAttached
    rw [hsessions, hheld]
    exact htables.attached_iff
  holds_iff := by
    unfold ServedBy
    rw [hregistrations, hheld]
    exact htables.holds_iff

theorem attach (htables : dealer.Tables) {session : Session}
    (hnew : dealer.isAttached session.id = false) :
    Tables
      { dealer with
        sessions := dealer.sessions.insert session.id session
        held := dealer.held.insert session.id ∅ } := by
  have hrow : session.id ∉ dealer.held := by
    rw [htables.attached_iff, hnew]
    simp
  refine { htables.toCatalogued with attached_iff := ?_, holds_iff := ?_ }
  · intro other
    have hother := htables.attached_iff other
    simp only [isAttached] at hother
    simp [isAttached, Std.ExtTreeMap.mem_insert, hother]
  · intro other id
    exact (Holdings.holds_open hrow other id).trans (htables.holds_iff other id)

theorem withdrawn (htables : dealer.Tables) (session : Id) :
    (dealer.withdrawn session).Tables := by
  let detached : Dealer :=
    { dealer with
      sessions := dealer.sessions.erase session
      held := dealer.held.erase session }
  let ids := (dealer.held.getD session ∅).toList
  have hcatalogued : detached.Catalogued := { htables.toCatalogued with }
  obtain ⟨registrations, directory, hstate⟩ := dealer.withdrawn_eq session
  refine { hcatalogued.removeCalleeFromAll session ids with attached_iff := ?_, holds_iff := ?_ }
  · intro other
    have hother := htables.attached_iff other
    rw [hstate]
    simp only [isAttached] at hother
    simp [isAttached, Std.ExtTreeMap.mem_erase, hother]
  · intro other id
    have hserved := hcatalogued.servedBy_removeCalleeFromAll session ids other id
    have hheld : (dealer.withdrawn session).held = dealer.held.erase session := by
      rw [hstate]
    have hkept : detached.ServedBy other id ↔ dealer.ServedBy other id := Iff.rfl
    change _ ↔ (detached.removeCalleeFromAll session ids).1.ServedBy other id
    rw [hserved, hheld, hkept, ← htables.holds_iff other id]
    exact Holdings.holds_close _ session other id

theorem released (htables : dealer.Tables) {session : Id} {ids : Std.ExtTreeSet Id}
    (hrow : dealer.held[session]? = some ids) (registration : Id) :
    (dealer.released session ids registration).Tables := by
  let returned : Dealer :=
    { dealer with held := dealer.held.insert session (ids.erase registration) }
  have hcatalogued : returned.Catalogued := { htables.toCatalogued with }
  obtain ⟨registrations, directory, hstate⟩ := dealer.released_eq session ids registration
  refine { hcatalogued.removeCallee session registration with
    attached_iff := ?_, holds_iff := ?_ }
  · intro other
    rw [hstate]
    exact (Table.mem_insert_iff (Table.mem_of_getElem? hrow) _ other).trans
      (htables.attached_iff other)
  · intro other id
    have hserved := hcatalogued.servedBy_removeCallee session registration other id
    have hheld : (dealer.released session ids registration).held = returned.held := by
      rw [hstate]
    have hkept : returned.ServedBy other id ↔ dealer.ServedBy other id := Iff.rfl
    change _ ↔ (returned.removeCallee session registration).1.ServedBy other id
    rw [hserved, hheld, hkept, ← htables.holds_iff other id]
    exact Holdings.holds_take hrow registration other id

/-- A session serves one more registration, a new one or one that others serve already. -/
theorem enrolled (htables : dealer.Tables) {session : Id}
    (hattached : dealer.isAttached session = true) {registration : Registration}
    (hformed : registration.WellFormed)
    (hcallees : ∀ callee, callee ∈ registration.callees ↔
      session = callee ∨ dealer.ServedBy callee registration.id)
    {directory : Uri.Directory Id}
    (hlists : directory.Lists fun id =>
      if id = registration.id then some (registration.procedure, registration.policy)
      else dealer.named id) :
    (Dealer.enrolled { dealer with directory } session registration).Tables := by
  refine ⟨⟨Table.forall_insert htables.id_eq rfl, Table.forall_insert htables.wellFormed hformed,
    hlists.congr ?_⟩, ?_, ?_⟩
  · intro id
    by_cases hsame : registration.id = id
    · simp [Dealer.enrolled, named, hsame]
    · simp [Dealer.enrolled, named, Std.ExtTreeMap.getElem?_insert, hsame, Ne.symm hsame]
  · intro other
    have hmem : session ∈ dealer.held := (htables.attached_iff session).mpr hattached
    exact (Table.mem_insert_iff hmem _ other).trans (htables.attached_iff other)
  · intro other id
    simp only [Dealer.enrolled]
    rw [Holdings.holds_give, htables.holds_iff]
    unfold ServedBy
    by_cases hsame : registration.id = id
    · subst hsame
      have hcallee := hcallees other
      unfold ServedBy at hcallee
      simp [hcallee]
    · simp [Std.ExtTreeMap.getElem?_insert, hsame]

theorem enrolled_created (htables : dealer.Tables) {ambient : Ambient} {session : Id}
    {request : Register} (hattached : dealer.isAttached session = true)
    (hfree : dealer.directory.get? request.procedure = none) :
    ((dealer.listed (dealer.created ambient session request)).enrolled session
      (dealer.created ambient session request)).Tables := by
  have hfresh := Std.ExtTreeMap.getElem?_eq_none
    (dealer.freshRegistrationId_not_mem ambient)
  have hnew : dealer.named (dealer.freshRegistrationId ambient) = none := by
    simp [named, hfresh]
  apply htables.enrolled hattached
  · exact {
      served := by simp [created]
      nodup := by simp [created]
      single := by simp [created]
      cursor_le := by simp [created] }
  · intro callee
    simp [created, ServedBy, hfresh, eq_comm]
  · exact htables.lists.insert hfree hnew (MatchPolicy.ofOptions request.options)

theorem enrolled_join (htables : dealer.Tables) {session id : Id} {found : Registration}
    {requested : InvocationPolicy} (hattached : dealer.isAttached session = true)
    (hfound : dealer.registrations[id]? = some found)
    (hadmits : found.admits requested = true) (hnew : session ∉ found.callees) :
    (dealer.enrolled session (found.join session)).Tables := by
  have hid : found.id = id := htables.id_eq id found hfound
  apply htables.enrolled hattached ((htables.wellFormed id found hfound).join hadmits hnew)
  · intro callee
    simp [Registration.join, ServedBy, hid, hfound, or_comm, eq_comm]
  · apply htables.lists.congr
    intro other
    simp only [Registration.join, hid]
    split
    next hsame => rw [hsame, named_eq_some hfound]
    next => rfl

/-- The choice of a callee moves no more than a cursor. -/
theorem committed (htables : dealer.Tables) {id : Id} {found : Registration} {position : Nat}
    (hfound : dealer.registrations[id]? = some found)
    (hposition : position < found.callees.length) :
    (dealer.committed id found position).Tables := by
  obtain ⟨cursor, hcommit⟩ := found.commit_eq position
  have hformed := (htables.wellFormed id found hfound).commit hposition
  rw [hcommit] at hformed
  have hid := htables.id_eq id found hfound
  unfold Dealer.committed
  rw [hcommit]
  refine ⟨⟨Table.forall_insert htables.id_eq hid, Table.forall_insert htables.wellFormed hformed,
    htables.lists.congr ?_⟩, htables.attached_iff, ?_⟩
  · intro other
    by_cases hsame : id = other
    · subst hsame
      simp [named, hfound]
    · simp [named, Std.ExtTreeMap.getElem?_insert, hsame]
  · intro other held
    rw [htables.holds_iff]
    unfold ServedBy
    by_cases hsame : id = held
    · subst hsame
      simp [hfound]
    · simp [Std.ExtTreeMap.getElem?_insert, hsame]

theorem dropPending (htables : dealer.Tables) (invocation : Id) :
    (dealer.dropPending invocation).Tables := by
  obtain ⟨left, invocationOf, hleft⟩ := dealer.dropPending_eq invocation
  rw [hleft]
  exact htables.congr rfl rfl rfl rfl

theorem launch (htables : dealer.Tables) (pending : Pending) :
    (dealer.launch pending).2.Tables := by
  rw [launch_eq]
  exact htables.congr rfl rfl rfl rfl

theorem perform (htables : dealer.Tables) (operation : Operation) :
    (dealer.perform operation).state.Tables := by
  apply perform_induction Tables htables
  intro state routed hserves
  cases hserves with
  | attached session hnew => exact htables.attach hnew
  | detached session =>
      obtain ⟨left, invocationOf, hleft⟩ := foldl_dropPending_eq (dealer.withdrawn session)
        ((dealer.withdrawn session).pendingOf session)
      rw [hleft]
      exact (htables.withdrawn session).congr rfl rfl rfl rfl
  | registered ambient session request hattached hfree =>
      exact htables.enrolled_created hattached hfree
  | joined ambient session request entry found hattached hentry hfound hadmits hnew =>
      exact htables.enrolled_join hattached hfound hadmits hnew
  | unregistered ambient session request ids hrow =>
      exact htables.released hrow request.registration
  | dispatched ambient session request caller callee entry found position route hcaller hclosed
      hentry hfound hpick =>
      exact (htables.committed hfound (Registration.lt_length_of_pick? hpick)).launch _
  | closed => exact htables.launch _
  | killed | finished | failed | skipped | aborted => exact htables.dropPending _
  | _ => exact htables.congr rfl rfl rfl rfl

end Tables

theorem tables_final (operations : List Operation) :
    (Run.final perform {} operations).Tables :=
  Run.final_induction Tables (fun _ operation htables => htables.perform operation) tables_empty
    operations

/-! ## The directory of a run -/

section Canonical

variable {dealer : Dealer}

theorem canonical_removeCallee (hcanonical : dealer.directory.Canonical) (session id : Id) :
    (dealer.removeCallee session id).1.directory.Canonical := by
  have hremoves := dealer.removes_removeCallee session id
  generalize (dealer.removeCallee session id).1 = state at hremoves ⊢
  cases hremoves with
  | stranger | other => exact hcanonical
  | last found => exact hcanonical.erase found.procedure

theorem canonical_removeCalleeFromAll (hcanonical : dealer.directory.Canonical) (session : Id)
    (ids : List Id) : (dealer.removeCalleeFromAll session ids).1.directory.Canonical := by
  induction ids generalizing dealer with
  | nil => exact hcanonical
  | cons id rest ih => exact ih (canonical_removeCallee hcanonical session id)

theorem canonical_perform (hcanonical : dealer.directory.Canonical) (operation : Operation) :
    (dealer.perform operation).state.directory.Canonical := by
  have hdropped : ∀ invocation, (dealer.dropPending invocation).directory.Canonical := by
    intro invocation
    obtain ⟨_, _, hleft⟩ := dealer.dropPending_eq invocation
    rwa [hleft]
  apply perform_induction (fun dealer => dealer.directory.Canonical) hcanonical
  intro state routed hserves
  cases hserves with
  | detached session =>
      obtain ⟨_, _, hleft⟩ := foldl_dropPending_eq (dealer.withdrawn session)
        ((dealer.withdrawn session).pendingOf session)
      rw [hleft]
      exact canonical_removeCalleeFromAll (by exact hcanonical) session _
  | registered ambient session request => exact hcanonical.insert request.procedure _ _
  | unregistered ambient session request =>
      exact canonical_removeCallee (by exact hcanonical) session request.registration
  | dispatched | closed =>
      rw [launch_eq]
      exact hcanonical
  | killed | finished | failed | skipped | aborted => exact hdropped _
  | _ => exact hcanonical

theorem canonical_final (operations : List Operation) :
    (Run.final perform {} operations).directory.Canonical :=
  Run.final_induction (fun dealer : Dealer => dealer.directory.Canonical)
    (fun _ operation hcanonical => canonical_perform hcanonical operation)
    Uri.Directory.canonical_empty operations

end Canonical

end Wamp.Dealer

namespace Wamp.AnnouncingDealer

theorem tables_final (board : Board) (operations : List Operation) :
    (Run.final perform { board } operations).dealer.Tables := by
  rw [dealer_final]
  exact Dealer.tables_final (served operations)

end Wamp.AnnouncingDealer
