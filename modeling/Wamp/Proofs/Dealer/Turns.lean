import Mathlib.Data.List.Rotate
import Wamp.Proofs.Dealer.Callees
import Wamp.Proofs.Dealer.Routes

/-!
# The turns of a round-robin registration

The cursor of a round-robin registration is a position in a list that grows at its end and shrinks
anywhere.  Read from the cursor on and around, the list is the order in which the callees are served
next, and that order is all that matters: a callee that is handed a call goes to its back, and the
callees that stay keep their order whoever joins or leaves.  So between two turns of one of them
every other one has exactly one.
-/

namespace Wamp

/-! ## The order of the turns -/

namespace Registration

variable {registration : Registration}

/-- The callees in the order in which a round-robin registration serves them next. -/
def turns (registration : Registration) : List Id :=
  registration.callees.rotate registration.cursor

theorem WellFormed.nodup_turns (hformed : registration.WellFormed) : registration.turns.Nodup :=
  List.nodup_rotate.mpr hformed.nodup

theorem mem_turns {callee : Id} : callee ∈ registration.turns ↔ callee ∈ registration.callees :=
  List.mem_rotate

theorem rotate_wrapped {callees : List Id} {cursor : Nat} (hcursor : cursor ≤ callees.length) :
    callees.rotate (if callees.length ≤ cursor then 0 else cursor) = callees.rotate cursor := by
  split
  next hpast => rw [Nat.le_antisymm hcursor hpast, List.rotate_zero, List.rotate_length]
  next => rfl

theorem turns_eq_of_pick? (hcursor : registration.cursor ≤ registration.callees.length)
    (hround : registration.invoke = .roundRobin) {draw position : Nat}
    (hpick : registration.pick? draw = some position) :
    registration.turns = registration.callees.rotate position := by
  unfold pick? at hpick
  simp only [hround] at hpick
  split at hpick
  next => contradiction
  next =>
    split at hpick
    next hone =>
      obtain ⟨sole, hsole⟩ := List.length_eq_one_iff.mp hone
      simp [turns, hsole]
    next =>
      -- The cursor may stand past the last callee, and the next turn is then the first one's.
      rw [Option.some.injEq] at hpick
      rw [← hpick, rotate_wrapped hcursor]
      rfl

/-- The callee that is handed a call goes to the back. -/
theorem turns_commit (hcursor : registration.cursor ≤ registration.callees.length)
    (hround : registration.invoke = .roundRobin) {draw position : Nat} {callee : Id}
    (hpick : registration.pick? draw = some position)
    (hposition : registration.callees[position]? = some callee) :
    ∃ rest, registration.turns = callee :: rest ∧
      (registration.commit position).turns = rest ++ [callee] := by
  obtain ⟨hlt, hcallee⟩ := List.getElem?_eq_some_iff.mp hposition
  have hturns : registration.turns = callee ::
      (registration.callees.drop (position + 1) ++ registration.callees.take position) := by
    rw [turns_eq_of_pick? hcursor hround hpick, List.rotate_eq_drop_append_take hlt.le,
      List.drop_eq_getElem_cons hlt, hcallee, List.cons_append]
  refine ⟨_, hturns, ?_⟩
  have hcommit : (registration.commit position).turns = registration.turns.rotate 1 := by
    rw [turns_eq_of_pick? hcursor hround hpick, List.rotate_rotate]
    simp [turns, commit, hround]
  rw [hcommit, hturns, List.rotate_cons_succ, List.rotate_zero]

/-- A session that joins gets a turn of its own, and the order of the others stays. -/
theorem turns_sublist_join (hcursor : registration.cursor ≤ registration.callees.length)
    (session : Id) : registration.turns.Sublist (registration.join session).turns := by
  have hlonger : registration.cursor ≤ (registration.callees ++ [session]).length := by
    rw [List.length_append]
    exact Nat.le_add_right_of_le hcursor
  simp only [turns, join]
  rw [List.rotate_eq_drop_append_take hcursor, List.rotate_eq_drop_append_take hlonger,
    List.drop_append_of_le_length hcursor, List.take_append_of_le_length hcursor]
  exact (List.sublist_append_left _ _).append (List.Sublist.refl _)

theorem turns_leave_of_mem (hcursor : registration.cursor ≤ registration.callees.length)
    {session : Id} (hmem : session ∈ registration.callees) :
    (registration.leave session).turns = (registration.callees.erase session).rotate
      ((registration.callees.take registration.cursor).erase session).length := by
  have hleft := List.length_erase_of_mem hmem
  have hfront := List.mem_take_iff_idxOf_lt hmem (n := registration.cursor)
  have hinside := List.idxOf_lt_length_iff.mpr hmem
  have hlength := List.length_take_of_le hcursor
  rw [List.idxOf_eq_getD_idxOf?] at hfront hinside
  rw [List.length_erase, hlength]
  rw [List.erase_eq_eraseIdx] at hleft ⊢
  unfold turns leave
  cases hposition : registration.callees.idxOf? session with
  | none => exact absurd hmem (List.idxOf?_eq_none_iff.mp hposition)
  | some position =>
      -- The cursor counts the callees in front of it, and goes on counting those that are left.
      simp only [hposition, Option.getD_some] at hfront hinside hleft ⊢
      simp only [hfront]
      apply rotate_wrapped
      split <;> omega

/-- The order of the others does not depend on who leaves, wherever the cursor stands. -/
theorem turns_leave (hformed : registration.WellFormed) (session : Id) :
    (registration.leave session).turns = registration.turns.erase session := by
  have hturns : registration.turns = registration.callees.drop registration.cursor ++
      registration.callees.take registration.cursor :=
    List.rotate_eq_drop_append_take hformed.cursor_le
  have hparts := List.take_append_drop registration.cursor registration.callees
  by_cases hmem : session ∈ registration.callees
  · rw [turns_leave_of_mem hformed.cursor_le hmem, hturns]
    have hnodup := hformed.nodup
    generalize registration.callees.take registration.cursor = front at hparts ⊢
    generalize registration.callees.drop registration.cursor = back at hparts ⊢
    rw [← hparts] at hnodup ⊢
    rw [List.erase_append, List.erase_append]
    by_cases hfront : session ∈ front
    · have hback : session ∉ back := fun hback => List.disjoint_of_nodup_append hnodup hfront hback
      rw [if_pos hfront, if_neg hback, List.rotate_append_length_eq]
    · have hback : session ∈ back := by
        rw [← hparts, List.mem_append] at hmem
        exact hmem.resolve_left hfront
      rw [if_neg hfront, if_pos hback, List.erase_of_not_mem hfront, List.rotate_append_length_eq]
  · rw [leave_of_not_mem hmem, List.erase_of_not_mem (mt mem_turns.mp hmem)]

/-- What becomes in one operation of a registration that stays, with the callees that are handed a
fresh call through it. -/
inductive Becomes (found : Registration) : List Id → Registration → Prop where
  | kept : Becomes found [] found
  | joined (session : Id) (hnew : session ∉ found.callees) : Becomes found [] (found.join session)
  | left (session : Id) (hcallee : session ∈ found.callees) : Becomes found [] (found.leave session)
  | served (draw position : Nat) (callee : Id) (hpick : found.pick? draw = some position)
      (hposition : found.callees[position]? = some callee) :
      Becomes found [callee] (found.commit position)

theorem Becomes.invoke_eq {found next : Registration} {dispatched : List Id}
    (hbecomes : found.Becomes dispatched next) : next.invoke = found.invoke := by
  cases hbecomes with
  | kept | joined => rfl
  | left session =>
      obtain ⟨cursor, hleave⟩ := found.leave_eq session
      rw [hleave]
  | served draw position =>
      obtain ⟨cursor, hcommit⟩ := found.commit_eq position
      rw [hcommit]

/-- Both `callee` and `other` serve, and `other` has been handed `count` calls since the last turn
of `callee`: none while its own turn is still to come, and one afterwards. -/
def Owes (registration : Registration) (callee other : Id) (count : Nat) : Prop :=
  count = 0 ∧ [other, callee].Sublist registration.turns ∨
    count = 1 ∧ [callee, other].Sublist registration.turns

/-- Two callees that stay keep the order of their turns, whoever else joins or leaves. -/
theorem sublist_turns_of_becomes {found next : Registration} (hformed : found.WellFormed)
    (hbecomes : found.Becomes [] next) {callee other : Id} (hcallee : callee ∈ next.callees)
    (hother : other ∈ next.callees) (hturns : [other, callee].Sublist found.turns) :
    [other, callee].Sublist next.turns := by
  cases hbecomes with
  | kept => exact hturns
  | joined session => exact hturns.trans (turns_sublist_join hformed.cursor_le session)
  | left session =>
      rw [callees_leave, hformed.nodup.mem_erase_iff] at hcallee hother
      rw [turns_leave hformed]
      have herased := hturns.erase session
      rwa [List.erase_of_not_mem (by simp [hcallee.1.symm, hother.1.symm])] at herased

theorem Owes.step {found next : Registration} {callee other : Id} {count : Nat}
    (howes : found.Owes callee other count) (hformed : found.WellFormed)
    (hround : found.invoke = .roundRobin) {dispatched : List Id}
    (hbecomes : found.Becomes dispatched next) (hcallee : callee ∈ next.callees)
    (hother : other ∈ next.callees) (hquiet : callee ∉ dispatched) :
    next.Owes callee other (count + dispatched.count other) := by
  by_cases hnone : dispatched = []
  · subst hnone
    exact howes.imp
      (And.imp_right (sublist_turns_of_becomes hformed hbecomes hcallee hother))
      (And.imp_right (sublist_turns_of_becomes hformed hbecomes hother hcallee))
  · cases hbecomes with
    | kept | joined | left => exact absurd rfl hnone
    | served draw position served hpick hposition =>
        obtain ⟨rest, hturns, hnext⟩ := turns_commit hformed.cursor_le hround hpick hposition
        have hnodup := hformed.nodup_turns
        rw [hturns, List.nodup_cons] at hnodup
        rw [List.mem_singleton] at hquiet
        unfold Owes at howes ⊢
        rw [hturns] at howes
        rw [hnext]
        by_cases hserved : other = served
        · subst hserved
          rcases howes with ⟨rfl, -⟩ | ⟨rfl, hafter⟩
          · -- The turn of `other` has come, and the next one of `callee` is before its next one.
            rw [callees_commit, ← mem_turns, hturns] at hcallee
            have hlater := (List.mem_cons.mp hcallee).resolve_left hquiet
            right
            exact ⟨by simp, (List.singleton_sublist.mpr hlater).append (List.Sublist.refl [other])⟩
          · have hrest := hafter.of_cons_of_ne hquiet
            exact absurd (hrest.subset (by simp)) hnodup.1
        · rw [List.count_eq_zero_of_not_mem (mt List.mem_singleton.mp hserved), Nat.add_zero]
          refine howes.imp (And.imp_right fun hbefore => ?_) (And.imp_right fun hafter => ?_)
          · exact (hbefore.of_cons_of_ne hserved).trans (List.sublist_append_left _ _)
          · exact (hafter.of_cons_of_ne hquiet).trans (List.sublist_append_left _ _)

theorem Becomes.owes_of_mem {found next : Registration} {dispatched : List Id}
    (hbecomes : found.Becomes dispatched next) (hformed : found.WellFormed)
    (hround : found.invoke = .roundRobin) {callee other : Id} (hmem : callee ∈ dispatched)
    (hother : other ∈ next.callees) (hne : other ≠ callee) : next.Owes callee other 0 := by
  cases hbecomes with
  | kept | joined | left => contradiction
  | served draw position served hpick hposition =>
      obtain rfl := List.mem_singleton.mp hmem
      obtain ⟨rest, -, hnext⟩ := turns_commit hformed.cursor_le hround hpick hposition
      rw [← mem_turns, hnext, List.mem_append, List.mem_singleton] at hother
      have hearlier := List.singleton_sublist.mpr (hother.resolve_right hne)
      left
      rw [hnext]
      exact ⟨rfl, hearlier.append (List.Sublist.refl [callee])⟩

theorem Owes.count_eq_one {found : Registration} {callee other : Id} {count : Nat}
    (howes : found.Owes callee other count) (hformed : found.WellFormed)
    (hround : found.invoke = .roundRobin) {draw position : Nat}
    (hpick : found.pick? draw = some position)
    (hposition : found.callees[position]? = some callee) (hne : other ≠ callee) : count = 1 := by
  obtain ⟨rest, hturns, -⟩ := turns_commit hformed.cursor_le hround hpick hposition
  rcases howes with ⟨-, hbefore⟩ | ⟨hcount, -⟩
  · -- The turn of `callee` has come, so that `other` cannot be before it.
    have hnodup := hformed.nodup_turns
    rw [hturns, List.nodup_cons] at hnodup
    rw [hturns] at hbefore
    exact absurd ((hbefore.of_cons_of_ne hne).subset (by simp)) hnodup.1
  · exact hcount

end Registration

/-! ## One operation -/

namespace Dealer

variable {dealer : Dealer}

/-- A call that continues none. -/
def isFreshCall (dealer : Dealer) : Operation → Bool
  | .receive _ session (.call request) =>
    (dealer.openInvocation? (callKey session request)).isNone
  | _ => false

/-- The callees that are handed a call of a registration. -/
def handed (registration : Id) (routed : List Routed) : List Id :=
  routed.filterMap fun sent =>
    match sent.message with
    | .invocation body => if body.registration = registration then some sent.recipient else none
    | _ => none

theorem handed_invocation (registration recipient : Id) (body : Invocation) :
    handed registration [{ recipient, message := .invocation body }] =
      if body.registration = registration then [recipient] else [] := by
  by_cases hsame : body.registration = registration <;> simp [handed, hsame]

/-- The callees to which an operation hands a fresh call through a registration. -/
def dispatches (registration : Id) (dealer : Dealer) (operation : Operation) : List Id :=
  if dealer.isFreshCall operation then
    match (dealer.perform operation).answer with
    | .ok routed => handed registration routed
    | .error _ => []
  else []

theorem Catalogued.spared_removeCalleeFromAll (hcatalogued : dealer.Catalogued) (session : Id)
    (ids : List Id) : dealer.Spared session (dealer.removeCalleeFromAll session ids).1 := by
  induction ids generalizing dealer with
  | nil => exact fun id next hnext => ⟨next, hnext, Or.inl rfl⟩
  | cons first rest ih =>
      intro id next hnext
      obtain ⟨middle, hmiddle, hlater⟩ := ih (hcatalogued.removeCallee session first) id next hnext
      obtain ⟨found, hfound, hearlier⟩ := dealer.spared_removeCallee session first id middle hmiddle
      refine ⟨found, hfound, ?_⟩
      rcases hearlier with rfl | ⟨hcallee, rfl⟩
      · exact hlater
      · -- The session is gone from this registration, so that it cannot leave it again.
        rcases hlater with rfl | ⟨hagain, -⟩
        · exact Or.inr ⟨hcallee, rfl⟩
        · rw [Registration.callees_leave] at hagain
          exact absurd hagain (hcatalogued.wellFormed id found hfound).nodup.not_mem_erase

theorem dispatches_of_not_fresh {operation : Operation}
    (hfresh : dealer.isFreshCall operation = false) (registration : Id) :
    dealer.dispatches registration operation = [] := by
  simp [dispatches, hfresh]

theorem dispatches_of_fresh {ambient : Ambient} {session : Id} {request : Call}
    {routed : List Routed}
    (hanswer : (dealer.perform (.receive ambient session (.call request))).answer = .ok routed)
    (hclosed : dealer.openInvocation? { caller := session, request := request.request } = none)
    (registration : Id) :
    dealer.dispatches registration (.receive ambient session (.call request)) =
      handed registration routed := by
  simp [dispatches, isFreshCall, callKey, hclosed, hanswer]

theorem dispatches_of_refused {operation : Operation} {error : DealerError}
    (hanswer : (dealer.perform operation).answer = .error error) (registration : Id) :
    dealer.dispatches registration operation = [] := by
  rw [dispatches, hanswer, ite_self]

/-- A registration is what an operation has made of one from before, or the operation has created it
for its only callee. -/
def Originates (dealer : Dealer) (operation : Operation) (id : Id) (next : Registration) : Prop :=
  (∃ found, dealer.registrations[id]? = some found ∧
    found.Becomes (dealer.dispatches id operation) next) ∨
  dealer.registrations[id]? = none ∧ ∃ session, next.callees = [session]

theorem originates_of_kept {operation : Operation} {id : Id} {next : Registration}
    (hnone : dealer.dispatches id operation = [])
    (hfound : dealer.registrations[id]? = some next) : dealer.Originates operation id next := by
  unfold Originates
  rw [hnone]
  exact Or.inl ⟨next, hfound, .kept⟩

theorem originates_of_not_fresh {operation : Operation} {id : Id} {next : Registration}
    (hfresh : dealer.isFreshCall operation = false)
    (hfound : dealer.registrations[id]? = some next) : dealer.Originates operation id next :=
  originates_of_kept (dispatches_of_not_fresh hfresh id) hfound

theorem Spared.originates {operation : Operation} {session id : Id} {state : Dealer}
    {next : Registration} (hspared : dealer.Spared session state)
    (hfresh : dealer.isFreshCall operation = false)
    (hnext : state.registrations[id]? = some next) : dealer.Originates operation id next := by
  obtain ⟨found, hfound, rfl | ⟨hcallee, rfl⟩⟩ := hspared id next hnext
  · exact originates_of_not_fresh hfresh hfound
  · unfold Originates
    rw [dispatches_of_not_fresh hfresh]
    exact Or.inl ⟨found, hfound, .left session hcallee⟩

theorem Tables.registration_origin (htables : dealer.Tables) (operation : Operation) {id : Id}
    {next : Registration}
    (hnext : (dealer.perform operation).state.registrations[id]? = some next) :
    dealer.Originates operation id next := by
  cases hanswer : (dealer.perform operation).answer with
  | error error =>
      rw [(refuses_of_refused hanswer).2] at hnext
      exact originates_of_kept (dispatches_of_refused hanswer id) hnext
  | ok routed =>
      have hserves := serves_of_granted hanswer
      generalize (dealer.perform operation).state = state at hnext hserves
      cases hserves with
      | detached session =>
          obtain ⟨_, _, hdropped⟩ := foldl_dropPending_eq (dealer.withdrawn session)
            ((dealer.withdrawn session).pendingOf session)
          rw [hdropped] at hnext
          have hcatalogued : Catalogued
              { dealer with
                sessions := dealer.sessions.erase session
                held := dealer.held.erase session } := { htables.toCatalogued with }
          have hspared : dealer.Spared session (dealer.withdrawn session) :=
            hcatalogued.spared_removeCalleeFromAll session _
          exact hspared.originates rfl hnext
      | registered ambient session request hattached =>
          simp only [Dealer.enrolled, Dealer.listed, Std.ExtTreeMap.getElem?_insert] at hnext
          split at hnext
          next hsame =>
            obtain rfl : dealer.freshRegistrationId ambient = id :=
              Std.LawfulEqCmp.eq_of_compare hsame
            have hnew := Std.ExtTreeMap.getElem?_eq_none
              (dealer.freshRegistrationId_not_mem ambient)
            rw [← Option.some.inj hnext]
            exact Or.inr ⟨hnew, session, rfl⟩
          next => exact originates_of_not_fresh rfl hnext
      | joined ambient session request entry found hattached hentry hfound hadmits hnew =>
          have hid := htables.id_eq entry.value found hfound
          simp only [Dealer.enrolled, Std.ExtTreeMap.getElem?_insert] at hnext
          split at hnext
          next hsame =>
            have hvalue : found.id = id := Std.LawfulEqCmp.eq_of_compare hsame
            rw [← hid, hvalue] at hfound
            left
            rw [dispatches_of_not_fresh rfl, ← Option.some.inj hnext]
            exact ⟨found, hfound, .joined session hnew⟩
          next => exact originates_of_not_fresh rfl hnext
      | unregistered ambient session request ids =>
          have hspared : dealer.Spared session (dealer.released session ids request.registration) :=
            spared_removeCallee _ session request.registration
          exact hspared.originates rfl hnext
      | unresolved ambient session request caller hcaller hclosed =>
          exact originates_of_kept (dispatches_of_fresh hanswer hclosed id) hnext
      | dispatched ambient session request caller callee entry found position route hcaller hclosed
          hentry hfound hpick hposition hroute =>
          rw [launch_eq] at hnext
          simp only [Dealer.committed, Std.ExtTreeMap.getElem?_insert] at hnext
          have hhanded := dispatches_of_fresh hanswer hclosed id
          simp only [handed_invocation, chunk, hroute.1] at hhanded
          split at hnext
          next hsame =>
            obtain rfl : entry.value = id := Std.LawfulEqCmp.eq_of_compare hsame
            rw [if_pos rfl] at hhanded
            left
            rw [hhanded, ← Option.some.inj hnext]
            exact ⟨found, hfound, .served _ position _ hpick hposition⟩
          next hother =>
            rw [if_neg (mt (by simp) hother)] at hhanded
            exact originates_of_kept hhanded hnext
      | continued ambient session request caller callee invocation pending hcaller hopen =>
          have hfresh : dealer.isFreshCall (.receive ambient session (.call request)) = false := by
            simp [isFreshCall, callKey, hopen]
          exact originates_of_not_fresh hfresh hnext
      | closed ambient session request caller callee invocation pending hcaller hopen =>
          have hfresh : dealer.isFreshCall (.receive ambient session (.call request)) = false := by
            simp [isFreshCall, callKey, hopen]
          rw [launch_eq] at hnext
          exact originates_of_not_fresh hfresh hnext
      | killed | finished | failed | skipped | aborted =>
          rw [registrations_dropPending] at hnext
          exact originates_of_not_fresh rfl hnext
      | _ => exact originates_of_not_fresh rfl hnext

theorem picked_of_dispatches {operation : Operation} {registration callee : Id}
    (hdispatched : callee ∈ dealer.dispatches registration operation) :
    ∃ found draw position, dealer.registrations[registration]? = some found ∧
      found.pick? draw = some position ∧ found.callees[position]? = some callee := by
  cases hanswer : (dealer.perform operation).answer with
  | error error =>
      rw [dispatches_of_refused hanswer] at hdispatched
      contradiction
  | ok routed =>
      have hserves := serves_of_granted hanswer
      generalize (dealer.perform operation).state = state at hserves
      cases hserves with
      | dispatched ambient session request caller callee entry found position route hcaller
          hclosed hentry hfound hpick hposition hroute =>
          rw [dispatches_of_fresh hanswer hclosed] at hdispatched
          simp only [handed_invocation, chunk, hroute.1] at hdispatched
          by_cases hsame : entry.value = registration
          · rw [if_pos hsame, List.mem_singleton] at hdispatched
            rw [← hsame, hdispatched]
            exact ⟨found, _, position, hfound, hpick, hposition⟩
          · simp [if_neg hsame] at hdispatched
      | unresolved _ _ _ _ _ hclosed =>
          rw [dispatches_of_fresh hanswer hclosed] at hdispatched
          simp [handed, failure] at hdispatched
      | continued _ _ _ _ _ _ _ _ hopen | closed _ _ _ _ _ _ _ _ hopen =>
          rw [dispatches_of_not_fresh (by simp [isFreshCall, callKey, hopen])] at hdispatched
          contradiction
      | _ =>
          rw [dispatches_of_not_fresh rfl] at hdispatched
          contradiction

instance (dealer : Dealer) (session id : Id) : Decidable (dealer.ServedBy session id) :=
  decidable_of_iff ((dealer.registrations[id]?).any fun found => session ∈ found.callees)
    (by simp [ServedBy, Option.any_eq_true])

end Dealer

/-! ## Runs -/

namespace AnnouncingDealer

def dispatches (registration : Id) (announcing : AnnouncingDealer) (operation : Operation) :
    List Id :=
  operation.served?.elim [] (announcing.dealer.dispatches registration)

/-- The callees to which a run hands fresh calls through a registration, in their order. -/
def dispatched (registration : Id) (announcing : AnnouncingDealer) (operations : List Operation) :
    List Id :=
  Run.collected perform (dispatches registration) announcing operations

/-- A session serves a registration at the start of a run, at its end and all the time between. -/
def ServesThroughout (announcing : AnnouncingDealer) (operations : List Operation)
    (session registration : Id) : Prop :=
  ∀ earlier, earlier <+: operations →
    (Run.final perform announcing earlier).dealer.ServedBy session registration

variable {announcing : AnnouncingDealer} {registration : Id}

theorem registration_origin (htables : announcing.dealer.Tables) (operation : Operation)
    {next : Registration}
    (hnext : (announcing.perform operation).state.dealer.registrations[registration]? =
      some next) :
    (∃ found, announcing.dealer.registrations[registration]? = some found ∧
      found.Becomes (announcing.dispatches registration operation) next) ∨
    announcing.dealer.registrations[registration]? = none ∧
      ∃ session, next.callees = [session] := by
  rw [dealer_perform] at hnext
  unfold dispatches
  cases hserved : operation.served? with
  | none =>
      rw [hserved] at hnext
      exact Or.inl ⟨next, hnext, .kept⟩
  | some served =>
      rw [hserved] at hnext
      exact htables.registration_origin served hnext

theorem picked_of_dispatches {operation : Operation} {callee : Id}
    (hdispatched : callee ∈ announcing.dispatches registration operation) :
    ∃ found draw position, announcing.dealer.registrations[registration]? = some found ∧
      found.pick? draw = some position ∧ found.callees[position]? = some callee := by
  unfold dispatches at hdispatched
  cases hserved : operation.served? with
  | none => simp [hserved] at hdispatched
  | some served =>
      rw [hserved] at hdispatched
      exact Dealer.picked_of_dispatches hdispatched

theorem tables_perform (htables : announcing.dealer.Tables) (operation : Operation) :
    (announcing.perform operation).state.dealer.Tables := by
  rw [dealer_perform]
  cases operation.served? with
  | none => exact htables
  | some served => exact htables.perform served

theorem ServesThroughout.start {operations : List Operation} {session : Id}
    (hserves : ServesThroughout announcing operations session registration) :
    announcing.dealer.ServedBy session registration :=
  hserves [] List.nil_prefix

theorem ServesThroughout.tail {operation : Operation} {operations : List Operation} {session : Id}
    (hserves : ServesThroughout announcing (operation :: operations) session registration) :
    ServesThroughout (announcing.perform operation).state operations session registration :=
  fun earlier hearlier => hserves (operation :: earlier) (List.cons_prefix_cons.mpr ⟨rfl, hearlier⟩)

/-- A stretch of a run without a turn of `callee` serves `other` in its turn. -/
theorem owes_final (htables : announcing.dealer.Tables) {callee other : Id} {count : Nat}
    {operations : List Operation} {found : Registration}
    (hfound : announcing.dealer.registrations[registration]? = some found)
    (hround : found.invoke = .roundRobin) (howes : found.Owes callee other count)
    (hcallee : ServesThroughout announcing operations callee registration)
    (hother : ServesThroughout announcing operations other registration)
    (hquiet : callee ∉ dispatched registration announcing operations) :
    ∃ left, (Run.final perform announcing operations).dealer.registrations[registration]? =
        some left ∧ left.invoke = .roundRobin ∧
      left.Owes callee other
        (count + (dispatched registration announcing operations).count other) := by
  induction operations generalizing announcing found count with
  | nil => exact ⟨found, hfound, hround, howes⟩
  | cons operation rest ih =>
      obtain ⟨next, hnext, hserved⟩ := hcallee.tail.start
      obtain ⟨same, hsame, hstays⟩ := hother.tail.start
      obtain rfl : next = same := Option.some.inj (hnext.symm.trans hsame)
      simp only [dispatched, Run.collected, List.mem_append, not_or] at hquiet
      rcases registration_origin htables operation hnext with
        ⟨old, hold, hbecomes⟩ | ⟨hnone, -⟩
      · obtain rfl : found = old := Option.some.inj (hfound.symm.trans hold)
        have hstep := howes.step (htables.wellFormed _ _ hfound) hround hbecomes hserved hstays
          hquiet.1
        obtain ⟨left, hleft, hpolicy, hend⟩ := ih (tables_perform htables operation) hnext
          (hbecomes.invoke_eq.trans hround) hstep hcallee.tail hother.tail hquiet.2
        refine ⟨left, hleft, hpolicy, ?_⟩
        simp only [dispatched, Run.collected]
        rw [List.count_append, ← Nat.add_assoc]
        exact hend
      · rw [hnone] at hfound
        contradiction

/-- Between two turns of a callee that serves a round-robin registration all the time, every other
callee that does so has one turn, whoever else joins, leaves and detaches in between. -/
theorem round_robin_of_run (board : Board) (before : List Operation) (first : Operation)
    (during : List Operation) (second : Operation) (registration callee other : Id)
    (found : Registration)
    (hfound : (Run.final perform { board } before).dealer.registrations[registration]? =
      some found)
    (hround : found.invoke = .roundRobin)
    (hfirst : callee ∈ (Run.final perform { board } before).dispatches registration first)
    (hsecond : callee ∈
      (Run.final perform { board } (before ++ first :: during)).dispatches registration second)
    (hbetween : callee ∉
      dispatched registration (Run.final perform { board } (before ++ [first])) during)
    (hcallee : ServesThroughout (Run.final perform { board } (before ++ [first])) during callee
      registration)
    (hother : ServesThroughout (Run.final perform { board } (before ++ [first])) during other
      registration)
    (hne : other ≠ callee) :
    (dispatched registration (Run.final perform { board } (before ++ [first])) during).count
      other = 1 := by
  have hsplit : before ++ first :: during = (before ++ [first]) ++ during := by simp
  have htables := tables_final board (before ++ [first])
  obtain ⟨started, hstarted, hserved⟩ := hcallee.start
  obtain ⟨same, hsame, hstays⟩ := hother.start
  obtain rfl : started = same := Option.some.inj (hstarted.symm.trans hsame)
  -- The callee has just had its turn, so that everybody else is before it.
  have hfresh : started.invoke = .roundRobin ∧ started.Owes callee other 0 := by
    rw [Run.final_concat] at hstarted
    rcases registration_origin (tables_final board before) first hstarted with
      ⟨old, hold, hbecomes⟩ | ⟨hnone, -⟩
    · obtain rfl : found = old := Option.some.inj (hfound.symm.trans hold)
      exact ⟨hbecomes.invoke_eq.trans hround,
        hbecomes.owes_of_mem ((tables_final board before).wellFormed _ _ hfound) hround hfirst
          hstays hne⟩
    · rw [hnone] at hfound
      contradiction
  obtain ⟨left, hleft, hpolicy, howes⟩ :=
    owes_final htables hstarted hfresh.1 hfresh.2 hcallee hother hbetween
  rw [← Run.final_append, ← hsplit] at hleft
  rw [Nat.zero_add] at howes
  have hformed := (tables_final board (before ++ first :: during)).wellFormed _ _ hleft
  obtain ⟨picked, draw, position, hpicked, hpick, hposition⟩ := picked_of_dispatches hsecond
  obtain rfl : left = picked := Option.some.inj (hleft.symm.trans hpicked)
  exact howes.count_eq_one hformed hpolicy hpick hposition hne

/-- Sessions 1 and 2 have had their turns at a procedure that they serve with session 3. -/
def twoTurns : List Operation :=
  let member (id : Id) : Session :=
    { id, realm := "realm1", authid := "", authrole := "", staticSerializer := false }
  let ambient : Ambient := { drawnId := 7, drawnIndex := 0, now := "" }
  let options : Dict := (∅ : Dict).insert "invoke" (.text "roundrobin")
  [.serve (.attach (member 1)), .serve (.attach (member 2)), .serve (.attach (member 3)),
    .serve (.attach (member 4)), .serve (.attach (member 5)),
    .serve (.receive ambient 1 (.register { request := 1, options, procedure := "com.sum" })),
    .serve (.receive ambient 2 (.register { request := 1, options, procedure := "com.sum" })),
    .serve (.receive ambient 3 (.register { request := 1, options, procedure := "com.sum" })),
    .serve (.receive ambient 4 (.call { request := 1, options := ∅, procedure := "com.sum" }))]

/-- Session 4 calls the procedure with this request. -/
def calling (request : Id) : Operation :=
  .serve (.receive { drawnId := 7, drawnIndex := 0, now := "" } 4
    (.call { request, options := ∅, procedure := "com.sum" }))

/-- Session 5 joins for one turn, and session 3 leaves before its own. -/
def comingAndGoing : List Operation :=
  let ambient : Ambient := { drawnId := 7, drawnIndex := 0, now := "" }
  let options : Dict := (∅ : Dict).insert "invoke" (.text "roundrobin")
  [.serve (.receive ambient 5 (.register { request := 1, options, procedure := "com.sum" })),
    .serve (.receive ambient 3 (.unregister { request := 2, registration := 7 })),
    calling 3, .serve (.detach 5), calling 4]

theorem round_robin_comingAndGoing :
    let started := Run.final perform { board := { queueSize := 0 } } (twoTurns ++ [calling 2])
    dispatched 7 started comingAndGoing = [5, 1] ∧
      (Run.final perform started comingAndGoing).dispatches 7 (calling 5) = [2] ∧
      (dispatched 7 started comingAndGoing).count 1 = 1 := by
  intro started
  have hcallees : ∀ earlier ∈ comingAndGoing.inits,
      (Run.final perform started earlier).dealer.ServedBy 2 7 ∧
        (Run.final perform started earlier).dealer.ServedBy 1 7 := by decide +kernel
  have hserves : ∀ earlier, earlier <+: comingAndGoing →
      (Run.final perform started earlier).dealer.ServedBy 2 7 ∧
        (Run.final perform started earlier).dealer.ServedBy 1 7 := fun earlier hearlier =>
    hcallees earlier ((List.mem_inits _ _).mpr hearlier)
  have hbetween : dispatched 7 started comingAndGoing = [5, 1] := by decide +kernel
  have hsecond : (Run.final perform started comingAndGoing).dispatches 7 (calling 5) = [2] := by
    decide +kernel
  obtain ⟨found, hfound, hround⟩ : ∃ found, (Run.final perform { board := { queueSize := 0 } }
      twoTurns).dealer.registrations[7]? = some found ∧ found.invoke = .roundRobin :=
    ⟨_, rfl, by decide +kernel⟩
  exact ⟨hbetween, hsecond,
    round_robin_of_run { queueSize := 0 } twoTurns (calling 2) comingAndGoing (calling 5) 7 2 1
      found hfound hround (by decide +kernel) (by decide +kernel) (by rw [hbetween]; decide)
      (fun earlier hearlier => (hserves earlier hearlier).1)
      (fun earlier hearlier => (hserves earlier hearlier).2) (by decide)⟩

/-- Session 2 gives its registration back right after its turn and joins again. -/
def leavingAndReturning : List Operation :=
  let ambient : Ambient := { drawnId := 7, drawnIndex := 0, now := "" }
  let options : Dict := (∅ : Dict).insert "invoke" (.text "roundrobin")
  [.serve (.receive ambient 2 (.unregister { request := 2, registration := 7 })),
    .serve (.receive ambient 2 (.register { request := 3, options, procedure := "com.sum" })),
    calling 3]

/-- A callee that returns is the last to have joined.  Its next turn can come before that of a
callee that has served all the time. -/
theorem returning_callee_overtakes :
    let started := Run.final perform { board := { queueSize := 0 } } (twoTurns ++ [calling 2])
    (started.dealer.registrations[7]?).map Registration.invoke = some .roundRobin ∧
      (Run.final perform { board := { queueSize := 0 } } twoTurns).dispatches 7 (calling 2) =
        [2] ∧
      (Run.final perform started leavingAndReturning).dispatches 7 (calling 4) = [2] ∧
      2 ∉ dispatched 7 started leavingAndReturning ∧
      ServesThroughout started leavingAndReturning 1 7 ∧
      (dispatched 7 started leavingAndReturning).count 1 = 0 := by
  intro started
  have hserves : ∀ earlier ∈ leavingAndReturning.inits,
      (Run.final perform started earlier).dealer.ServedBy 1 7 := by decide +kernel
  exact ⟨by decide +kernel, by decide +kernel, by decide +kernel, by decide +kernel,
    fun earlier hearlier => hserves earlier ((List.mem_inits _ _).mpr hearlier),
    by decide +kernel⟩

end AnnouncingDealer

end Wamp
