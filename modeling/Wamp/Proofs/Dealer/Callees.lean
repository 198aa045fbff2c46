import Mathlib.Data.List.Induction
import Wamp.Proofs.Dealer.Registrations

/-!
# Where the callees come from

A session serves a registration because it asked for it.  Below, every callee is traced back
through a run to the request by which it joined, and what can be asked of the registrations is
shown to leave none of them out.  So is the identifier of every registration, to the request that
created it.
-/

namespace Wamp.Dealer

/-- A session has joined a registration: at some point of the run it asked for the procedure with
the invocation policy that the registration has, was told the identifier of the registration, and
has served it ever since. -/
def JoinedBy (operations : List Operation) (session : Id) (registration : Registration) : Prop :=
  ∃ before ambient request after,
    operations = before ++ .receive ambient session (.register request) :: after ∧
    request.procedure = registration.procedure ∧
    InvocationPolicy.ofOptions request.options = registration.invoke ∧
    (perform (Run.final perform {} before)
      (.receive ambient session (.register request))).answer =
        .ok [{
          recipient := session
          message := .registered {
            request := request.request
            registration := registration.id } }] ∧
    ∀ middle rest, after = middle ++ rest →
      (Run.final perform {}
        (before ++ .receive ambient session (.register request) :: middle)).ServedBy
        session registration.id

/-! ## Registrations from before -/

/-- Every registration is one from before, possibly with fewer callees. -/
def Continues (dealer state : Dealer) : Prop :=
  ∀ (id : Id) (left : Registration), state.registrations[id]? = some left →
    ∃ found, dealer.registrations[id]? = some found ∧ found.procedure = left.procedure ∧
      found.invoke = left.invoke ∧ ∀ callee, callee ∈ left.callees → callee ∈ found.callees

theorem continues_of_eq {dealer state : Dealer}
    (hregistrations : state.registrations = dealer.registrations) :
    dealer.Continues state := by
  intro id left hleft
  rw [hregistrations] at hleft
  exact ⟨left, hleft, rfl, rfl, fun _ hcallee => hcallee⟩

theorem Continues.trans {dealer middle state : Dealer} (hfirst : dealer.Continues middle)
    (hsecond : middle.Continues state) : dealer.Continues state := by
  intro id left hleft
  obtain ⟨between, hbetween, hprocedure, hinvoke, hcallees⟩ := hsecond id left hleft
  obtain ⟨found, hfound, hsame, hpolicy, hmore⟩ := hfirst id between hbetween
  exact ⟨found, hfound, hsame.trans hprocedure, hpolicy.trans hinvoke,
    fun callee hcallee => hmore callee (hcallees callee hcallee)⟩

/-- A registration from before has kept its callees, or a session has left it. -/
def Spared (dealer : Dealer) (session : Id) (state : Dealer) : Prop :=
  ∀ (id : Id) (next : Registration), state.registrations[id]? = some next →
    ∃ found, dealer.registrations[id]? = some found ∧
      (next = found ∨ session ∈ found.callees ∧ next = found.leave session)

theorem spared_removeCallee (dealer : Dealer) (session id : Id) :
    dealer.Spared session (dealer.removeCallee session id).1 := by
  have hremoves := dealer.removes_removeCallee session id
  generalize (dealer.removeCallee session id).1 = state at hremoves ⊢
  intro other next hnext
  cases hremoves with
  | stranger => exact ⟨next, hnext, Or.inl rfl⟩
  | last found =>
      rw [Std.ExtTreeMap.getElem?_erase] at hnext
      split at hnext
      next => contradiction
      next => exact ⟨next, hnext, Or.inl rfl⟩
  | other found hfound hcallee =>
      rw [Std.ExtTreeMap.getElem?_insert] at hnext
      split at hnext
      next hsame =>
        rw [← Std.LawfulEqCmp.eq_of_compare hsame]
        exact ⟨found, hfound, Or.inr ⟨hcallee, (Option.some.inj hnext).symm⟩⟩
      next => exact ⟨next, hnext, Or.inl rfl⟩

theorem continues_removeCallee (dealer : Dealer) (session id : Id) :
    dealer.Continues (dealer.removeCallee session id).1 := by
  intro other left hleft
  obtain ⟨found, hfound, rfl | ⟨-, rfl⟩⟩ := dealer.spared_removeCallee session id other left hleft
  · exact ⟨left, hfound, rfl, rfl, fun _ hcallee => hcallee⟩
  · obtain ⟨cursor, hsession⟩ := found.leave_eq session
    rw [hsession]
    exact ⟨found, hfound, rfl, rfl, fun _ => List.mem_of_mem_erase⟩

theorem continues_removeCalleeFromAll (dealer : Dealer) (session : Id) (ids : List Id) :
    dealer.Continues (dealer.removeCalleeFromAll session ids).1 := by
  induction ids generalizing dealer with
  | nil => exact continues_of_eq rfl
  | cons id rest ih => exact (dealer.continues_removeCallee session id).trans (ih _)

theorem continues_committed {dealer : Dealer} {id : Id} {found : Registration}
    (hfound : dealer.registrations[id]? = some found) (position : Nat) :
    dealer.Continues (dealer.committed id found position) := by
  obtain ⟨cursor, hcommit⟩ := found.commit_eq position
  intro other left hleft
  simp only [committed, Std.ExtTreeMap.getElem?_insert] at hleft
  split at hleft
  next hsame =>
    rw [Option.some.injEq, hcommit] at hleft
    rw [← Std.LawfulEqCmp.eq_of_compare hsame, ← hleft]
    exact ⟨found, hfound, rfl, rfl, fun _ hcallee => hcallee⟩
  next => exact ⟨left, hleft, rfl, rfl, fun _ hcallee => hcallee⟩

theorem continues_dropPending (dealer : Dealer) (invocation : Id) :
    dealer.Continues (dealer.dropPending invocation) := by
  obtain ⟨_, _, hdropped⟩ := dealer.dropPending_eq invocation
  rw [hdropped]
  exact continues_of_eq rfl

/-! ## The request behind a callee -/

/-- A callee served the registration before, or it has just been told so on its request. -/
theorem Tables.callee_origin {dealer : Dealer} (htables : dealer.Tables) {operation : Operation}
    {state : Dealer} {routed : List Routed} (hserves : dealer.Serves operation state routed)
    {id session : Id} {left : Registration} (hleft : state.registrations[id]? = some left)
    (hcallee : session ∈ left.callees) :
    (∃ found, dealer.registrations[id]? = some found ∧ found.procedure = left.procedure ∧
      found.invoke = left.invoke ∧ session ∈ found.callees) ∨
    ∃ ambient request, operation = .receive ambient session (.register request) ∧
      request.procedure = left.procedure ∧
      InvocationPolicy.ofOptions request.options = left.invoke ∧
      routed = [{
        recipient := session
        message := .registered { request := request.request, registration := id } }] := by
  have hcontinues : dealer.Continues state →
      ∃ found, dealer.registrations[id]? = some found ∧ found.procedure = left.procedure ∧
        found.invoke = left.invoke ∧ session ∈ found.callees := by
    intro hcontinues
    obtain ⟨found, hfound, hprocedure, hinvoke, hcallees⟩ := hcontinues id left hleft
    exact ⟨found, hfound, hprocedure, hinvoke, hcallees session hcallee⟩
  cases hserves with
  | detached other =>
      obtain ⟨_, _, hdropped⟩ := foldl_dropPending_eq (dealer.withdrawn other)
        ((dealer.withdrawn other).pendingOf other)
      left
      apply hcontinues
      rw [hdropped]
      exact continues_removeCalleeFromAll
        { dealer with
          sessions := dealer.sessions.erase other
          held := dealer.held.erase other } other _
  | registered ambient caller request =>
      simp only [Dealer.enrolled, Dealer.listed, Std.ExtTreeMap.getElem?_insert] at hleft
      split at hleft
      next hsame =>
        rw [Option.some.injEq] at hleft
        subst hleft
        obtain rfl : session = caller := by simpa [created] using hcallee
        right
        refine ⟨ambient, request, rfl, rfl, rfl, ?_⟩
        rw [← Std.LawfulEqCmp.eq_of_compare hsame]
        rfl
      next => exact Or.inl ⟨left, hleft, rfl, rfl, hcallee⟩
  | joined ambient caller request entry found hattached hentry hfound hadmits =>
      have hid := htables.id_eq entry.value found hfound
      simp only [Dealer.enrolled, Std.ExtTreeMap.getElem?_insert] at hleft
      split at hleft
      next hsame =>
        have hvalue : found.id = id := Std.LawfulEqCmp.eq_of_compare hsame
        rw [Option.some.injEq] at hleft
        subst hleft
        simp only [Registration.join, List.mem_append, List.mem_singleton] at hcallee
        rcases hcallee with hold | rfl
        · left
          rw [← hvalue, hid]
          exact ⟨found, hfound, rfl, rfl, hold⟩
        · right
          have hname := (htables.lists.get?_iff _ entry.policy entry.value).mp hentry
          rw [named_eq_some hfound, Option.some.injEq, Prod.mk.injEq] at hname
          refine ⟨ambient, request, rfl, hname.1.symm, ?_, ?_⟩
          · exact (Registration.admits_iff.mp hadmits).2.symm
          · rw [hvalue]
      next => exact Or.inl ⟨left, hleft, rfl, rfl, hcallee⟩
  | unregistered ambient other request ids =>
      left
      apply hcontinues
      exact continues_removeCallee
        { dealer with held := dealer.held.insert other (ids.erase request.registration) } other
        request.registration
  | dispatched ambient other request caller callee entry found position route hcaller hclosed
      hentry hfound =>
      left
      apply hcontinues
      rw [launch_eq]
      exact continues_committed hfound position
  | closed =>
      left
      apply hcontinues
      rw [launch_eq]
      exact continues_of_eq rfl
  | killed | finished | failed | skipped | aborted =>
      exact Or.inl (hcontinues (dealer.continues_dropPending _))
  | _ => exact Or.inl (hcontinues (continues_of_eq rfl))

/-- A callee that goes on serving has joined the registration when it did before. -/
theorem JoinedBy.concat {operations : List Operation} {session : Id}
    {found left : Registration} (hjoined : JoinedBy operations session found)
    (hid : found.id = left.id) (hprocedure : found.procedure = left.procedure)
    (hinvoke : found.invoke = left.invoke) {operation : Operation}
    (hserved : (Run.final perform {} (operations ++ [operation])).ServedBy session left.id) :
    JoinedBy (operations ++ [operation]) session left := by
  obtain ⟨before, ambient, request, after, rfl, hasked, hpolicy, hanswer, hserving⟩ := hjoined
  refine ⟨before, ambient, request, after ++ [operation], by simp, hasked.trans hprocedure,
    hpolicy.trans hinvoke, by rw [hanswer, hid], ?_⟩
  intro middle rest hsplit
  rcases List.eq_nil_or_concat rest with rfl | ⟨earlier, last, rfl⟩
  · rw [List.append_nil] at hsplit
    rw [← hsplit]
    simpa using hserved
  · rw [List.concat_eq_append, ← List.append_assoc] at hsplit
    rw [← hid]
    exact hserving middle earlier (List.append_inj_left' hsplit rfl)

theorem joinedBy_of_callee (operations : List Operation) {id session : Id}
    {registration : Registration}
    (hfound : (Run.final perform {} operations).registrations[id]? = some registration)
    (hcallee : session ∈ registration.callees) : JoinedBy operations session registration := by
  -- From the end of the run backwards: a callee was there before the last operation, with what may
  -- have been another cursor and other callees beside it, or that operation is its request.
  induction operations using List.reverseRecOn generalizing registration with
  | nil => simp at hfound
  | append_singleton operations operation ih =>
      have htables := tables_final operations
      have hid := (tables_final (operations ++ [operation])).id_eq id registration hfound
      have hserved : (Run.final perform {} (operations ++ [operation])).ServedBy session
          registration.id := by
        rw [hid]
        exact ⟨registration, hfound, hcallee⟩
      have hkept : ∀ found, (Run.final perform {} operations).registrations[id]? = some found →
          found.procedure = registration.procedure → found.invoke = registration.invoke →
          session ∈ found.callees → JoinedBy (operations ++ [operation]) session registration := by
        intro found hold hprocedure hinvoke hmem
        have hsame : found.id = registration.id := by
          rw [hid, htables.id_eq id found hold]
        exact (ih hold hmem).concat hsame hprocedure hinvoke hserved
      rw [Run.final_concat] at hfound
      cases hanswer : (perform (Run.final perform {} operations) operation).answer with
      | error error =>
          rw [(refuses_of_refused hanswer).2] at hfound
          exact hkept registration hfound rfl rfl hcallee
      | ok routed =>
          rcases htables.callee_origin (serves_of_granted hanswer) hfound hcallee with
            ⟨found, hold, hprocedure, hinvoke, hmem⟩ |
            ⟨ambient, request, rfl, hprocedure, hinvoke, rfl⟩
          · exact hkept found hold hprocedure hinvoke hmem
          · refine ⟨operations, ambient, request, [], rfl, hprocedure, hinvoke, ?_, ?_⟩
            · rw [hanswer, hid]
            · intro middle rest hsplit
              obtain ⟨rfl, rfl⟩ := List.append_eq_nil_iff.mp hsplit.symm
              exact hserved

/-! ## The identifiers of registrations -/

/-- A registration was there before under its identifier, or it has just been created. -/
theorem Tables.id_origin {dealer : Dealer} (htables : dealer.Tables) {operation : Operation}
    {id : Id} (hmem : id ∈ (dealer.perform operation).state.registrations) :
    id ∈ dealer.registrations ∨ ∃ ambient session request,
      operation = .receive ambient session (.register request) ∧
      id = dealer.freshRegistrationId ambient := by
  obtain ⟨left, hleft⟩ := Table.mem_iff_exists.mp hmem
  have hserved := ((htables.perform operation).wellFormed id left hleft).served
  obtain ⟨callee, hcallee⟩ := List.exists_mem_of_ne_nil _ hserved
  cases hanswer : (dealer.perform operation).answer with
  | error error =>
      rw [(refuses_of_refused hanswer).2] at hmem
      exact Or.inl hmem
  | ok routed =>
      have hserves := serves_of_granted hanswer
      rcases htables.callee_origin hserves hleft hcallee with
        ⟨found, hfound, -⟩ | ⟨ambient, request, rfl, -, -, hrouted⟩
      · exact Or.inl (Table.mem_of_getElem? hfound)
      · generalize (dealer.perform (.receive ambient callee (.register request))).state = state
          at hserves
        cases hserves with
        | registered =>
            have hfresh : id = dealer.freshRegistrationId ambient := by simpa using hrouted.symm
            exact Or.inr ⟨ambient, callee, request, rfl, hfresh⟩
        | joined _ _ _ entry found hattached hentry hfound =>
            left
            obtain rfl : found.id = id := by simpa using hrouted
            rw [htables.id_eq entry.value found hfound]
            exact Table.mem_of_getElem? hfound
        | rejected => simp [failure] at hrouted

/-- All that an operation draws are identifiers of the global scope. -/
def Operation.DrawsIds : Operation → Prop
  | .receive ambient _ _ =>
    ∀ id ∈ ambient.drawnId :: ambient.laterIds, 1 ≤ id ∧ id ≤ maxId.toNat
  | _ => True

/-- An operation creates one registration at most. -/
theorem Tables.size_perform_le {dealer : Dealer} (htables : dealer.Tables)
    (operation : Operation) :
    (dealer.perform operation).state.registrations.size ≤ dealer.registrations.size + 1 := by
  obtain ⟨new, hnew⟩ : ∃ new : Id, ∀ id ∈ (dealer.perform operation).state.registrations,
      id = new ∨ id ∈ dealer.registrations := by
    cases operation with
    | receive ambient =>
        refine ⟨dealer.freshRegistrationId ambient, fun id hmem => ?_⟩
        rcases htables.id_origin hmem with hold | ⟨_, _, _, hcreating, hfresh⟩
        · exact Or.inr hold
        · cases hcreating
          exact Or.inl hfresh
    | _ =>
        refine ⟨0, fun id hmem => Or.inr ((htables.id_origin hmem).resolve_right ?_)⟩
        rintro ⟨_, _, _, hcreating, -⟩
        contradiction
  have hall : ∀ id, id ∈ (dealer.perform operation).state.registrations →
      id ∈ new :: dealer.registrations.keys := by
    intro id hmem
    rw [List.mem_cons, Std.ExtTreeMap.mem_keys]
    exact hnew id hmem
  simpa using Table.size_le_length hall

theorem size_registrations_le (operations : List Operation) :
    (Run.final perform {} operations).registrations.size ≤ operations.length := by
  induction operations using List.reverseRecOn with
  | nil => simp
  | append_singleton operations operation ih =>
      have hstep := (tables_final operations).size_perform_le operation
      rw [Run.final_concat, List.length_append, List.length_singleton]
      exact Nat.le_trans hstep (Nat.succ_le_succ ih)

/-- The registrations of a run bear identifiers of the global scope, as long as its operations do
not outnumber these. -/
theorem registrations_range_final {operations : List Operation}
    (hdraws : ∀ operation ∈ operations, operation.DrawsIds)
    (hfew : operations.length ≤ maxId.toNat) {id : Id}
    (hmem : id ∈ (Run.final perform {} operations).registrations) :
    1 ≤ id ∧ id ≤ maxId.toNat := by
  induction operations using List.reverseRecOn with
  | nil => simp at hmem
  | append_singleton operations operation ih =>
      rw [List.length_append, List.length_singleton] at hfew
      rw [Run.final_concat] at hmem
      rcases (tables_final operations).id_origin hmem with
        hold | ⟨ambient, session, request, rfl, rfl⟩
      · exact ih (fun other hother => hdraws other (List.mem_append_left _ hother))
          (Nat.le_of_succ_le hfew) hold
      · have hroom := Nat.lt_of_le_of_lt (size_registrations_le operations) hfew
        have hdrawn := hdraws (.receive ambient session (.register request)) (by simp)
        exact freshRegistrationId_range hroom hdrawn

end Wamp.Dealer
