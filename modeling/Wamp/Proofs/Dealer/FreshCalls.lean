import Wamp.Proofs.Dealer.Chunks
import Wamp.Proofs.Dealer.Turns

/-!
# Calls that continue none

A call that continues none is resolved to one registration, whose policy appoints one of its callees
by the order in which they joined.  The call is put in flight under a new identifier in place of
whatever was in flight for its request, and apart from the cursor of the registration nothing else
changes.
-/

namespace Wamp

namespace Registration

/-- The callee that the invocation policy appoints for the next call.  A random choice is bound to
the callees and to nothing else. -/
def Appoints (registration : Registration) (callee : Id) : Prop :=
  match registration.invoke with
  | .single | .first => registration.callees.head? = some callee
  | .last => registration.callees.getLast? = some callee
  | .roundRobin =>
    let cursor :=
      if registration.callees.length ≤ registration.cursor then 0 else registration.cursor
    registration.callees[cursor]? = some callee
  | .random => callee ∈ registration.callees

theorem appoints_of_pick? {registration : Registration} {draw position : Nat} {callee : Id}
    (hpick : registration.pick? draw = some position)
    (hposition : registration.callees[position]? = some callee) : registration.Appoints callee := by
  have hmem := List.mem_of_getElem? hposition
  unfold pick? at hpick
  unfold Appoints
  simp only at hpick
  split at hpick
  next => contradiction
  next =>
    split at hpick
    next hone =>
      -- A sole callee serves every call, wherever the cursor stands.
      obtain ⟨sole, hsole⟩ := List.length_eq_one_iff.mp hone
      rw [hsole] at hmem ⊢
      obtain rfl := List.mem_singleton.mp hmem
      cases registration.invoke with
      | single | first | last | random => simp
      | roundRobin =>
          have hcursor : (if [callee].length ≤ registration.cursor then 0
              else registration.cursor) = 0 := by
            rw [List.length_singleton]
            split <;> omega
          simp only [hcursor, List.getElem?_cons_zero]
    next =>
      cases hinvoke : registration.invoke <;> simp only [hinvoke, Option.some.injEq] at hpick
      case single | first => rw [List.head?_eq_getElem?, hpick, hposition]
      case last => rw [List.getLast?_eq_getElem?, hpick, hposition]
      case roundRobin => simp only [hpick, hposition]
      case random => exact hmem

end Registration

theorem Content.adapted_eq (content : Content) (takesPayload : Bool) :
    content.adapted takesPayload =
      if content.payload.isSome ∧ takesPayload then { payload := content.payload }
      else { toArguments := content.toArguments } := by
  obtain ⟨arguments, payload⟩ := content
  cases payload with
  | none => simp [adapted]
  | some payload => cases takesPayload <;> simp [adapted]

namespace Dealer

variable {dealer : Dealer}

/-- Every registration is live, so that a procedure that is resolved to none is covered by none. -/
theorem Tables.matchRegistration?_eq_none_iff (htables : dealer.Tables) {procedure : String} :
    dealer.matchRegistration? procedure = none ↔
      ∀ (id : Id) (found : Registration), dealer.registrations[id]? = some found →
        ¬ Uri.Covers found.procedure found.policy procedure := by
  unfold matchRegistration?
  cases hresolved : dealer.directory.resolve? procedure dealer.isLive with
  | none =>
      refine ⟨fun _ id found hfound => ?_, fun _ => rfl⟩
      have hserved := (htables.wellFormed id found hfound).served
      exact htables.lists.not_covers_of_resolve?_eq_none hresolved
        ⟨id, named_eq_some hfound, by simp [isLive, hfound, hserved]⟩
  | some entry =>
      obtain ⟨-, -, hlive, -⟩ := htables.lists.prefers_of_resolve?_eq_some hresolved
      obtain ⟨found, hfound, -⟩ := (Option.any_eq_true _ _).mp hlive
      have hcovers := (htables.covers_of_resolve? hresolved hfound).2
      simp only [hfound, reduceCtorEq, false_iff]
      exact fun hnone => hnone entry.value found hfound hcovers

/-- The index of the calls after one of them is put in flight, whatever was in flight for it. -/
theorem Indexed.invocationOf_launch (hindexed : dealer.Indexed) (pending : Pending) :
    (dealer.launch pending).2.invocationOf =
      dealer.invocationOf.insert pending.key dealer.ids.next.1 := by
  rw [Dealer.launch_eq]
  unfold Dealer.superseded
  cases hindex : dealer.invocationOf[pending.key]? with
  | none => rfl
  | some superseded =>
      obtain ⟨found, hfound, hkey⟩ := (hindexed _ _).mp hindex
      simp only
      rw [hindexed.invocationOf_dropPending hfound, hkey, Table.insert_erase_self]

theorem Indexed.openInvocation?_eq_none (hindexed : dealer.Indexed) {key : CallKey}
    (hclosed : ∀ (invocation : Id) (pending : Pending),
      dealer.pending[invocation]? = some pending → pending.key = key → pending.progress = false) :
    dealer.openInvocation? key = none := by
  unfold openInvocation?
  cases hindex : dealer.invocationOf[key]? with
  | none => rfl
  | some invocation =>
      obtain ⟨pending, hpending, hkey⟩ := (hindexed key invocation).mp hindex
      simp [hpending, hclosed invocation pending hpending hkey]

theorem matchRegistration?_eq_some {procedure : String} {found : Registration}
    (hmatch : dealer.matchRegistration? procedure = some found) :
    ∃ entry, dealer.directory.resolve? procedure dealer.isLive = some entry ∧
      dealer.registrations[entry.value]? = some found := by
  unfold matchRegistration? at hmatch
  split at hmatch
  next => contradiction
  next entry hentry => exact ⟨entry, hentry, hmatch⟩

section Call

variable {session : Id} {caller : Session} {request : Call}
  (hcaller : dealer.sessions[session]? = some caller)
  (hclosed : dealer.openInvocation? (callKey session request) = none)

include hcaller hclosed

theorem receive_fresh (route : Route) {entry : Uri.Entry Id} {found : Registration}
    {position : Nat} {callee : Session} {ambient : Ambient}
    (hentry : dealer.directory.resolve? request.procedure dealer.isLive = some entry)
    (hfound : dealer.registrations[entry.value]? = some found)
    (hpick : found.pick? ambient.drawnIndex = some position)
    (hposition : found.callees[position]? = some route.callee)
    (hroute : route.registration = entry.value ∧ route.policy = entry.policy)
    (hcallee : dealer.sessions[route.callee]? = some callee) :
    dealer.receive ambient session (.call request) =
      .granted ((dealer.committed entry.value found position).launch
          (.ofCall session route request)).2
        [{ recipient := route.callee
           message := .invocation
            (dealer.chunk caller callee route request dealer.ids.next.1) }]
        [.callRouted session request.request request.procedure route.registration
          dealer.ids.next.1 route.callee] := by
  unfold callKey at hclosed
  have hattached := isAttached_iff.mpr ⟨callee, hcallee⟩
  have hchosen : (dealer.committed entry.value found position).sessions[route.callee]? =
      some callee := hcallee
  have hroutes : route =
      { callee := route.callee, registration := entry.value, policy := entry.policy } := by
    rw [← hroute.1, ← hroute.2]
  simp only [receive, call, hcaller, hclosed, callFresh, hentry, hfound, hpick, hposition,
    if_pos hattached]
  rw [← hroutes]
  exact dispatch_of_attached hchosen session caller request

/-- A procedure that nobody serves is answered without a change. -/
theorem receive_unresolved (hnone : dealer.matchRegistration? request.procedure = none)
    (ambient : Ambient) :
    ∃ notes, (notes = [] ∨
        notes = [.callNoSuchProcedure session request.request request.procedure]) ∧
      dealer.receive ambient session (.call request) =
        .granted dealer [failure session .call request.request ErrorUri.noSuchProcedure] notes := by
  unfold callKey at hclosed
  unfold matchRegistration? at hnone
  simp only [receive, call, hcaller, hclosed, callFresh]
  cases hentry : dealer.directory.resolve? request.procedure dealer.isLive with
  | none => exact ⟨_, Or.inr rfl, rfl⟩
  | some entry =>
      rw [hentry] at hnone
      simp only at hnone
      simp only [hnone]
      exact ⟨[], Or.inl rfl, rfl⟩

end Call

end Dealer

namespace AnnouncingDealer

/-! ## The order in which the callees joined -/

/-- When `later` joined a registration, `earlier` served it already, and both have served it ever
since. -/
def JoinedBefore (board : Board) (operations : List Operation) (registration earlier later : Id) :
    Prop :=
  ∃ before operation after, operations = before ++ operation :: after ∧
    (Run.final perform { board } before).dealer.ServedBy earlier registration ∧
    ¬ (Run.final perform { board } before).dealer.ServedBy later registration ∧
    ServesThroughout (Run.final perform { board } (before ++ [operation])) after earlier
      registration ∧
    ServesThroughout (Run.final perform { board } (before ++ [operation])) after later registration

variable {board : Board} {registration earlier later : Id}

theorem servesThroughout_nil {announcing : AnnouncingDealer} {session : Id}
    (hserved : announcing.dealer.ServedBy session registration) :
    ServesThroughout announcing [] session registration := by
  intro part hpart
  rw [List.prefix_nil.mp hpart]
  exact hserved

theorem ServesThroughout.concat {announcing : AnnouncingDealer} {operations : List Operation}
    {session : Id} (hserves : ServesThroughout announcing operations session registration)
    {operation : Operation}
    (hserved : (Run.final perform announcing (operations ++ [operation])).dealer.ServedBy session
      registration) :
    ServesThroughout announcing (operations ++ [operation]) session registration := by
  intro part hpart
  rcases List.prefix_concat_iff.mp hpart with rfl | hwithin
  · exact hserved
  · exact hserves part hwithin

theorem JoinedBefore.concat {operations : List Operation}
    (hjoined : JoinedBefore board operations registration earlier later) {operation : Operation}
    (hearlier : (Run.final perform { board } (operations ++ [operation])).dealer.ServedBy earlier
      registration)
    (hlater : (Run.final perform { board } (operations ++ [operation])).dealer.ServedBy later
      registration) :
    JoinedBefore board (operations ++ [operation]) registration earlier later := by
  obtain ⟨before, joining, after, rfl, hserved, hnew, hfirst, hsecond⟩ := hjoined
  have hsplit : (before ++ joining :: after) ++ [operation] =
      (before ++ [joining]) ++ (after ++ [operation]) := by simp
  rw [hsplit, Run.final_append] at hearlier hlater
  exact ⟨before, joining, after ++ [operation], by simp, hserved, hnew, hfirst.concat hearlier,
    hsecond.concat hlater⟩

/-- A registration lists its callees in the order in which they joined it. -/
theorem pairwise_joinedBefore (operations : List Operation) {found : Registration}
    (hfound : (Run.final perform { board } operations).dealer.registrations[registration]? =
      some found) :
    found.callees.Pairwise (JoinedBefore board operations registration) := by
  -- From the end of the run backwards: the last operation leaves the order of the callees that stay
  -- alone, and whoever it adds comes last.
  induction operations using List.reverseRecOn generalizing found with
  | nil => simp at hfound
  | append_singleton operations operation ih =>
      have hserved : ∀ callee ∈ found.callees,
          (Run.final perform { board } (operations ++ [operation])).dealer.ServedBy callee
            registration := fun callee hcallee => ⟨found, hfound, hcallee⟩
      have hkept : ∀ old,
          (Run.final perform { board } operations).dealer.registrations[registration]? = some old →
          ∀ callees : List Id, callees.Sublist old.callees → callees ⊆ found.callees →
            callees.Pairwise (JoinedBefore board (operations ++ [operation]) registration) := by
        intro old hold callees hsublist hsubset
        refine ((ih hold).sublist hsublist).imp_of_mem ?_
        intro first second hfirst hsecond hjoined
        exact hjoined.concat (hserved first (hsubset hfirst)) (hserved second (hsubset hsecond))
      rw [Run.final_concat] at hfound
      rcases registration_origin (tables_final board operations) operation hfound with
        ⟨old, hold, hbecomes⟩ | ⟨-, session, hsole⟩
      · generalize dispatches registration _ operation = dispatched at hbecomes
        cases hbecomes with
        | kept => exact hkept found hold _ (List.Sublist.refl _) (List.Subset.refl _)
        | joined session hnew =>
            refine List.pairwise_append.mpr
              ⟨hkept old hold _ (List.Sublist.refl _) (List.subset_append_left _ _),
                List.pairwise_singleton _ _, ?_⟩
            intro callee hcallee joining hjoining
            obtain rfl := List.mem_singleton.mp hjoining
            refine ⟨operations, operation, [], rfl, ⟨old, hold, hcallee⟩, ?_,
              servesThroughout_nil (hserved callee (List.mem_append_left _ hcallee)),
              servesThroughout_nil (hserved joining (List.mem_append_right _ hjoining))⟩
            rintro ⟨same, hsame, hserving⟩
            obtain rfl : old = same := Option.some.inj (hold.symm.trans hsame)
            exact hnew hserving
        | left session =>
            rw [Registration.callees_leave] at hkept ⊢
            exact hkept old hold _ List.erase_sublist (List.Subset.refl _)
        | served draw position =>
            rw [Registration.callees_commit] at hkept ⊢
            exact hkept old hold _ (List.Sublist.refl _) (List.Subset.refl _)
      · rw [hsole]
        exact List.pairwise_singleton _ _

/-! ## Dispatch -/

/-- A call is in flight under a new identifier in place of whatever was in flight for it, and
besides that no more than the cursor of the registration has moved. -/
structure Dispatched (announcing state : AnnouncingDealer) (found : Registration)
    (pending : Pending) (invocation : Id) : Prop where
  indexed : state.dealer.invocationOf[pending.key]? = some invocation
  opened : state.dealer.pending[invocation]? = some pending
  superseded : ∀ other, other ≠ invocation → state.dealer.pending[other]? =
    (announcing.dealer.pending[other]?).filter fun earlier => earlier.key ≠ pending.key
  indexed_other : ∀ key, key ≠ pending.key →
    state.dealer.invocationOf[key]? = announcing.dealer.invocationOf[key]?
  state_eq : ∃ cursor, (found.invoke ≠ .roundRobin → cursor = found.cursor) ∧
    state =
      { announcing with
        dealer := { announcing.dealer with
          ids := announcing.dealer.ids.next.2
          registrations := announcing.dealer.registrations.insert found.id { found with cursor }
          pending := state.dealer.pending
          invocationOf := state.dealer.invocationOf } }

theorem dispatched_launch {announcing : AnnouncingDealer} (hindexed : announcing.dealer.Indexed)
    {found : Registration} {id : Id} (hid : found.id = id) (position : Nat) (pending : Pending) :
    announcing.Dispatched
      { announcing with
        dealer := ((announcing.dealer.committed id found position).launch pending).2 }
      found pending announcing.dealer.ids.next.1 := by
  have hcommitted : (announcing.dealer.committed id found position).Indexed := hindexed
  have hindex := hcommitted.invocationOf_launch pending
  constructor
  · simp only [hindex]
    exact Std.ExtTreeMap.getElem?_insert_self
  · exact Dealer.getElem?_launch_self _ pending
  · intro other hother
    exact (hcommitted.getElem?_launch pending other).trans (if_neg hother.symm)
  · intro key hkey
    simp only [hindex, Std.ExtTreeMap.getElem?_insert, Std.LawfulEqCmp.compare_eq_iff_eq,
      if_neg hkey.symm]
    rfl
  · refine ⟨(found.commit position).cursor, fun hround => ?_, ?_⟩
    · rw [Registration.commit, if_neg hround]
    · obtain ⟨cursor, hcommit⟩ := found.commit_eq position
      rw [Dealer.launch_eq]
      simp only [Dealer.committed, hcommit, hid]

theorem unresolved_call {announcing : AnnouncingDealer} {caller : Id} {client : Session}
    {call : Call} (hcaller : announcing.dealer.sessions[caller]? = some client)
    (hclosed : announcing.dealer.openInvocation? (Dealer.callKey caller call) = none)
    (hnone : announcing.dealer.matchRegistration? call.procedure = none) (ambient : Ambient) :
    (announcing.perform (.serve (.receive ambient caller (.call call)))).answer =
        .ok [Dealer.failure caller .call call.request ErrorUri.noSuchProcedure] ∧
      (announcing.perform (.serve (.receive ambient caller (.call call)))).state = announcing := by
  obtain ⟨notes, hnotes, hreceive⟩ := Dealer.receive_unresolved hcaller hclosed hnone ambient
  have hperform := congrArg (absorb announcing.board) hreceive
  refine ⟨congrArg Outcome.answer hperform, (congrArg Outcome.state hperform).trans ?_⟩
  rcases hnotes with rfl | rfl <;> rfl

/-- A call that continues none and finds a registration is handed to one callee, the one that the
policy appoints by the order of joining, and it takes the place of what was in flight for its
request.  If nobody serves the procedure, the caller is told so and nothing changes. -/
theorem fresh_call_of_run (board : Board) (operations : List Operation) (ambient : Ambient)
    (caller : Id) (call : Call) (hdrawn : (drawnIds board operations).length < maxId.toNat)
    (hcaller : (Run.final perform { board } operations).dealer.isAttached caller = true)
    (hclosed : ∀ (invocation : Id) (pending : Pending),
      (inFlight board operations)[invocation]? = some pending →
      pending.key = Dealer.callKey caller call → pending.progress = false) :
    let announcing := Run.final perform { board } operations
    let operation := Operation.serve (.receive ambient caller (.call call))
    (announcing.dealer.matchRegistration? call.procedure = none ↔
      ∀ (id : Id) (found : Registration), announcing.dealer.registrations[id]? = some found →
        ¬ Uri.Covers found.procedure found.policy call.procedure) ∧
    (announcing.dealer.matchRegistration? call.procedure = none →
      (announcing.perform operation).answer =
        .ok [Dealer.failure caller .call call.request ErrorUri.noSuchProcedure] ∧
      (announcing.perform operation).state = announcing) ∧
    ∀ found, announcing.dealer.matchRegistration? call.procedure = some found →
      found.callees.Pairwise (JoinedBefore board operations found.id) ∧
      ∃ (route : Route) (callee : Session) (body : Invocation),
        found.Appoints route.callee ∧ route.registration = found.id ∧ route.policy = found.policy ∧
        announcing.dealer.sessions[route.callee]? = some callee ∧
        (announcing.perform operation).answer =
          .ok [{ recipient := route.callee, message := .invocation body }] ∧
        body.registration = found.id ∧
        body.toContent =
          (if call.payload.isSome ∧ callee.staticSerializer then { payload := call.payload }
          else { toArguments := call.toArguments }) ∧
        drawnIds board (operations ++ [operation]) = drawnIds board operations ++ [body.request] ∧
        body.request ∉ drawnIds board operations ∧ body.request ∉ announcing.dealer.pending ∧
        announcing.Dispatched (announcing.perform operation).state found
          (.ofCall caller route call) body.request := by
  intro announcing operation
  obtain ⟨hlinked, hcounted, hroom⟩ := sound_final operations hdrawn
  have htables := tables_final board operations
  have hopen := hlinked.indexed.openInvocation?_eq_none hclosed
  obtain ⟨client, hclient⟩ := Dealer.isAttached_iff.mp hcaller
  refine ⟨htables.matchRegistration?_eq_none_iff,
    fun hnone => unresolved_call hclient hopen hnone ambient, fun found hmatch => ?_⟩
  obtain ⟨entry, hentry, hfound⟩ := Dealer.matchRegistration?_eq_some hmatch
  have hid := htables.id_eq entry.value found hfound
  obtain ⟨hpolicy, -⟩ := htables.covers_of_resolve? hentry hfound
  obtain ⟨position, calleeId, hpick, hposition⟩ :=
    (htables.wellFormed _ _ hfound).exists_pick? ambient.drawnIndex
  obtain ⟨callee, hcallee⟩ := Dealer.isAttached_iff.mp
    (htables.attached_of_servedBy ⟨found, hfound, List.mem_of_getElem? hposition⟩)
  let route : Route := { callee := calleeId, registration := found.id, policy := found.policy }
  have hreceive := congrArg (absorb announcing.board)
    (Dealer.receive_fresh hclient hopen route hentry hfound hpick hposition ⟨hid, hpolicy⟩ hcallee)
  have hstate : (announcing.perform operation).state =
      { announcing with
        dealer := ((announcing.dealer.committed entry.value found position).launch
          (.ofCall caller route call)).2 } := congrArg Outcome.state hreceive
  have hdispatched := dispatched_launch hlinked.indexed hid position (.ofCall caller route call)
  rw [← hstate] at hdispatched
  have hids : (announcing.perform operation).state.dealer.ids = announcing.dealer.ids.next.2 := by
    rw [hstate]
    exact Dealer.ids_launch _ _
  refine ⟨pairwise_joinedBefore operations (hid ▸ hfound), route, callee, _,
    Registration.appoints_of_pick? hpick hposition, rfl, rfl, hcallee,
    congrArg Outcome.answer hreceive, rfl, call.toContent.adapted_eq callee.staticSerializer,
    drawnIds_concat hids, next_not_mem_drawnIds hdrawn, hcounted.hasFreshId hroom, hdispatched⟩

/-- Sessions 1 and 2 serve a procedure whose last callee is to be called, and session 3 has called
it.  Session 2 takes payloads. -/
def servedByLast : List Operation :=
  let member (id : Id) (staticSerializer : Bool) : Session :=
    { id, realm := "realm1", authid := "", authrole := "", staticSerializer }
  let ambient : Ambient := { drawnId := 7, drawnIndex := 0, now := "" }
  let options : Dict := (∅ : Dict).insert "invoke" (.text "last")
  [.serve (.attach (member 1 false)), .serve (.attach (member 2 true)),
    .serve (.attach (member 3 false)),
    .serve (.receive ambient 1 (.register { request := 1, options, procedure := "com.sum" })),
    .serve (.receive ambient 2 (.register { request := 1, options, procedure := "com.sum" })),
    .serve (.receive ambient 3 (.call { request := 1, options := ∅, procedure := "com.sum" }))]

/-- Session 3 calls again with the same request, now with a payload. -/
theorem fresh_call_servedByLast :
    let payload : Payload := { serializer := .json, data := [49] }
    let ambient : Ambient := { drawnId := 7, drawnIndex := 0, now := "" }
    let call : Call := {
      request := 1, options := ∅, procedure := "com.sum", args := [.null], payload := some payload }
    let announcing := Run.final perform { board := { queueSize := 0 } } servedByLast
    let operation := Operation.serve (.receive ambient 3 (.call call))
    1 ∈ announcing.dealer.pending ∧ JoinedBefore { queueSize := 0 } servedByLast 7 1 2 ∧
      ∃ body : Invocation, body.registration = 7 ∧ body.toContent = { payload := some payload } ∧
        (announcing.perform operation).answer =
          .ok [{ recipient := 2, message := .invocation body }] ∧
        (announcing.perform operation).state.dealer.pending[(1 : Id)]? = none := by
  intro payload ambient call announcing operation
  have hdrawn : drawnIds { queueSize := 0 } servedByLast = [1] := by decide +kernel
  have hpending : ∀ entry ∈ announcing.dealer.pending.toList, entry.2.progress = false := by
    decide +kernel
  obtain ⟨found, hmatch, hinvoke, hcallees, hid⟩ : ∃ found,
      announcing.dealer.matchRegistration? "com.sum" = some found ∧ found.invoke = .last ∧
        found.callees = [1, 2] ∧ found.id = 7 :=
    ⟨_, rfl, by decide +kernel, by decide +kernel, by decide +kernel⟩
  obtain ⟨-, -, hdispatch⟩ := fresh_call_of_run { queueSize := 0 } servedByLast ambient 3 call
    (by rw [hdrawn]; decide) (by decide +kernel)
    (fun invocation pending hfound _ =>
      hpending (invocation, pending) (Std.ExtTreeMap.mem_toList_iff_getElem?_eq_some.mpr hfound))
  obtain ⟨hjoined, route, callee, body, happoints, -, -, hcallee, hanswer, hregistration, hcontent,
    -, hnew, -, hdispatched⟩ := hdispatch found hmatch
  simp only [Registration.Appoints, hinvoke, hcallees] at happoints
  have hroute : route.callee = 2 := by simpa using happoints.symm
  rw [hroute] at hcallee hanswer
  have htakes : (announcing.dealer.sessions[(2 : Id)]?).map Session.staticSerializer =
      some true := by decide +kernel
  have hstatic : callee.staticSerializer = true :=
    Option.some.inj ((congrArg (Option.map Session.staticSerializer) hcallee).symm.trans htakes)
  have hfirst : (1 : Id) ≠ body.request := by
    rintro hsame
    rw [hdrawn, ← hsame] at hnew
    simp at hnew
  have hgone : (announcing.dealer.pending[(1 : Id)]?).filter (fun earlier =>
      earlier.key ≠ (Pending.ofCall 3 route call).key) = none := by
    have hkey : (Pending.ofCall 3 route call).key = { caller := 3, request := 1 } := rfl
    rw [hkey]
    decide +kernel
  rw [hid, hcallees] at hjoined
  refine ⟨by decide +kernel, (List.pairwise_cons.mp hjoined).1 2 (by simp), body,
    hregistration.trans hid, ?_, hanswer, (hdispatched.superseded 1 hfirst).trans hgone⟩
  rw [hcontent, if_pos ⟨rfl, hstatic⟩]

end AnnouncingDealer

end Wamp
