import Mathlib.Data.List.Induction
import Wamp.Proofs.Dealer.Ledger
import Wamp.Proofs.Dealer.Registrations
import Wamp.Proofs.Resolution

/-!
# Where calls are routed

A call that continues none is routed to a callee of a registration whose procedure covers the one
that is called.  A call that continues another one stays on its route, whatever has become of the
registration since and whatever procedure is named.  So every invocation in flight is traced back
to a call that its route was chosen for.
-/

namespace Wamp

namespace Dealer

/-- The call of a session under which its request is filed. -/
def callKey (session : Id) (request : Call) : CallKey where
  caller := session
  request := request.request

/-- A call that continues none is dispatched along a route. -/
structure Chooses (dealer : Dealer) (ambient : Ambient) (session : Id) (request : Call)
    (route : Route) : Prop where
  fresh : dealer.openInvocation? (callKey session request) = none
  serves : ∃ found, dealer.registrations[route.registration]? = some found ∧
    route.callee ∈ found.callees ∧ found.policy = route.policy ∧
    Uri.Covers found.procedure found.policy request.procedure
  answered : ∃ body : Invocation,
    (dealer.receive ambient session (.call request)).answer =
      .ok [{ recipient := route.callee, message := .invocation body }] ∧
    body.registration = route.registration

/-- A call of the run that continued none was dispatched along a route. -/
def ChosenIn (operations : List Operation) (session : Id) (request : Call) (route : Route) :
    Prop :=
  ∃ before ambient after,
    operations = before ++ .receive ambient session (.call request) :: after ∧
    (Run.final perform {} before).Chooses ambient session request route

theorem ChosenIn.concat {operations : List Operation} {session : Id} {request : Call}
    {route : Route} (hchosen : ChosenIn operations session request route)
    (operation : Operation) : ChosenIn (operations ++ [operation]) session request route := by
  obtain ⟨before, ambient, after, rfl, hchooses⟩ := hchosen
  exact ⟨before, ambient, after ++ [operation], by simp, hchooses⟩

/-! ## One call -/

section Call

variable {dealer state : Dealer} {ambient : Ambient} {session : Id} {request : Call}
  {routed : List Routed}

theorem Tables.covers_of_resolve? (htables : dealer.Tables) {entry : Uri.Entry Id}
    {found : Registration} {procedure : String}
    (hentry : dealer.directory.resolve? procedure dealer.isLive = some entry)
    (hfound : dealer.registrations[entry.value]? = some found) :
    found.policy = entry.policy ∧ Uri.Covers found.procedure found.policy procedure := by
  obtain ⟨stored, hname, -, hprefers⟩ := htables.lists.prefers_of_resolve?_eq_some hentry
  rw [named_eq_some hfound, Option.some.injEq, Prod.mk.injEq] at hname
  obtain ⟨rfl, hpolicy⟩ := hname
  rw [hpolicy]
  exact ⟨rfl, hprefers.covers⟩

/-- A fresh call goes to a callee of a registration that covers the procedure, also afterwards.  A
call that continues another one goes where that one went, and changes no registration. -/
theorem Tables.route_of_sent (htables : dealer.Tables)
    (hserves : dealer.Serves (.receive ambient session (.call request)) state routed)
    {sent : Routed} (hsent : sent ∈ routed) {body : Invocation}
    (hbody : sent.message = .invocation body) :
    (dealer.openInvocation? (callKey session request) = none →
      ∃ found, state.registrations[body.registration]? = some found ∧
        sent.recipient ∈ found.callees ∧
        Uri.Covers found.procedure found.policy request.procedure) ∧
    ∀ invocation pending,
      dealer.openInvocation? (callKey session request) = some (invocation, pending) →
        sent.recipient = pending.callee ∧ body.registration = pending.registration ∧
          state.registrations = dealer.registrations := by
  cases hserves with
  | unresolved =>
      rw [List.mem_singleton] at hsent
      subst hsent
      simp [failure] at hbody
  | dispatched _ _ _ caller callee entry found position route hcaller hclosed hentry hfound hpick
      hposition hroute =>
      rw [List.mem_singleton] at hsent
      subst hsent
      obtain rfl := Message.invocation.inj hbody
      have hkey : dealer.openInvocation? (callKey session request) = none := hclosed
      rw [hkey]
      refine ⟨fun _ => ?_, by simp⟩
      obtain ⟨cursor, hcommit⟩ := found.commit_eq position
      obtain ⟨-, hcovers⟩ := htables.covers_of_resolve? hentry hfound
      refine ⟨{ found with cursor }, ?_, List.mem_of_getElem? hposition, hcovers⟩
      rw [launch_eq]
      simp only [chunk]
      unfold Dealer.committed
      rw [hroute.1, hcommit, Std.ExtTreeMap.getElem?_insert_self]
  | continued _ _ _ caller callee opened found hcaller hopen =>
      rw [List.mem_singleton] at hsent
      subst hsent
      obtain rfl := Message.invocation.inj hbody
      have hkey : dealer.openInvocation? (callKey session request) = some (opened, found) := hopen
      rw [hkey]
      refine ⟨by simp, fun invocation pending hsame => ?_⟩
      rw [Option.some.injEq, Prod.mk.injEq] at hsame
      rw [← hsame.2]
      exact ⟨rfl, rfl, rfl⟩
  | closed _ _ _ caller callee opened found hcaller hopen =>
      rw [List.mem_singleton] at hsent
      subst hsent
      obtain rfl := Message.invocation.inj hbody
      have hkey : dealer.openInvocation? (callKey session request) = some (opened, found) := hopen
      rw [hkey, launch_eq]
      refine ⟨by simp, fun invocation pending hsame => ?_⟩
      rw [Option.some.injEq, Prod.mk.injEq] at hsame
      rw [← hsame.2]
      exact ⟨rfl, rfl, rfl⟩

end Call

/-- An invocation is sent alone, for one chunk of a call of an attached session, and its callee is
attached as well. -/
theorem Serves.chunk_of_invocation {dealer state : Dealer} {operation : Operation}
    {routed : List Routed} (hserves : dealer.Serves operation state routed) {sent : Routed}
    (hsent : sent ∈ routed) {body : Invocation} (hbody : sent.message = .invocation body) :
    ∃ ambient session request caller callee route invocation,
      operation = .receive ambient session (.call request) ∧ routed = [sent] ∧
      dealer.sessions[session]? = some caller ∧
      dealer.sessions[sent.recipient]? = some callee ∧
      body = dealer.chunk caller callee route request invocation := by
  cases hserves with
  | attached | detached | disclosed => simp at hsent
  | dispatched ambient session request caller callee _ _ _ _ hcaller _ _ _ _ _ _ hcallee
  | continued ambient session request caller callee _ _ hcaller _ hcallee
  | closed ambient session request caller callee _ _ hcaller _ hcallee =>
      obtain rfl := List.mem_singleton.mp hsent
      obtain rfl := Message.invocation.inj hbody
      exact ⟨ambient, session, request, caller, callee, _, _, rfl, rfl, hcaller, hcallee, rfl⟩
  | aborted =>
      rw [List.mem_cons, List.mem_singleton] at hsent
      rcases hsent with rfl | rfl <;> simp [interruption, failure] at hbody
  | _ =>
      rw [List.mem_singleton] at hsent
      subst hsent
      simp [interruption, failure] at hbody

/-! ## What is in flight -/

section Pending

variable {dealer : Dealer}

theorem pending_of_superseded {key : CallKey} {invocation : Id} {pending : Pending}
    (hpending : (dealer.superseded key).pending[invocation]? = some pending) :
    dealer.pending[invocation]? = some pending := by
  unfold superseded at hpending
  split at hpending
  next => exact hpending
  next =>
    rw [getElem?_dropPending] at hpending
    split at hpending
    next => contradiction
    next => exact hpending

theorem pending_of_launch {launched : Pending} {invocation : Id} {pending : Pending}
    (hpending : (dealer.launch launched).2.pending[invocation]? = some pending)
    (hother : invocation ≠ dealer.ids.next.1) : dealer.pending[invocation]? = some pending := by
  rw [launch_eq] at hpending
  simp only [Std.ExtTreeMap.getElem?_insert, Std.LawfulEqCmp.compare_eq_iff_eq,
    if_neg hother.symm] at hpending
  exact pending_of_superseded hpending

/-- What is in flight afterwards was in flight before and has been marked at most, or it is a call
that has just been put in flight. -/
theorem Serves.pending_origin {operation : Operation} {state : Dealer} {routed : List Routed}
    (hserves : dealer.Serves operation state routed) {invocation : Id} {pending : Pending}
    (hpending : state.pending[invocation]? = some pending)
    (hother : state.ids = dealer.ids ∨ invocation ≠ dealer.ids.next.1) :
    ∃ old, dealer.pending[invocation]? = some old ∧
      pending = { old with canceled := pending.canceled } := by
  have hkept : dealer.pending[invocation]? = some pending →
      ∃ old, dealer.pending[invocation]? = some old ∧
        pending = { old with canceled := pending.canceled } := fun hold => ⟨pending, hold, rfl⟩
  cases hserves with
  | detached session =>
      rw [getElem?_detached, Option.filter_eq_some_iff] at hpending
      exact hkept hpending.1
  | unregistered _ session request ids =>
      obtain ⟨_, _, hreleased⟩ := dealer.released_eq session ids request.registration
      rw [hreleased] at hpending
      exact hkept hpending
  | dispatched ambient session request caller callee entry found position =>
      have hne : invocation ≠ dealer.ids.next.1 := by
        rw [ids_launch] at hother
        exact hother.resolve_left (IdCounter.snd_next_ne dealer.ids)
      have hold : (dealer.committed entry.value found position).pending[invocation]? =
          some pending := pending_of_launch hpending hne
      exact hkept hold
  | closed =>
      rw [ids_launch] at hother
      exact hkept (pending_of_launch hpending (hother.resolve_left (IdCounter.snd_next_ne _)))
  | killed | finished | failed | skipped | aborted =>
      rw [getElem?_dropPending] at hpending
      split at hpending
      next => contradiction
      next => exact hkept hpending
  | interrupted _ _ _ marked =>
      rw [getElem?_markCanceled] at hpending
      split at hpending
      next =>
        obtain ⟨old, hold, rfl⟩ := Option.map_eq_some_iff.mp hpending
        exact ⟨old, hold, rfl⟩
      next => exact hkept hpending
  | _ => exact hkept hpending

/-- What is in flight stays on its route, or it is a call that has just been routed. -/
theorem Tables.route_origin (htables : dealer.Tables) {operation : Operation} {routed : List Routed}
    (hanswer : (dealer.perform operation).answer = .ok routed) {invocation : Id}
    {pending : Pending}
    (hpending : (dealer.perform operation).state.pending[invocation]? = some pending) :
    (∃ old, dealer.pending[invocation]? = some old ∧ old.toRoute = pending.toRoute ∧
      old.key = pending.key) ∨
    ∃ ambient session request, operation = .receive ambient session (.call request) ∧
      pending.key = callKey session request ∧
      (dealer.Chooses ambient session request pending.toRoute ∨
        ∃ earlier old, dealer.openInvocation? pending.key = some (earlier, old) ∧
          old.toRoute = pending.toRoute) := by
  have hserves := serves_of_granted hanswer
  have hkept : (dealer.perform operation).state.ids = dealer.ids ∨
      invocation ≠ dealer.ids.next.1 →
      ∃ old, dealer.pending[invocation]? = some old ∧ old.toRoute = pending.toRoute ∧
        old.key = pending.key := by
    intro hother
    obtain ⟨old, hold, hsame⟩ := hserves.pending_origin hpending hother
    rw [hsame]
    exact ⟨old, hold, rfl, rfl⟩
  rcases hserves.launches_or_ids_eq with ⟨ambient, session, request, route, rfl, hlaunches⟩ | hids
  · by_cases hnew : invocation = dealer.ids.next.1
    · rw [hnew, hlaunches.pending_eq, Option.some.injEq] at hpending
      subst hpending
      refine Or.inr ⟨ambient, session, request, rfl, rfl, hlaunches.chosen.imp_left ?_⟩
      rintro ⟨hclosed, entry, found, halong⟩
      obtain ⟨hpolicy, hcovers⟩ := htables.covers_of_resolve? halong.resolved halong.registered
      obtain ⟨caller, callee, rfl⟩ := hlaunches.sent
      refine ⟨hclosed, ⟨found, ?_, halong.served, hpolicy.trans halong.route_eq.2.symm, hcovers⟩,
        ⟨_, hanswer, rfl⟩⟩
      exact halong.route_eq.1 ▸ halong.registered
    · exact Or.inl (hkept (Or.inr hnew))
  · exact Or.inl (hkept (Or.inl hids))

end Pending

/-! ## Runs -/

/-- Everything in flight is on a route that was chosen for a call, and for the same call as long as
the counter of the invocations has room. -/
theorem chosenIn_of_pending (operations : List Operation) {invocation : Id} {pending : Pending}
    (hpending : (Run.final perform {} operations).pending[invocation]? = some pending) :
    ∃ session request, ChosenIn operations session request pending.toRoute ∧
      ((drawnIds operations).length < maxId.toNat → callKey session request = pending.key) := by
  -- From the end of the run backwards: an invocation was on its route before the last operation, or
  -- that operation is a call, which has been routed or continues what was open before.
  induction operations using List.reverseRecOn generalizing invocation pending with
  | nil => simp at hpending
  | append_singleton operations operation ih =>
      have hearlier : (drawnIds (operations ++ [operation])).length < maxId.toNat →
          (drawnIds operations).length < maxId.toNat :=
        Nat.lt_of_le_of_lt (Run.length_drawn_le perform Dealer.ids {} operations [operation])
      rw [Run.final_concat] at hpending
      cases hanswer : (perform (Run.final perform {} operations) operation).answer with
      | error error =>
          rw [(refuses_of_refused hanswer).2] at hpending
          obtain ⟨session, request, hchosen, hkey⟩ := ih hpending
          exact ⟨session, request, hchosen.concat operation, fun hdrawn => hkey (hearlier hdrawn)⟩
      | ok routed =>
          rcases (tables_final operations).route_origin hanswer hpending with
            ⟨old, hold, hroute, hsame⟩ | ⟨ambient, session, request, rfl, hsame, hcall⟩
          · obtain ⟨session, request, hchosen, hkey⟩ := ih hold
            rw [hroute] at hchosen
            exact ⟨session, request, hchosen.concat operation,
              fun hdrawn => (hkey (hearlier hdrawn)).trans hsame⟩
          · rcases hcall with hchooses | ⟨earlier, old, hopen, hroute⟩
            · exact ⟨session, request, ⟨operations, ambient, [], rfl, hchooses⟩,
                fun _ => hsame.symm⟩
            · obtain ⟨first, opening, hchosen, hkey⟩ := ih (openInvocation?_eq_some hopen)
              rw [hroute] at hchosen
              refine ⟨first, opening, hchosen.concat _, fun hdrawn => ?_⟩
              obtain ⟨hlinked, -⟩ := inFlight_final operations (hearlier hdrawn)
              rw [hkey (hearlier hdrawn)]
              obtain ⟨hindex, hold⟩ := filed_of_open hopen
              exact hlinked.indexed.key_of_invocationOf hindex hold

end Dealer

namespace AnnouncingDealer

theorem chosenIn_of_open {board : Board} {operations : List Operation}
    {key : CallKey} {invocation : Id} {pending : Pending}
    (hopen : (Run.final perform { board } operations).dealer.openInvocation? key =
      some (invocation, pending)) :
    ∃ caller opening, Dealer.ChosenIn (served operations) caller opening pending.toRoute ∧
      ((drawnIds board operations).length < maxId.toNat → Dealer.callKey caller opening = key) := by
  obtain ⟨hindex, hpending⟩ := Dealer.filed_of_open hopen
  have hinFlight := hpending
  rw [dealer_final] at hinFlight
  obtain ⟨caller, opening, hchosen, hkey⟩ :=
    Dealer.chosenIn_of_pending (served operations) hinFlight
  refine ⟨caller, opening, hchosen, fun hdrawn => ?_⟩
  obtain ⟨hlinked, -, -⟩ := sound_final operations hdrawn
  rw [drawnIds_eq] at hdrawn
  exact (hkey hdrawn).trans (hlinked.indexed.key_of_invocationOf hindex hpending)

end AnnouncingDealer

end Wamp
