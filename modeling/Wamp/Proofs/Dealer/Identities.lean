import Wamp.Proofs.Dealer.Ledger

/-!
# What an invocation identifier stands for

As long as the counter of the invocations has room, an identifier stands for one call at one
callee.  Marking the call as canceled changes neither, and no other call gets the identifier after
it is settled.
-/

namespace Wamp

namespace Dealer

/-- An identifier has been drawn, and whatever is in flight under it is a certain call at a certain
callee. -/
structure StandsFor (dealer : Dealer) (invocation callee : Id) (key : CallKey) : Prop where
  passed : invocation ≤ dealer.ids.last.toNat
  callee_eq : ∀ pending : Pending, dealer.pending[invocation]? = some pending →
    pending.callee = callee
  key_eq : ∀ pending : Pending, dealer.pending[invocation]? = some pending → pending.key = key

variable {dealer : Dealer} {invocation callee : Id} {key : CallKey}

theorem Counted.standsFor (hcounted : dealer.Counted) {pending : Pending}
    (hpending : dealer.pending[invocation]? = some pending) :
    dealer.StandsFor invocation pending.callee pending.key where
  passed := (hcounted invocation (Table.mem_of_getElem? hpending)).2
  callee_eq found hfound := by
    rw [hpending, Option.some.injEq] at hfound
    rw [hfound]
  key_eq found hfound := by
    rw [hpending, Option.some.injEq] at hfound
    rw [hfound]

theorem StandsFor.perform (hstands : dealer.StandsFor invocation callee key)
    (hlinked : dealer.Linked) (hcounted : dealer.Counted)
    (hroom : dealer.ids.last.toNat < maxId.toNat) (operation : Operation) :
    (dealer.perform operation).state.StandsFor invocation callee key := by
  cases hanswer : (dealer.perform operation).answer with
  | error error =>
      rw [(refuses_of_refused hanswer).2]
      exact hstands
  | ok routed =>
      have hkept : ∀ found : Pending,
          (dealer.perform operation).state.pending[invocation]? = some found →
          ∃ pending : Pending, dealer.pending[invocation]? = some pending ∧
            found.callee = pending.callee ∧ found.key = pending.key := by
        intro found hfound
        have hchanges := hlinked.changes (fun _ => hcounted.hasFreshId hroom)
          (serves_of_granted hanswer) invocation
        rw [hfound] at hchanges
        generalize hold : dealer.pending[invocation]? = old at hchanges
        cases hchanges with
        | kept => exact ⟨found, rfl, rfl, rfl⟩
        | opened _ _ _ _ _ hdrawn =>
            exact absurd hdrawn (ne_next_of_passed hstands.passed hroom)
        | marked pending => exact ⟨pending, rfl, rfl, rfl⟩
      refine ⟨passed_perform hstands.passed hroom operation, ?_, ?_⟩
      · intro found hfound
        obtain ⟨pending, hpending, hcallee, -⟩ := hkept found hfound
        rw [hcallee]
        exact hstands.callee_eq pending hpending
      · intro found hfound
        obtain ⟨pending, hpending, -, hkey⟩ := hkept found hfound
        rw [hkey]
        exact hstands.key_eq pending hpending

/-- Whoever gets an invocation is the callee of what is in flight under its identifier. -/
theorem Serves.pending_of_invocation {operation : Operation} {state : Dealer}
    {routed : List Routed} (hserves : dealer.Serves operation state routed) {sent : Routed}
    (hsent : sent ∈ routed) {body : Invocation} (hbody : sent.message = .invocation body) :
    ∃ pending : Pending, state.pending[body.request]? = some pending ∧
      pending.callee = sent.recipient := by
  cases hserves with
  | attached | detached | disclosed => simp at hsent
  | dispatched ambient session request caller callee entry found position route =>
      rw [List.mem_singleton] at hsent
      subst hsent
      obtain rfl := Message.invocation.inj hbody
      exact ⟨_, getElem?_launch_self (dealer.committed entry.value found position) _, rfl⟩
  | continued ambient session request caller callee opened pending _ hopen =>
      rw [List.mem_singleton] at hsent
      subst hsent
      obtain rfl := Message.invocation.inj hbody
      exact ⟨pending, openInvocation?_eq_some hopen, rfl⟩
  | closed ambient session request caller callee opened pending =>
      rw [List.mem_singleton] at hsent
      subst hsent
      obtain rfl := Message.invocation.inj hbody
      exact ⟨_, getElem?_launch_self dealer _, rfl⟩
  | aborted =>
      rw [List.mem_cons, List.mem_singleton] at hsent
      rcases hsent with rfl | rfl <;> simp [interruption, failure] at hbody
  | _ =>
      rw [List.mem_singleton] at hsent
      subst hsent
      simp [interruption, failure] at hbody

/-- A caller can have the callee of its call interrupted as long as the callee is attached. -/
theorem Linked.receive_kill (hlinked : dealer.Linked) {pending : Pending}
    (hpending : dealer.pending[invocation]? = some pending)
    (hcallee : dealer.isAttached pending.callee = true) {request : Cancel}
    (hrequest : request.request = pending.request)
    (hmode : CancelMode.ofOptions request.options = .ok .kill) (ambient : Ambient) :
    (dealer.receive ambient pending.caller (.cancel request)).answer =
      .ok [interruption .kill invocation pending] := by
  have hindex : dealer.invocationOf[
      ({ caller := pending.caller, request := request.request } : CallKey)]? =
        some invocation := by
    rw [hrequest]
    exact hlinked.indexed.getElem?_key hpending
  simp only [receive, cancel, hmode, hindex, hpending, hcallee, or_true, if_true,
    cancelInvocation, Outcome.answer_granted]
  rfl

end Dealer

namespace AnnouncingDealer

theorem standsFor_final {board : Board} {before after : List Operation}
    (hdrawn : (drawnIds board (before ++ after)).length < maxId.toNat)
    {invocation callee : Id} {key : CallKey}
    (hstands : (Run.final perform { board } before).dealer.StandsFor invocation callee key) :
    (Run.final perform { board } (before ++ after)).dealer.StandsFor invocation callee key :=
  kept_final (fun dealer => dealer.StandsFor invocation callee key)
    (fun _ operation hlinked hcounted hroom hstands =>
      hstands.perform hlinked hcounted hroom operation)
    hdrawn hstands

end AnnouncingDealer

end Wamp
