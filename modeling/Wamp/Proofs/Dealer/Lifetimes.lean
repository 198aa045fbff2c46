import Wamp.Proofs.Dealer.InFlight

/-!
# The lifetime of an invocation

An invocation is put in flight by a call, may be marked by a kill, and ends in one of six ways.
What an operation does to one invocation is said once, by a relation with one case for each of
these changes.  The step lemma shows that every granted operation leaves every invocation as it is
or makes one of the changes.  It needs an identifier for every new invocation that is not in
flight, because a second invocation under the same identifier would overwrite the first.
-/

namespace Wamp.Dealer

/-- How an invocation ceases to be in flight. -/
inductive Departure where
  /-- The callee's final result went to the caller. -/
  | resulted
  /-- The callee's error went to the caller. -/
  | failed
  /-- The callee yielded to an invocation that its caller had killed. -/
  | killed
  /-- The caller canceled the call without waiting for the callee. -/
  | canceled
  /-- The caller repeated the call, which is now in flight under another identifier. -/
  | superseded
  /-- The caller was detached. -/
  | abandoned
  deriving DecidableEq

/-- The operation by which an invocation ends in a certain way, and what that leads to. -/
inductive Departs (invocation : Id) (pending : Pending) :
    Departure → Operation → List Routed → Prop where
  | resulted (ambient : Ambient) (session : Id) (request : Yield) (caller : Session)
      (hcallee : session = pending.callee) (hrequest : request.request = invocation)
      (hcanceled : pending.canceled = false)
      (hfinal : (pending.receiveProgress && request.options.flag "progress") = false) :
      Departs invocation pending .resulted (.receive ambient session (.yield request))
        [{ recipient := pending.caller
           message := .result (relayed pending caller request false) }]
  | failed (ambient : Ambient) (session : Id) (reply : ErrorReply)
      (hcallee : session = pending.callee) (hrequest : reply.request = invocation)
      (hanswers : reply.answers = .invocation) :
      Departs invocation pending .failed (.receive ambient session (.error reply))
        [{ recipient := pending.caller
           message := .error { reply with answers := .call, request := pending.request } }]
  | killed (ambient : Ambient) (session : Id) (request : Yield)
      (hcallee : session = pending.callee) (hrequest : request.request = invocation)
      (hcanceled : pending.canceled = true) :
      Departs invocation pending .killed (.receive ambient session (.yield request))
        [failure pending.caller .call pending.request ErrorUri.canceled]
  | skipped (ambient : Ambient) (session : Id) (request : Cancel)
      (hcaller : session = pending.caller) (hrequest : request.request = pending.request)
      (hmode : CancelMode.ofOptions request.options = .ok .skip) :
      Departs invocation pending .canceled (.receive ambient session (.cancel request))
        [failure pending.caller .call pending.request ErrorUri.canceled]
  | aborted (ambient : Ambient) (session : Id) (request : Cancel)
      (hcaller : session = pending.caller) (hrequest : request.request = pending.request)
      (hmode : CancelMode.ofOptions request.options = .ok .killNoWait) :
      Departs invocation pending .canceled (.receive ambient session (.cancel request))
        [interruption .killNoWait invocation pending,
          failure pending.caller .call pending.request ErrorUri.canceled]
  | superseded (ambient : Ambient) (session : Id) (request : Call) (callee : Id)
      (next : Invocation) (hcaller : session = pending.caller)
      (hrequest : request.request = pending.request) (hnext : next.request ≠ invocation) :
      Departs invocation pending .superseded (.receive ambient session (.call request))
        [{ recipient := callee, message := .invocation next }]
  | abandoned (session : Id) (hcaller : session = pending.caller) :
      Departs invocation pending .abandoned (.detach session) []

/-- An invocation ends in one way only. -/
theorem Departs.unique {invocation : Id} {pending : Pending} {first second : Departure}
    {operation : Operation} {routed other : List Routed}
    (hfirst : Departs invocation pending first operation routed)
    (hsecond : Departs invocation pending second operation other) : first = second := by
  cases hfirst with
  | resulted ambient session request caller hcallee hrequest hcanceled =>
      cases hsecond with
      | resulted => rfl
      | killed _ _ _ _ _ hkilled =>
          rw [hcanceled] at hkilled
          contradiction
  | killed ambient session request hcallee hrequest hkilled =>
      cases hsecond with
      | resulted _ _ _ _ _ _ hcanceled =>
          rw [hkilled] at hcanceled
          contradiction
      | killed => rfl
  | failed | skipped | aborted | superseded | abandoned => cases hsecond <;> rfl

/-- What a granted operation does to the entry of one invocation. -/
inductive Changes (dealer : Dealer) (operation : Operation) (routed : List Routed)
    (invocation : Id) : Option Pending → Option Pending → Prop where
  | kept (entry : Option Pending) : Changes dealer operation routed invocation entry entry
  | opened (ambient : Ambient) (session : Id) (request : Call) (route : Route)
      (message : Invocation) (hdrawn : invocation = dealer.ids.next.1)
      (hmessage : message.request = invocation)
      (hregistration : message.registration = route.registration)
      (hoperation : operation = .receive ambient session (.call request))
      (hrouted : routed = [{ recipient := route.callee, message := .invocation message }]) :
      Changes dealer operation routed invocation none (some (.ofCall session route request))
  | marked (pending : Pending) (ambient : Ambient) (session : Id) (request : Cancel)
      (hcaller : session = pending.caller) (hrequest : request.request = pending.request)
      (hmode : CancelMode.ofOptions request.options = .ok .kill)
      (hoperation : operation = .receive ambient session (.cancel request))
      (hrouted : routed = [interruption .kill invocation pending]) :
      Changes dealer operation routed invocation (some pending)
        (some { pending with canceled := true })
  | ended (pending : Pending) (departure : Departure)
      (hdeparts : Departs invocation pending departure operation routed) :
      Changes dealer operation routed invocation (some pending) none

/-! ## Entries after each primitive change -/

section Entries

variable {dealer : Dealer}

theorem getElem?_dropPending (dealer : Dealer) (dropped invocation : Id) :
    (dealer.dropPending dropped).pending[invocation]? =
      if dropped = invocation then none else dealer.pending[invocation]? := by
  rw [pending_dropPending, Std.ExtTreeMap.getElem?_erase]
  simp only [Std.LawfulEqCmp.compare_eq_iff_eq]

theorem getElem?_markCanceled (dealer : Dealer) (marked invocation : Id) :
    (dealer.markCanceled marked).pending[invocation]? =
      if marked = invocation then
        (dealer.pending[invocation]?).map fun found => { found with canceled := true }
      else dealer.pending[invocation]? := by
  unfold markCanceled
  simp only [Std.ExtTreeMap.getElem?_modify, Std.LawfulEqCmp.compare_eq_iff_eq]
  split
  next hsame => rw [hsame]
  next => rfl

theorem getElem?_detached (dealer : Dealer) (session invocation : Id) :
    (((dealer.withdrawn session).pendingOf session).foldl dropPending
        (dealer.withdrawn session)).pending[invocation]? =
      (dealer.pending[invocation]?).filter fun pending => pending.caller ≠ session := by
  obtain ⟨_, _, hwithdrawn⟩ := dealer.withdrawn_eq session
  have hpending : (dealer.withdrawn session).pending = dealer.pending := by rw [hwithdrawn]
  rw [getElem?_foldl_dropPending, hpending]
  cases hfound : dealer.pending[invocation]? with
  | none => simp
  | some pending =>
      have hmem : invocation ∈ (dealer.withdrawn session).pendingOf session ↔
          pending.caller = session := by
        rw [mem_pendingOf, hpending, hfound]
        simp
      by_cases hcaller : pending.caller = session
      · simp [Option.filter_some, hmem, hcaller]
      · simp [Option.filter_some, hmem, hcaller]

/-- A call that is put in flight takes the place of its own earlier invocation. -/
theorem Indexed.getElem?_launch (hindexed : dealer.Indexed) (pending : Pending)
    (invocation : Id) :
    (dealer.launch pending).2.pending[invocation]? =
      if dealer.ids.next.1 = invocation then some pending
      else (dealer.pending[invocation]?).filter fun found => found.key ≠ pending.key := by
  have hcleared : (dealer.superseded pending.key).pending[invocation]? =
      (dealer.pending[invocation]?).filter fun found => found.key ≠ pending.key := by
    apply Option.ext
    intro found
    have hkept := hindexed.getElem?_superseded pending.key invocation found
    rw [hkept]
    simp [Option.filter_eq_some_iff]
  rw [launch_eq]
  simp only [Std.ExtTreeMap.getElem?_insert, Std.LawfulEqCmp.compare_eq_iff_eq]
  rw [hcleared]

end Entries

/-! ## The step -/

section Step

variable {dealer : Dealer} {operation : Operation} {state : Dealer} {routed : List Routed}

theorem changes_of_eq {invocation : Id}
    (hentry : state.pending[invocation]? = dealer.pending[invocation]?) :
    dealer.Changes operation routed invocation dealer.pending[invocation]?
      state.pending[invocation]? := by
  rw [hentry]
  exact .kept _

/-- An invocation is dropped because it ends. -/
theorem changes_dropPending {dropped : Id} {pending : Pending} {departure : Departure}
    (hpending : dealer.pending[dropped]? = some pending)
    (hdeparts : Departs dropped pending departure operation routed) (invocation : Id) :
    dealer.Changes operation routed invocation dealer.pending[invocation]?
      (dealer.dropPending dropped).pending[invocation]? := by
  rw [getElem?_dropPending]
  by_cases hsame : dropped = invocation
  · subst hsame
    rw [if_pos rfl, hpending]
    exact .ended pending departure hdeparts
  · rw [if_neg hsame]
    exact .kept _

/-- A call is put in flight under an identifier that is free, and supersedes what it was in flight
under before. -/
theorem Indexed.changes_launch {starting : Dealer} (hindexed : starting.Indexed)
    (hpending : starting.pending = dealer.pending) (hids : starting.ids = dealer.ids)
    (hfresh : dealer.HasFreshId) {ambient : Ambient} {session : Id} {request : Call}
    {route : Route} (message : Invocation) (hmessage : message.request = dealer.ids.next.1)
    (hregistration : message.registration = route.registration) (invocation : Id) :
    dealer.Changes (.receive ambient session (.call request))
      [{ recipient := route.callee, message := .invocation message }] invocation
      dealer.pending[invocation]?
      (starting.launch (.ofCall session route request)).2.pending[invocation]? := by
  rw [hindexed.getElem?_launch, hpending, hids]
  by_cases hsame : dealer.ids.next.1 = invocation
  · have hnone : dealer.pending[invocation]? = none := by
      rw [← hsame]
      exact Std.ExtTreeMap.getElem?_eq_none hfresh
    rw [if_pos hsame, hnone]
    exact .opened ambient session request route message hsame.symm (hmessage.trans hsame)
      hregistration rfl rfl
  · rw [if_neg hsame]
    cases hfound : dealer.pending[invocation]? with
    | none => exact .kept _
    | some found =>
        by_cases hkey : found.key = (Pending.ofCall session route request).key
        · have hcaller : found.caller = session := congrArg CallKey.caller hkey
          have hrequest : found.request = request.request := congrArg CallKey.request hkey
          have hnext : message.request ≠ invocation := by
            rw [hmessage]
            exact hsame
          have hdeparts : Departs invocation found .superseded
              (.receive ambient session (.call request))
              [{ recipient := route.callee, message := .invocation message }] :=
            .superseded ambient session request route.callee message hcaller.symm hrequest.symm
              hnext
          simpa [Option.filter_some, hkey] using Changes.ended found .superseded hdeparts
        · simpa [Option.filter_some, hkey] using Changes.kept (some found)

/-- Every granted operation leaves an invocation as it is or makes one of the changes. -/
theorem Linked.changes (hlinked : dealer.Linked)
    (hfresh : state.ids ≠ dealer.ids → dealer.HasFreshId)
    (hserves : dealer.Serves operation state routed) (invocation : Id) :
    dealer.Changes operation routed invocation dealer.pending[invocation]?
      state.pending[invocation]? := by
  have hdrawn := IdCounter.snd_next_ne dealer.ids
  cases hserves with
  | attached | disclosed | registered | joined | rejected | unresolved | continued | progressed =>
      exact changes_of_eq rfl
  | detached session =>
      rw [getElem?_detached]
      cases hfound : dealer.pending[invocation]? with
      | none => exact .kept _
      | some pending =>
          by_cases hcaller : pending.caller = session
          · have hdeparts : Departs invocation pending .abandoned (.detach session) [] :=
              .abandoned session hcaller.symm
            simpa [Option.filter_some, hcaller] using Changes.ended pending .abandoned hdeparts
          · simpa [Option.filter_some, hcaller] using Changes.kept (some pending)
  | unregistered ambient session request ids =>
      obtain ⟨_, _, hreleased⟩ := dealer.released_eq session ids request.registration
      apply changes_of_eq
      rw [hreleased]
  | dispatched ambient session request caller callee entry found position route =>
      have hcommitted : (dealer.committed entry.value found position).Indexed := hlinked.indexed
      have hpending : (dealer.committed entry.value found position).pending = dealer.pending := rfl
      rw [ids_launch] at hfresh
      exact hcommitted.changes_launch hpending rfl (hfresh hdrawn)
        (dealer.chunk caller callee route request dealer.ids.next.1) rfl rfl invocation
  | closed ambient session request caller callee opened pending =>
      rw [ids_launch] at hfresh
      exact hlinked.indexed.changes_launch rfl rfl (hfresh hdrawn)
        (dealer.chunk caller callee pending.toRoute request dealer.ids.next.1) rfl rfl invocation
  | killed ambient session request pending caller hpending hcaller hcanceled =>
      obtain ⟨hfound, hcallee⟩ := pendingFor?_eq_some.mp hpending
      rw [hlinked.session_id _ _ hcaller]
      exact changes_dropPending hfound
        (.killed ambient session request hcallee.symm rfl hcanceled) invocation
  | finished ambient session request pending caller hpending hcaller hcanceled hfinal =>
      obtain ⟨hfound, hcallee⟩ := pendingFor?_eq_some.mp hpending
      rw [hlinked.session_id _ _ hcaller]
      exact changes_dropPending hfound
        (.resulted ambient session request caller hcallee.symm rfl hcanceled hfinal) invocation
  | failed ambient session reply pending hanswers hpending =>
      obtain ⟨hfound, hcallee⟩ := pendingFor?_eq_some.mp hpending
      exact changes_dropPending hfound
        (.failed ambient session reply hcallee.symm rfl hanswers) invocation
  | skipped ambient session request dropped pending hmode hindex hpending =>
      have hkey := hlinked.indexed.key_of_invocationOf hindex hpending
      obtain ⟨rfl, hrequest⟩ := CallKey.mk.inj hkey
      rw [← hrequest]
      exact changes_dropPending hpending
        (.skipped ambient pending.caller request rfl hrequest.symm hmode) invocation
  | aborted ambient session request dropped pending hmode hindex hpending =>
      have hkey := hlinked.indexed.key_of_invocationOf hindex hpending
      obtain ⟨rfl, hrequest⟩ := CallKey.mk.inj hkey
      rw [← hrequest]
      exact changes_dropPending hpending
        (.aborted ambient pending.caller request rfl hrequest.symm hmode) invocation
  | interrupted ambient session request marked pending hmode hindex hpending =>
      have hkey := hlinked.indexed.key_of_invocationOf hindex hpending
      obtain ⟨rfl, hrequest⟩ := CallKey.mk.inj hkey
      rw [getElem?_markCanceled]
      by_cases hsame : marked = invocation
      · subst hsame
        rw [if_pos rfl, hpending]
        exact .marked pending ambient pending.caller request rfl hrequest.symm hmode rfl rfl
      · rw [if_neg hsame]
        exact .kept _

end Step

end Wamp.Dealer
