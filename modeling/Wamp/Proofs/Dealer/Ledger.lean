import Mathlib.Data.List.Induction
import Mathlib.Logic.ExistsUnique
import Wamp.Proofs.Dealer.Lifetimes

/-!
# The ledger of invocations

Every invocation identifier has one entry in the ledger of a run: it is put in flight once, by a
call, and settled once, in one of the six ways.  Nothing brings it back afterwards.  Replies to it
are refused, and no message mentions it again.
-/

namespace Wamp

/-- The invocation that a message to a callee is about. -/
def Message.invocation? : Message → Option Id
  | .invocation body => some body.request
  | .interrupt body => some body.request
  | _ => none

namespace Dealer

/-- An invocation is over: the counter has passed it and it is not in flight. -/
structure Over (dealer : Dealer) (invocation : Id) : Prop where
  passed : invocation ≤ dealer.ids.last.toNat
  settled : invocation ∉ dealer.pending

variable {dealer : Dealer} {invocation : Id}

theorem filed_of_open {key : CallKey} {pending : Pending}
    (hopen : dealer.openInvocation? key = some (invocation, pending)) :
    dealer.invocationOf[key]? = some invocation ∧
      dealer.pending[invocation]? = some pending := by
  unfold openInvocation? at hopen
  split at hopen
  next => contradiction
  next other hindex =>
    split at hopen
    next => contradiction
    next found hfound =>
      split at hopen
      next =>
        rw [Option.some.injEq, Prod.mk.injEq] at hopen
        rw [← hopen.1, ← hopen.2]
        exact ⟨hindex, hfound⟩
      next => contradiction

theorem openInvocation?_eq_some {key : CallKey} {pending : Pending}
    (hopen : dealer.openInvocation? key = some (invocation, pending)) :
    dealer.pending[invocation]? = some pending :=
  (filed_of_open hopen).2

theorem openInvocation?_of_filed {key : CallKey} {pending : Pending}
    (hindex : dealer.invocationOf[key]? = some invocation)
    (hpending : dealer.pending[invocation]? = some pending) (hprogress : pending.progress = true) :
    dealer.openInvocation? key = some (invocation, pending) := by
  simp only [openInvocation?, hindex, hpending, hprogress, if_true]

/-- A callee only hears of what is in flight and of what has just been drawn. -/
theorem mem_pending_of_mentioned {operation : Operation} {state : Dealer} {routed : List Routed}
    (hserves : dealer.Serves operation state routed) {mention : Routed}
    (hmem : mention ∈ routed) (hinvocation : mention.message.invocation? = some invocation) :
    invocation ∈ dealer.pending ∨ invocation = dealer.ids.next.1 := by
  cases hserves with
  | attached | detached | disclosed => simp at hmem
  | registered | joined | rejected | unregistered | unresolved | killed | progressed | finished |
      failed | skipped =>
      rw [List.mem_singleton] at hmem
      subst hmem
      simp [Message.invocation?, failure] at hinvocation
  | dispatched | closed =>
      rw [List.mem_singleton] at hmem
      subst hmem
      right
      simpa [Message.invocation?, chunk] using hinvocation.symm
  | continued ambient session request caller callee opened pending hcaller hopen =>
      rw [List.mem_singleton] at hmem
      subst hmem
      left
      obtain rfl : opened = invocation := by
        simpa [Message.invocation?, chunk] using hinvocation
      exact Table.mem_of_getElem? (openInvocation?_eq_some hopen)
  | interrupted ambient session request marked pending hmode hindex hpending =>
      rw [List.mem_singleton] at hmem
      subst hmem
      left
      obtain rfl : marked = invocation := by
        simpa [Message.invocation?, interruption] using hinvocation
      exact Table.mem_of_getElem? hpending
  | aborted ambient session request dropped pending hmode hindex hpending =>
      rw [List.mem_cons, List.mem_singleton] at hmem
      rcases hmem with rfl | rfl
      · left
        obtain rfl : dropped = invocation := by
          simpa [Message.invocation?, interruption] using hinvocation
        exact Table.mem_of_getElem? hpending
      · simp [Message.invocation?, failure] at hinvocation

/-- The counter never returns to an identifier that it has passed. -/
theorem ne_next_of_passed (hpassed : invocation ≤ dealer.ids.last.toNat)
    (hroom : dealer.ids.last.toNat < maxId.toNat) : invocation ≠ dealer.ids.next.1 := by
  rintro rfl
  have hle : dealer.ids.next.2.last.toNat ≤ dealer.ids.last.toNat := hpassed
  rw [IdCounter.last_next hroom] at hle
  omega

theorem passed_perform (hpassed : invocation ≤ dealer.ids.last.toNat)
    (hroom : dealer.ids.last.toNat < maxId.toNat) (operation : Operation) :
    invocation ≤ (dealer.perform operation).state.ids.last.toNat := by
  rcases countsUp dealer operation with hkept | hdrawn
  · rw [hkept]
    exact hpassed
  · rw [hdrawn, IdCounter.last_next hroom]
    exact Nat.le_succ_of_le hpassed

namespace Over

theorem ne_next (hover : dealer.Over invocation) (hroom : dealer.ids.last.toNat < maxId.toNat) :
    invocation ≠ dealer.ids.next.1 :=
  ne_next_of_passed hover.passed hroom

/-- No operation brings an invocation back, because the counter never returns to it. -/
theorem perform (hover : dealer.Over invocation) (hindexed : dealer.Indexed)
    (hroom : dealer.ids.last.toNat < maxId.toNat) (operation : Operation) :
    (dealer.perform operation).state.Over invocation := by
  refine ⟨passed_perform hover.passed hroom operation, ?_⟩
  intro hmem
  rcases hindexed.mem_pending_perform operation invocation hmem with hold | ⟨hnew, -⟩
  · exact hover.settled hold
  · exact hover.ne_next hroom hnew

theorem pendingFor?_eq_none (hover : dealer.Over invocation) (callee : Id) :
    dealer.pendingFor? callee invocation = none := by
  unfold pendingFor?
  rw [Std.ExtTreeMap.getElem?_eq_none hover.settled]

theorem receive_yield {request : Yield} (hover : dealer.Over request.request)
    (ambient : Ambient) (session : Id) :
    dealer.receive ambient session (.yield request) =
      .refused dealer (.noPendingCall request.request) := by
  simp only [receive, yield, hover.pendingFor?_eq_none]

theorem receive_error {reply : ErrorReply} (hover : dealer.Over reply.request)
    (hanswers : reply.answers = .invocation) (ambient : Ambient) (session : Id) :
    dealer.receive ambient session (.error reply) =
      .refused dealer (.noPendingInvocation reply.request) := by
  simp only [receive, invocationError, if_pos hanswers, hover.pendingFor?_eq_none]

theorem not_mentioned (hover : dealer.Over invocation)
    (hroom : dealer.ids.last.toNat < maxId.toNat) {operation : Operation} {state : Dealer}
    {routed : List Routed} (hserves : dealer.Serves operation state routed) {mention : Routed}
    (hmem : mention ∈ routed) : mention.message.invocation? ≠ some invocation := by
  intro hinvocation
  rcases mem_pending_of_mentioned hserves hmem hinvocation with hpending | hdrawn
  · exact hover.settled hpending
  · exact hover.ne_next hroom hdrawn

end Over

/-- A result of a call that was not killed goes to its caller.  Unless it is progressive the call is
over. -/
theorem Awaited.receive_yield (hawaited : dealer.Awaited) {request : Yield} {pending : Pending}
    (hpending : dealer.pending[request.request]? = some pending)
    (hcanceled : pending.canceled = false) {client : Session}
    (hcaller : dealer.sessions[pending.caller]? = some client) (ambient : Ambient) :
    let progress := pending.receiveProgress && request.options.flag "progress"
    dealer.receive ambient pending.callee (.yield request) =
      .granted (if progress then dealer else dealer.dropPending request.request)
        [{ recipient := pending.caller
           message := .result (relayed pending client request progress) }]
        [.yieldRouted pending.callee request.request pending.request progress] := by
  have hfor : dealer.pendingFor? pending.callee request.request = some pending :=
    pendingFor?_eq_some.mpr ⟨hpending, rfl⟩
  simp only [receive, yield, hfor, hcaller, hcanceled, Bool.false_eq_true, if_false]
  rw [hawaited.session_id _ _ hcaller]
  rfl

/-- The first result after a kill ends the call as canceled. -/
theorem Linked.receive_yield_of_canceled (hlinked : dealer.Linked) {request : Yield}
    {pending : Pending} (hpending : dealer.pending[request.request]? = some pending)
    (hcanceled : pending.canceled = true) (ambient : Ambient) :
    dealer.receive ambient pending.callee (.yield request) =
      .granted (dealer.dropPending request.request)
        [failure pending.caller .call pending.request ErrorUri.canceled] := by
  have hfor : dealer.pendingFor? pending.callee request.request = some pending :=
    pendingFor?_eq_some.mpr ⟨hpending, rfl⟩
  obtain ⟨caller, hcaller⟩ := isAttached_iff.mp (hlinked.caller_attached _ _ hpending)
  simp only [receive, yield, hfor, hcaller, hcanceled, if_true]
  rw [hlinked.session_id _ _ hcaller]
  rfl

end Dealer

namespace AnnouncingDealer

theorem countsUp :
    Run.CountsUp perform fun announcing : AnnouncingDealer => announcing.dealer.ids := by
  intro announcing operation
  simp only [dealer_perform]
  cases operation.served? with
  | none => exact Or.inl rfl
  | some operation => exact Dealer.countsUp announcing.dealer operation

/-! ## One operation -/

section Step

variable {announcing : AnnouncingDealer}

/-- An operation is granted and settles an invocation in a certain way. -/
def Settles (announcing : AnnouncingDealer) (operation : Operation) (invocation : Id)
    (pending : Pending) (departure : Dealer.Departure) : Prop :=
  ∃ served routed, operation = .serve served ∧
    (announcing.perform operation).answer = .ok routed ∧
    Dealer.Departs invocation pending departure served routed

/-- An operation is a call, which puts an invocation in flight and tells its callee. -/
def Opens (announcing : AnnouncingDealer) (operation : Operation) (invocation : Id) : Prop :=
  ∃ ambient session request route message,
    operation = .serve (.receive ambient session (.call request)) ∧
    (announcing.perform operation).answer =
      .ok [{ recipient := route.callee, message := .invocation message }] ∧
    message.request = invocation ∧ message.registration = route.registration ∧
    (announcing.perform operation).state.dealer.pending[invocation]? =
      some (.ofCall session route request)

/-- Only a granted operation of the dealer touches an invocation. -/
theorem changes_perform (hlinked : announcing.dealer.Linked)
    (hfresh : announcing.dealer.HasFreshId) (operation : Operation) (invocation : Id) :
    (announcing.perform operation).state.dealer.pending[invocation]? =
        announcing.dealer.pending[invocation]? ∨
      ∃ served routed, operation = .serve served ∧
        (announcing.perform operation).answer = .ok routed ∧
        announcing.dealer.Changes served routed invocation
          announcing.dealer.pending[invocation]?
          (announcing.perform operation).state.dealer.pending[invocation]? := by
  cases operation with
  | serve operation =>
      rw [dealer_perform]
      cases hanswer : (announcing.dealer.perform operation).answer with
      | error error =>
          left
          simp only [Operation.served?, Option.elim_some]
          rw [(Dealer.refuses_of_refused hanswer).2]
      | ok routed =>
          right
          exact ⟨operation, routed, rfl, hanswer,
            hlinked.changes (fun _ => hfresh) (Dealer.serves_of_granted hanswer) invocation⟩
  | enable | take consumer | drop consumer =>
      left
      rw [dealer_perform]
      rfl

theorem opens_of_entered (hlinked : announcing.dealer.Linked)
    (hfresh : announcing.dealer.HasFreshId) {operation : Operation} {invocation : Id}
    (hbefore : invocation ∉ announcing.dealer.pending)
    (hafter : invocation ∈ (announcing.perform operation).state.dealer.pending) :
    announcing.Opens operation invocation := by
  obtain ⟨pending, hpending⟩ := Table.mem_iff_exists.mp hafter
  have hnone : announcing.dealer.pending[invocation]? = none :=
    Std.ExtTreeMap.getElem?_eq_none hbefore
  rcases changes_perform hlinked hfresh operation invocation with
    hkept | ⟨served, routed, rfl, hanswer, hchanges⟩
  · rw [hpending, hnone] at hkept
    contradiction
  · rw [hpending, hnone] at hchanges
    cases hchanges with
    | opened ambient session request route message hdrawn hmessage hregistration hoperation
        hrouted =>
        subst hoperation hrouted
        exact ⟨ambient, session, request, route, message, rfl, hanswer, hmessage, hregistration,
          hpending⟩

theorem settles_of_left (hlinked : announcing.dealer.Linked)
    (hfresh : announcing.dealer.HasFreshId) {operation : Operation} {invocation : Id}
    {pending : Pending} (hbefore : announcing.dealer.pending[invocation]? = some pending)
    (hafter : invocation ∉ (announcing.perform operation).state.dealer.pending) :
    ∃! departure, announcing.Settles operation invocation pending departure := by
  have hnone := Std.ExtTreeMap.getElem?_eq_none hafter
  rcases changes_perform hlinked hfresh operation invocation with
    hkept | ⟨served, routed, rfl, hanswer, hchanges⟩
  · rw [hnone, hbefore] at hkept
    contradiction
  · rw [hnone, hbefore] at hchanges
    cases hchanges with
    | ended _ departure hdeparts =>
        refine ⟨departure, ⟨served, routed, rfl, hanswer, hdeparts⟩, ?_⟩
        rintro other ⟨_, _, ⟨⟩, _, hother⟩
        exact hother.unique hdeparts

end Step

/-! ## Runs -/

/-- The invocations in flight after a run of a new dealer. -/
def inFlight (board : Board) (operations : List Operation) : Std.ExtTreeMap Id Pending :=
  (Run.final perform { board } operations).dealer.pending

variable {board : Board} {invocation : Id}

theorem drawnIds_length_lt {before after : List Operation}
    (hdrawn : (drawnIds board (before ++ after)).length < maxId.toNat) :
    (drawnIds board before).length < maxId.toNat :=
  Nat.lt_of_le_of_lt (Run.length_drawn_le perform _ { board } before after) hdrawn

theorem last_final (operations : List Operation)
    (hdrawn : (drawnIds board operations).length < maxId.toNat) :
    (Run.final perform { board } operations).dealer.ids.last.toNat =
      (drawnIds board operations).length := by
  have hroom : 0 + (drawnIds board operations).length ≤ maxId.toNat := by omega
  have hlast := Run.last_final countsUp { board } operations hroom
  exact hlast.trans (Nat.zero_add _)

/-- What a run leaves behind as long as it does not use up the counter. -/
theorem sound_final (operations : List Operation)
    (hdrawn : (drawnIds board operations).length < maxId.toNat) :
    (Run.final perform { board } operations).dealer.Linked ∧
      (Run.final perform { board } operations).dealer.Counted ∧
      (Run.final perform { board } operations).dealer.ids.last.toNat < maxId.toNat := by
  have hlast := last_final operations hdrawn
  have hserved := hdrawn
  rw [drawnIds_eq] at hserved
  obtain ⟨hlinked, hcounted⟩ := Dealer.inFlight_final (served operations) hserved
  rw [← dealer_final { board } operations] at hlinked hcounted
  exact ⟨hlinked, hcounted, by omega⟩

theorem mem_drawnIds {operations : List Operation}
    (hdrawn : (drawnIds board operations).length < maxId.toNat)
    (hmem : invocation ∈ inFlight board operations) : invocation ∈ drawnIds board operations := by
  obtain ⟨-, hcounted, -⟩ := sound_final operations hdrawn
  have hroom : 0 + (drawnIds board operations).length ≤ maxId.toNat := by omega
  exact (Run.mem_drawn_iff countsUp { board } operations hroom invocation).mpr
    (hcounted invocation hmem)

/-- A counter with room draws an identifier that was not drawn before. -/
theorem next_not_mem_drawnIds {operations : List Operation}
    (hdrawn : (drawnIds board operations).length < maxId.toNat) :
    (Run.final perform { board } operations).dealer.ids.next.1 ∉ drawnIds board operations := by
  intro hmem
  obtain ⟨-, -, hroom⟩ := sound_final operations hdrawn
  have hroomy : 0 + (drawnIds board operations).length ≤ maxId.toNat := by omega
  obtain ⟨-, hpassed⟩ := (Run.mem_drawn_iff countsUp { board } operations hroomy _).mp hmem
  exact Dealer.ne_next_of_passed hpassed hroom rfl

theorem drawnIds_concat {operations : List Operation} {operation : Operation}
    (hids : ((Run.final perform { board } operations).perform operation).state.dealer.ids =
      (Run.final perform { board } operations).dealer.ids.next.2) :
    drawnIds board (operations ++ [operation]) =
      drawnIds board operations ++
        [(Run.final perform { board } operations).dealer.ids.next.1] := by
  unfold drawnIds
  rw [Run.drawn_append]
  simp only [Run.drawn, hids, if_neg (IdCounter.snd_next_ne _), List.append_nil]
  rfl

theorem over_of_left {before after : List Operation}
    (hdrawn : (drawnIds board (before ++ after)).length < maxId.toNat)
    (hin : invocation ∈ inFlight board before)
    (hout : invocation ∉ inFlight board (before ++ after)) :
    (Run.final perform { board } (before ++ after)).dealer.Over invocation := by
  have hbefore := drawnIds_length_lt hdrawn
  obtain ⟨-, hcounted, -⟩ := sound_final before hbefore
  refine ⟨Nat.le_trans (hcounted invocation hin).2 ?_, hout⟩
  rw [last_final before hbefore, last_final (before ++ after) hdrawn]
  exact Run.length_drawn_le perform _ { board } before after

/-- What every operation keeps of a sound dealer, every continuation of the run keeps. -/
theorem kept_final (Good : Dealer → Prop)
    (hstep : ∀ (dealer : Dealer) (operation : Dealer.Operation), dealer.Linked → dealer.Counted →
      dealer.ids.last.toNat < maxId.toNat → Good dealer → Good (dealer.perform operation).state)
    {before after : List Operation}
    (hdrawn : (drawnIds board (before ++ after)).length < maxId.toNat)
    (hgood : Good (Run.final perform { board } before).dealer) :
    Good (Run.final perform { board } (before ++ after)).dealer := by
  obtain ⟨hlinked, hcounted, -⟩ := sound_final before (drawnIds_length_lt hdrawn)
  rw [Run.final_append]
  have hkept := Run.final_induction_of_drawn
    (fun announcing : AnnouncingDealer =>
      announcing.dealer.Linked ∧ announcing.dealer.Counted ∧ Good announcing.dealer)
    countsUp ?_ ⟨hlinked, hcounted, hgood⟩ after
    (Run.room_append countsUp { board } before after ?_)
  · exact hkept.2.2
  · rintro announcing operation hroom ⟨hlinked, hcounted, hgood⟩
    rw [dealer_perform]
    cases operation.served? with
    | none => exact ⟨hlinked, hcounted, hgood⟩
    | some operation =>
        exact ⟨hlinked.perform operation fun _ => hcounted.hasFreshId hroom,
          hcounted.perform hlinked.indexed hroom operation,
          hstep announcing.dealer operation hlinked hcounted hroom hgood⟩
  · have hroom : 0 + (drawnIds board (before ++ after)).length < maxId.toNat := by omega
    exact hroom

/-- Once an invocation is over, no continuation of the run changes that. -/
theorem over_final {before after : List Operation}
    (hdrawn : (drawnIds board (before ++ after)).length < maxId.toNat)
    (hover : (Run.final perform { board } before).dealer.Over invocation) :
    (Run.final perform { board } (before ++ after)).dealer.Over invocation :=
  kept_final (fun dealer => dealer.Over invocation)
    (fun _ operation hlinked _ hroom hover => hover.perform hlinked.indexed hroom operation)
    hdrawn hover

/-- A kill was granted while the invocation was in flight and unmarked, and its callee has not
yielded to it since. -/
def KilledIn (board : Board) (operations : List Operation) (invocation : Id)
    (pending : Pending) : Prop :=
  ∃ earlier ambient request later,
    operations = earlier ++ .serve (.receive ambient pending.caller (.cancel request)) :: later ∧
    request.request = pending.request ∧
    CancelMode.ofOptions request.options = .ok .kill ∧
    (inFlight board earlier)[invocation]? = some { pending with canceled := false } ∧
    ((Run.final perform { board } earlier).perform
        (.serve (.receive ambient pending.caller (.cancel request)))).answer =
      .ok [Dealer.interruption .kill invocation pending] ∧
    ∀ ambient yield, yield.request = invocation →
      .serve (.receive ambient pending.callee (.yield yield)) ∉ later

theorem KilledIn.concat {operations : List Operation} {pending : Pending}
    (hkilled : KilledIn board operations invocation pending) {operation : Operation}
    (hquiet : ∀ ambient yield, yield.request = invocation →
      operation ≠ .serve (.receive ambient pending.callee (.yield yield))) :
    KilledIn board (operations ++ [operation]) invocation pending := by
  obtain ⟨earlier, ambient, request, later, rfl, hrequest, hmode, hunmarked, hanswer, hlater⟩ :=
    hkilled
  refine ⟨earlier, ambient, request, later ++ [operation], by simp, hrequest, hmode, hunmarked,
    hanswer, ?_⟩
  intro ambient yield hyield hmem
  rw [List.mem_append, List.mem_singleton] at hmem
  rcases hmem with hearlier | hlast
  · exact hlater ambient yield hyield hearlier
  · exact hquiet ambient yield hyield hlast.symm

theorem killedIn_of_canceled {operations : List Operation}
    (hdrawn : (drawnIds board operations).length < maxId.toNat) {pending : Pending}
    (hpending : (inFlight board operations)[invocation]? = some pending)
    (hcanceled : pending.canceled = true) : KilledIn board operations invocation pending := by
  -- From the end of the run backwards: the mark was there before the last operation, which is then
  -- no result of the callee, or that operation is the kill.
  induction operations using List.reverseRecOn generalizing pending with
  | nil => simp [inFlight] at hpending
  | append_singleton operations operation ih =>
      have hearlier := drawnIds_length_lt hdrawn
      obtain ⟨hlinked, hcounted, hroom⟩ := sound_final operations hearlier
      have hmarked : ∀ found, (inFlight board operations)[invocation]? = some found →
          found.canceled = true → found.callee = pending.callee →
          ∀ ambient yield, yield.request = invocation →
            operation ≠ .serve (.receive ambient pending.callee (.yield yield)) := by
        rintro found hfound hcanceled hcallee ambient yield rfl rfl
        have hyield := hlinked.receive_yield_of_canceled hfound hcanceled ambient
        rw [hcallee] at hyield
        rw [inFlight, Run.final_concat, dealer_perform] at hpending
        simp only [Operation.served?, Option.elim_some, Dealer.perform, hyield,
          Outcome.state_granted, Dealer.getElem?_dropPending, if_true] at hpending
        contradiction
      rw [inFlight, Run.final_concat] at hpending
      rcases changes_perform hlinked (hcounted.hasFreshId hroom) operation invocation with
        hkept | ⟨served, routed, rfl, hanswer, hchanges⟩
      · rw [hpending] at hkept
        exact (ih hearlier hkept.symm hcanceled).concat (hmarked pending hkept.symm hcanceled rfl)
      · rw [hpending] at hchanges
        generalize hold :
          (Run.final perform { board } operations).dealer.pending[invocation]? = old at hchanges
        cases hchanges with
        | kept =>
            exact (ih hearlier hold hcanceled).concat (hmarked pending hold hcanceled rfl)
        | opened => simp [Pending.ofCall] at hcanceled
        | marked found ambient session request hcaller hrequest hmode hoperation hrouted =>
            subst hcaller hoperation hrouted
            cases hfirst : found.canceled with
            | true =>
                have hsame : { found with canceled := true } = found := by
                  rw [← hfirst]
                rw [hsame]
                exact (ih hearlier hold hfirst).concat (hmarked found hold hfirst rfl)
            | false =>
                refine ⟨operations, ambient, request, [], rfl, hrequest, hmode, ?_, hanswer,
                  by simp⟩
                rw [inFlight, hold, ← hfirst]

/-- An invocation is settled for good: it is not in flight, replies to it are refused and change
nothing, and no operation leads to a message about it. -/
structure Settled (announcing : AnnouncingDealer) (invocation : Id) : Prop where
  gone : invocation ∉ announcing.dealer.pending
  yield_refused : ∀ ambient session (request : Yield), request.request = invocation →
    announcing.receive ambient session (.yield request) =
      .refused announcing (.noPendingCall invocation)
  error_refused : ∀ ambient session (reply : ErrorReply), reply.request = invocation →
    reply.answers = .invocation →
    announcing.receive ambient session (.error reply) =
      .refused announcing (.noPendingInvocation invocation)
  silent : ∀ operation routed mention, (announcing.perform operation).answer = .ok routed →
    mention ∈ routed → mention.message.invocation? ≠ some invocation

theorem settled_of_over {announcing : AnnouncingDealer} (hover : announcing.dealer.Over invocation)
    (hroom : announcing.dealer.ids.last.toNat < maxId.toNat) : announcing.Settled invocation where
  gone := hover.settled
  yield_refused := by
    rintro ambient session request rfl
    unfold receive
    rw [hover.receive_yield ambient session]
    rfl
  error_refused := by
    rintro ambient session reply rfl hanswers
    unfold receive
    rw [hover.receive_error hanswers ambient session]
    rfl
  silent := by
    intro operation routed mention hanswer hmem
    cases operation with
    | serve operation =>
        exact hover.not_mentioned hroom (Dealer.serves_of_granted hanswer) hmem
    | enable | take consumer | drop consumer =>
        simp only [perform, Outcome.answer_granted, Except.ok.injEq] at hanswer
        simp [← hanswer] at hmem

/-- An invocation enters the ledger of a run by one call, and never a second time.  It leaves in
exactly one way, as canceled on a result only after a kill to which its callee has not yielded
yet, and however the run continues it stays settled. -/
theorem ledger_of_run (board : Board) (before : List Operation) (operation : Operation)
    (after : List Operation)
    (hdrawn : (drawnIds board (before ++ operation :: after)).length < maxId.toNat)
    (invocation : Id) :
    let announcing := Run.final perform { board } before
    let next := inFlight board (before ++ [operation])
    (invocation ∉ inFlight board before → invocation ∈ next →
      announcing.Opens operation invocation ∧
        ∀ earlier, earlier <+: before → invocation ∉ inFlight board earlier) ∧
    ∀ pending, (inFlight board before)[invocation]? = some pending → invocation ∉ next →
      (∃! departure, announcing.Settles operation invocation pending departure) ∧
      (announcing.Settles operation invocation pending .killed →
        KilledIn board before invocation pending) ∧
      (Run.final perform { board } (before ++ operation :: after)).Settled invocation := by
  intro announcing next
  have hnext : next = (announcing.perform operation).state.dealer.pending := by
    simp only [next, inFlight, Run.final_concat]
    rfl
  have hsplit : before ++ operation :: after = (before ++ [operation]) ++ after := by simp
  have hbefore := drawnIds_length_lt hdrawn
  rw [hsplit] at hdrawn ⊢
  have hstep := drawnIds_length_lt hdrawn
  obtain ⟨hlinked, hcounted, hroom⟩ := sound_final before hbefore
  constructor
  · intro hout hin
    constructor
    · rw [hnext] at hin
      exact opens_of_entered hlinked (hcounted.hasFreshId hroom) hout hin
    · rintro earlier ⟨middle, rfl⟩ hearlier
      have hover := over_final hstep (over_of_left hbefore hearlier hout)
      exact hover.settled hin
  · intro pending hin hout
    refine ⟨?_, ?_, ?_⟩
    · rw [hnext] at hout
      exact settles_of_left hlinked (hcounted.hasFreshId hroom) hin hout
    · rintro ⟨served, routed, -, -, hdeparts⟩
      cases hdeparts with
      | killed _ _ _ _ _ hcanceled => exact killedIn_of_canceled hbefore hin hcanceled
    · have hover := over_of_left hstep (Table.mem_of_getElem? hin) hout
      exact settled_of_over (over_final hdrawn hover) (sound_final _ hdrawn).2.2

/-- A call is killed before its callee yields. -/
def killedCall : List Operation :=
  let member (id : Id) : Session :=
    { id, realm := "realm1", authid := "", authrole := "", staticSerializer := false }
  let ambient : Ambient := { drawnId := 7, drawnIndex := 0, now := "" }
  [.serve (.attach (member 1)), .serve (.attach (member 2)),
    .serve (.receive ambient 1
      (.register { request := 1, options := ∅, procedure := "com.sum" })),
    .serve (.receive ambient 2 (.call { request := 1, options := ∅, procedure := "com.sum" })),
    .serve (.receive ambient 2
      (.cancel { request := 1, options := (∅ : Dict).insert "mode" (.text "kill") }))]

def lateYield : Operation :=
  .serve (.receive { drawnId := 7, drawnIndex := 0, now := "" } 1
    (.yield { request := 1, options := ∅ }))

theorem settled_killedCall :
    (drawnIds { queueSize := 0 } (killedCall ++ lateYield :: [lateYield])).length <
        maxId.toNat ∧
      1 ∈ inFlight { queueSize := 0 } killedCall ∧
      (Run.final perform { board := { queueSize := 0 } }
        (killedCall ++ lateYield :: [lateYield])).Settled 1 := by
  have hdrawn : drawnIds { queueSize := 0 } (killedCall ++ lateYield :: [lateYield]) = [1] := by
    decide +kernel
  have hlength : (drawnIds { queueSize := 0 } (killedCall ++ lateYield :: [lateYield])).length <
      maxId.toNat := by
    rw [hdrawn]
    decide
  have hin : 1 ∈ inFlight { queueSize := 0 } killedCall := by decide +kernel
  have hout : 1 ∉ inFlight { queueSize := 0 } (killedCall ++ [lateYield]) := by decide +kernel
  obtain ⟨pending, hpending⟩ := Table.mem_iff_exists.mp hin
  have hledger := ledger_of_run { queueSize := 0 } killedCall lateYield [lateYield] hlength 1
  exact ⟨hlength, hin, (hledger.2 pending hpending hout).2.2⟩

end AnnouncingDealer

end Wamp
