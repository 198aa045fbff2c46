import Wamp.Proofs.Dealer.QuietRuns
import Wamp.Proofs.Dealer.Ledger

/-!
# Killed calls

A caller that kills a call leaves it to the callee's next reply to end it as canceled.  Progressive
chunks that the caller adds meanwhile continue the invocation and leave its mark alone.  The chunk
that closes the call puts it in flight under a new invocation, which has no mark.  So the kill is
honoured exactly if the caller does not close the call before the callee replies.
-/

namespace Wamp.Dealer

/-- What a call in flight need not outlast: its caller leaves, cancels it or starts it anew, or its
callee's reply is accepted. -/
inductive Concludes (dealer : Dealer) (key : CallKey) : Operation → Prop where
  | leaves : Concludes dealer key (.detach key.caller)
  | cancels (ambient : Ambient) (request : Cancel) (hrequest : request.request = key.request) :
      Concludes dealer key (.receive ambient key.caller (.cancel request))
  | yields (ambient : Ambient) (session : Id) (request : Yield) (routed : List Routed)
      (hindex : dealer.invocationOf[key]? = some request.request)
      (hanswer : (dealer.receive ambient session (.yield request)).answer = .ok routed) :
      Concludes dealer key (.receive ambient session (.yield request))
  | fails (ambient : Ambient) (session : Id) (reply : ErrorReply) (routed : List Routed)
      (hindex : dealer.invocationOf[key]? = some reply.request)
      (hanswer : (dealer.receive ambient session (.error reply)).answer = .ok routed) :
      Concludes dealer key (.receive ambient session (.error reply))
  | renews (ambient : Ambient) (request : Call) (callee : Id) (body : Invocation)
      (hrequest : request.request = key.request) (hfresh : dealer.openInvocation? key = none)
      (hanswer : (dealer.receive ambient key.caller (.call request)).answer =
        .ok [{ recipient := callee, message := .invocation body }]) :
      Concludes dealer key (.receive ambient key.caller (.call request))

/-- The caller adds the chunk that closes its call, and the chunk is accepted. -/
def Closes (dealer : Dealer) (key : CallKey) (operation : Operation) : Prop :=
  ∃ ambient request routed, operation = .receive ambient key.caller (.call request) ∧
    request.request = key.request ∧ request.options.flag "progress" = false ∧
    (dealer.openInvocation? key).isSome = true ∧ (dealer.perform operation).answer = .ok routed

/-- A call is in flight at a callee, with or without the mark of a kill. -/
def InFlightAt (dealer : Dealer) (key : CallKey) (callee : Id) (canceled : Bool) : Prop :=
  ∃ (invocation : Id) (pending : Pending), dealer.pending[invocation]? = some pending ∧
    pending.key = key ∧ pending.callee = callee ∧ pending.canceled = canceled

section Step

variable {dealer : Dealer} {operation : Operation} {key : CallKey} {callee invocation : Id}
  {pending : Pending}

/-- A progressive chunk continues the call and changes nothing. -/
theorem state_receive_of_continued {ambient : Ambient} {caller : Id} {request : Call}
    {opened : Id × Pending}
    (hopen : dealer.openInvocation? { caller, request := request.request } = some opened)
    (hprogress : request.options.flag "progress" = true) :
    (dealer.receive ambient caller (.call request)).state = dealer := by
  simp only [receive, call]
  cases dealer.sessions[caller]? with
  | none => rfl
  | some details =>
      simp only [hopen, hprogress, if_true, handOver]
      split <;> rfl

/-- Whatever ends an invocation concludes its call or closes it. -/
theorem Departs.concludes_or_closes {departure : Departure} {routed : List Routed}
    (hdeparts : Departs invocation pending departure operation routed)
    (hindex : dealer.invocationOf[pending.key]? = some invocation)
    (hanswer : (dealer.perform operation).answer = .ok routed)
    (hended : (dealer.perform operation).state ≠ dealer) :
    dealer.Concludes pending.key operation ∨ dealer.Closes pending.key operation := by
  cases hdeparts with
  | resulted ambient session request _ _ hrequest | killed ambient session request _ hrequest =>
      exact Or.inl (.yields ambient session request _ (hrequest ▸ hindex) hanswer)
  | failed ambient session reply _ hrequest =>
      exact Or.inl (.fails ambient session reply _ (hrequest ▸ hindex) hanswer)
  | skipped ambient session request hcaller hrequest
  | aborted ambient session request hcaller hrequest =>
      subst hcaller
      exact Or.inl (.cancels ambient request hrequest)
  | superseded ambient session request recipient body hcaller hrequest =>
      subst hcaller
      have hkey : ({ caller := pending.caller, request := request.request } : CallKey) =
          pending.key := by
        rw [hrequest]
        rfl
      cases hopen : dealer.openInvocation? pending.key with
      | none => exact Or.inl (.renews ambient request recipient body hrequest hopen hanswer)
      | some opened =>
          cases hprogress : request.options.flag "progress" with
          | true =>
              rw [← hkey] at hopen
              exact absurd (state_receive_of_continued hopen hprogress) hended
          | false =>
              exact Or.inr ⟨ambient, request, _, rfl, hrequest, hprogress, hopen ▸ rfl, hanswer⟩
  | abandoned session hcaller =>
      subst hcaller
      exact Or.inl .leaves

theorem Linked.kept_of_not_concludes (hlinked : dealer.Linked)
    (hfresh : (dealer.perform operation).state.ids ≠ dealer.ids → dealer.HasFreshId)
    (hpending : dealer.pending[invocation]? = some pending)
    (hconcludes : ¬ dealer.Concludes pending.key operation)
    (hcloses : ¬ dealer.Closes pending.key operation) :
    (dealer.perform operation).state.pending[invocation]? = some pending := by
  by_cases hsame : (dealer.perform operation).state = dealer
  · rw [hsame]
    exact hpending
  cases hanswer : (dealer.perform operation).answer with
  | error error => exact absurd (refuses_of_refused hanswer).2 hsame
  | ok routed =>
      have hchanges := hlinked.changes hfresh (serves_of_granted hanswer) invocation
      rw [hpending] at hchanges
      generalize (dealer.perform operation).state.pending[invocation]? = entry at hchanges
      cases hchanges with
      | kept => rfl
      | marked _ ambient session request hcaller hrequest _ hoperation =>
          subst hcaller hoperation
          exact absurd (.cancels ambient request hrequest) hconcludes
      | ended _ departure hdeparts =>
          have hindex := hlinked.indexed.getElem?_key hpending
          rcases hdeparts.concludes_or_closes hindex hanswer hsame with hconcluded | hclosed
          · exact absurd hconcluded hconcludes
          · exact absurd hclosed hcloses

/-- The chunk that closes a call goes to the same callee, under an invocation without a mark. -/
theorem Closes.inFlightAt (hcloses : dealer.Closes key operation) (hlinked : dealer.Linked)
    (hpending : dealer.pending[invocation]? = some pending) (hkey : pending.key = key) :
    (dealer.perform operation).state.InFlightAt key pending.callee false := by
  obtain ⟨ambient, request, routed, rfl, hrequest, hprogress, hopen, hanswer⟩ := hcloses
  have hsame : ({ caller := key.caller, request := request.request } : CallKey) = key := by
    rw [hrequest]
  have hserves := serves_of_granted hanswer
  generalize (dealer.perform (.receive ambient key.caller (.call request))).state = state
    at hserves ⊢
  cases hserves with
  | unresolved _ _ _ _ _ hclosed
  | dispatched _ _ _ _ _ _ _ _ _ _ hclosed =>
      rw [hsame] at hclosed
      simp [hclosed] at hopen
  | continued _ _ _ _ _ _ _ _ _ _ hcontinues =>
      rw [hprogress] at hcontinues
      contradiction
  | closed _ _ _ caller recipient opened found _ hfound =>
      rw [hsame] at hfound
      obtain ⟨hindex, hold⟩ := filed_of_open hfound
      rw [← hkey, hlinked.indexed.getElem?_key hpending, Option.some.injEq] at hindex
      rw [← hindex, hpending, Option.some.injEq] at hold
      exact ⟨_, _, getElem?_launch_self dealer _, hsame, congrArg (·.callee) hold.symm, rfl⟩

/-- Unless it is concluded a call stays at its callee, and keeps its mark unless it is closed. -/
theorem InFlightAt.perform {canceled : Bool} (hat : dealer.InFlightAt key callee canceled)
    (hlinked : dealer.Linked)
    (hfresh : (dealer.perform operation).state.ids ≠ dealer.ids → dealer.HasFreshId)
    (hconcludes : ¬ dealer.Concludes key operation) :
    (¬ dealer.Closes key operation →
      (dealer.perform operation).state.InFlightAt key callee canceled) ∧
    (dealer.Closes key operation →
      (dealer.perform operation).state.InFlightAt key callee false) := by
  obtain ⟨invocation, pending, hpending, rfl, rfl, hcanceled⟩ := hat
  constructor
  · intro hcloses
    have hkept := hlinked.kept_of_not_concludes hfresh hpending hconcludes hcloses
    exact ⟨invocation, pending, hkept, rfl, rfl, hcanceled⟩
  · intro hcloses
    exact hcloses.inFlightAt hlinked hpending rfl

end Step

/-! ## The callee's reply -/

/-- The callee's next reply ends the call, and if it is a result the caller is told instead that
the call was canceled. -/
structure EndsAsCanceled (dealer : Dealer) (key : CallKey) (callee : Id) : Prop where
  inFlight : key ∈ dealer.invocationOf
  yields : ∀ (ambient : Ambient) (request : Yield),
    dealer.invocationOf[key]? = some request.request →
    let outcome := dealer.receive ambient callee (.yield request)
    outcome.answer = .ok [failure key.caller .call key.request ErrorUri.canceled] ∧
      key ∉ outcome.state.invocationOf
  fails : ∀ (ambient : Ambient) (reply : ErrorReply), reply.answers = .invocation →
    dealer.invocationOf[key]? = some reply.request →
    let outcome := dealer.receive ambient callee (.error reply)
    outcome.answer = .ok [{
        recipient := key.caller
        message := .error { reply with answers := .call, request := key.request } }] ∧
      key ∉ outcome.state.invocationOf

/-- The callee's final result goes to the caller. -/
def EndsWithResult (dealer : Dealer) (key : CallKey) (callee : Id) : Prop :=
  ∀ (ambient : Ambient) (request : Yield), dealer.invocationOf[key]? = some request.request →
    request.options.flag "progress" = false →
    ∃ result : CallResult, result.request = key.request ∧
      (dealer.receive ambient callee (.yield request)).answer =
        .ok [{ recipient := key.caller, message := .result result }]

def SendsResult (dealer : Dealer) (key : CallKey) (operation : Operation) : Prop :=
  ∃ routed, (dealer.perform operation).answer = .ok routed ∧
    ∃ result : CallResult, result.request = key.request ∧
      ({ recipient := key.caller, message := .result result } : Routed) ∈ routed

section Reply

variable {dealer : Dealer} {operation : Operation} {key : CallKey} {callee : Id}

theorem Linked.not_mem_dropPending (hlinked : dealer.Linked) {invocation : Id} {pending : Pending}
    (hpending : dealer.pending[invocation]? = some pending) :
    pending.key ∉ (dealer.dropPending invocation).invocationOf := by
  rw [hlinked.indexed.invocationOf_dropPending hpending]
  simp

theorem InFlightAt.endsAsCanceled (hat : dealer.InFlightAt key callee true)
    (hlinked : dealer.Linked) : dealer.EndsAsCanceled key callee := by
  obtain ⟨invocation, pending, hpending, rfl, rfl, hcanceled⟩ := hat
  have hindex := hlinked.indexed.getElem?_key hpending
  refine ⟨Table.mem_of_getElem? hindex, ?_, ?_⟩
  · intro ambient request hrequest
    rw [hindex, Option.some.injEq] at hrequest
    subst hrequest
    simp only
    rw [hlinked.receive_yield_of_canceled hpending hcanceled ambient]
    exact ⟨rfl, hlinked.not_mem_dropPending hpending⟩
  · intro ambient reply hanswers hrequest
    rw [hindex, Option.some.injEq] at hrequest
    subst hrequest
    have hfor : dealer.pendingFor? pending.callee reply.request = some pending :=
      pendingFor?_eq_some.mpr ⟨hpending, rfl⟩
    have hattached := hlinked.caller_attached _ _ hpending
    simp only [receive, invocationError, if_pos hanswers, hfor, if_pos hattached]
    exact ⟨rfl, hlinked.not_mem_dropPending hpending⟩

theorem InFlightAt.endsWithResult (hat : dealer.InFlightAt key callee false)
    (hlinked : dealer.Linked) : dealer.EndsWithResult key callee := by
  obtain ⟨invocation, pending, hpending, rfl, rfl, hcanceled⟩ := hat
  intro ambient request hrequest hfinal
  rw [hlinked.indexed.getElem?_key hpending, Option.some.injEq] at hrequest
  subst hrequest
  obtain ⟨client, hcaller⟩ := isAttached_iff.mp (hlinked.caller_attached _ _ hpending)
  have hlast : (pending.receiveProgress && request.options.flag "progress") = false := by
    rw [hfinal, Bool.and_false]
  refine ⟨relayed pending client request false, rfl, ?_⟩
  rw [hlinked.awaited.receive_yield hpending hcanceled hcaller ambient, hlast]
  rfl

theorem EndsAsCanceled.not_endsWithResult (hends : dealer.EndsAsCanceled key callee) :
    ¬ dealer.EndsWithResult key callee := by
  intro hresults
  obtain ⟨invocation, hindex⟩ := Table.mem_iff_exists.mp hends.inFlight
  let request : Yield := { request := invocation, options := ∅ }
  let ambient : Ambient := { drawnId := 0, drawnIndex := 0, now := "" }
  obtain ⟨result, -, hresult⟩ := hresults ambient request hindex (by simp [request, Dict.flag])
  obtain ⟨hcanceled, -⟩ := hends.yields ambient request hindex
  rw [hresult] at hcanceled
  simp [failure] at hcanceled

/-- A result of a call only reaches its caller when the callee's reply is accepted. -/
theorem Linked.concludes_of_sendsResult (hlinked : dealer.Linked)
    (hsends : dealer.SendsResult key operation) : dealer.Concludes key operation := by
  obtain ⟨routed, hanswer, result, hrequest, hsent⟩ := hsends
  have hserves := serves_of_granted hanswer
  have hyields : ∀ (session : Id) (request : Yield) (pending : Pending) (caller : Session),
      dealer.pendingFor? session request.request = some pending →
      dealer.sessions[pending.caller]? = some caller → caller.id = key.caller →
      pending.request = key.request → dealer.invocationOf[key]? = some request.request := by
    intro session request pending caller hpending hcaller hrecipient hsame
    have hkey : pending.key = key := by
      rw [hlinked.session_id _ _ hcaller] at hrecipient
      exact CallKey.mk.injEq .. ▸ ⟨hrecipient, hsame⟩
    rw [← hkey]
    exact hlinked.indexed.getElem?_key (pendingFor?_eq_some.mp hpending).1
  generalize hstate : (dealer.perform operation).state = state at hserves
  cases hserves with
  | progressed ambient session request pending caller hpending hcaller
  | finished ambient session request pending caller hpending hcaller =>
      simp only [List.mem_singleton, Routed.mk.injEq, Message.result.injEq] at hsent
      obtain ⟨hrecipient, rfl⟩ := hsent
      exact .yields ambient session request _
        (hyields session request pending caller hpending hcaller hrecipient.symm hrequest) hanswer
  | _ => simp [failure, interruption] at hsent

end Reply

/-! ## Runs -/

/-- The caller does not close its call during a stretch of a run. -/
def Unclosed (key : CallKey) : Dealer → List Operation → Prop :=
  Run.Throughout perform fun dealer operation => ¬ dealer.Closes key operation

/-- Nothing concludes a call during a stretch of a run. -/
def Undecided (key : CallKey) : Dealer → List Operation → Prop :=
  Run.Throughout perform fun dealer operation => ¬ dealer.Concludes key operation

/-- As long as nothing concludes it a call stays at its callee, and it keeps its mark exactly as long
as it is not closed. -/
theorem inFlightAt_final {before during : List Operation} (hfresh : DrawsFresh (before ++ during))
    {key : CallKey} {callee : Id}
    (hstart : (Run.final perform {} before).InFlightAt key callee true)
    (hduring : Undecided key (Run.final perform {} before) during) :
    (Unclosed key (Run.final perform {} before) during →
      (Run.final perform {} (before ++ during)).InFlightAt key callee true) ∧
    (¬ Unclosed key (Run.final perform {} before) during →
      (Run.final perform {} (before ++ during)).InFlightAt key callee false) := by
  -- The kill stands at a fixed place in the run, so the stretch after it grows at its end.
  induction during using List.reverseRecOn with
  | nil =>
      rw [List.append_nil]
      exact ⟨fun _ => hstart, fun hclosed => absurd (Run.throughout_nil _ _) hclosed⟩
  | append_singleton during operation ih =>
      rw [← List.append_assoc] at hfresh ⊢
      have hlinked := linked_of_drawsFresh hfresh.of_append
      obtain ⟨hopened, hclosed⟩ := ih hfresh.of_append hduring.of_append
      have hconcludes := hduring.last
      rw [← Run.final_append] at hconcludes
      have hstep : ∀ canceled, (Run.final perform {} (before ++ during)).InFlightAt key callee
          canceled → _ := fun canceled hat => hat.perform hlinked hfresh.last hconcludes
      unfold Unclosed at hopened hclosed ⊢
      rw [Run.throughout_concat, Run.final_concat, ← Run.final_append]
      constructor
      · rintro ⟨hearlier, hopen⟩
        exact (hstep true (hopened hearlier)).1 hopen
      · intro hnot
        by_cases hcloses : (Run.final perform {} (before ++ during)).Closes key operation
        · by_cases hearlier : Run.Throughout perform
              (fun dealer operation => ¬ dealer.Closes key operation)
              (Run.final perform {} before) during
          · exact (hstep true (hopened hearlier)).2 hcloses
          · exact (hstep false (hclosed hearlier)).2 hcloses
        · exact (hstep false (hclosed fun hearlier => hnot ⟨hearlier, hcloses⟩)).1 hcloses

/-- An accepted kill interrupts the callee of the call and marks the call. -/
theorem Linked.inFlightAt_of_kill {dealer : Dealer} (hlinked : dealer.Linked) {ambient : Ambient}
    {caller : Id} {request : Cancel} {routed : List Routed}
    (hmode : CancelMode.ofOptions request.options = .ok .kill)
    (hanswer : (dealer.receive ambient caller (.cancel request)).answer = .ok routed) :
    ∃ invocation pending, routed = [interruption .kill invocation pending] ∧
      (dealer.perform (.receive ambient caller (.cancel request))).state.InFlightAt
        { caller, request := request.request } pending.callee true := by
  have hserves : dealer.Serves (.receive ambient caller (.cancel request)) _ _ :=
    serves_of_granted hanswer
  generalize (dealer.perform (.receive ambient caller (.cancel request))).state = state
    at hserves ⊢
  cases hserves with
  | skipped _ _ _ _ _ hother | aborted _ _ _ _ _ hother =>
      rw [hmode] at hother
      contradiction
  | interrupted _ _ _ invocation pending _ hindex hpending =>
      have hkey := hlinked.indexed.key_of_invocationOf hindex hpending
      refine ⟨invocation, pending, rfl, invocation, { pending with canceled := true }, ?_, hkey,
        rfl, rfl⟩
      rw [getElem?_markCanceled, if_pos rfl, hpending]
      rfl

/-- After a kill the caller gets no result of the call as long as nothing concludes it, and the
callee's next reply ends it as canceled exactly if the caller has not closed it before.  If it has,
the callee's result reaches the caller as if there had been no kill. -/
theorem killed_of_run (before during : List Operation) (ambient : Ambient) (caller : Id)
    (request : Cancel) (routed : List Routed)
    (hfresh : DrawsFresh (before ++ .receive ambient caller (.cancel request) :: during))
    (hmode : CancelMode.ofOptions request.options = .ok .kill)
    (hanswer : ((Run.final perform {} before).receive ambient caller (.cancel request)).answer =
      .ok routed)
    (hduring : Undecided { caller, request := request.request }
      (Run.final perform {} (before ++ [.receive ambient caller (.cancel request)])) during) :
    let key : CallKey := { caller, request := request.request }
    let killed := Run.final perform {} (before ++ [.receive ambient caller (.cancel request)])
    let dealer :=
      Run.final perform {} (before ++ .receive ambient caller (.cancel request) :: during)
    ∃ invocation pending, routed = [interruption .kill invocation pending] ∧
      Run.Throughout perform (fun dealer operation => ¬ dealer.SendsResult key operation) killed
        during ∧
      (Unclosed key killed during ↔ dealer.InFlightAt key pending.callee true) ∧
      (Unclosed key killed during ↔ dealer.EndsAsCanceled key pending.callee) ∧
      (¬ Unclosed key killed during ↔ dealer.EndsWithResult key pending.callee) := by
  intro key killed dealer
  have hsplit : before ++ .receive ambient caller (.cancel request) :: during =
      (before ++ [.receive ambient caller (.cancel request)]) ++ during := by simp
  rw [hsplit] at hfresh
  have hdealer : dealer = Run.final perform {}
      ((before ++ [.receive ambient caller (.cancel request)]) ++ during) := by
    rw [← hsplit]
  have hlinked : dealer.Linked := by
    rw [hdealer]
    exact linked_of_drawsFresh hfresh
  obtain ⟨invocation, pending, hrouted, hmarked⟩ :=
    (linked_of_drawsFresh hfresh.of_append.of_append).inFlightAt_of_kill hmode hanswer
  rw [← Run.final_concat] at hmarked
  obtain ⟨hopened, hclosed⟩ := inFlightAt_final hfresh hmarked hduring
  rw [← hdealer] at hopened hclosed
  have hresults : ¬ Unclosed key killed during → dealer.EndsWithResult key pending.callee :=
    fun hnot => (hclosed hnot).endsWithResult hlinked
  have hcanceled : Unclosed key killed during → dealer.EndsAsCanceled key pending.callee :=
    fun hunclosed => (hopened hunclosed).endsAsCanceled hlinked
  have hunclosed : dealer.EndsAsCanceled key pending.callee → Unclosed key killed during := by
    intro hends
    by_contra hnot
    exact hends.not_endsWithResult (hresults hnot)
  refine ⟨invocation, pending, hrouted, ?_, ⟨hopened, ?_⟩, ⟨hcanceled, hunclosed⟩,
    ⟨hresults, ?_⟩⟩
  · rintro earlier operation later rfl hsends
    have hearlier : (Run.final perform killed earlier).Linked := by
      rw [← Run.final_append]
      rw [← List.append_assoc] at hfresh
      exact linked_of_drawsFresh hfresh.of_append
    exact hduring earlier operation later rfl (hearlier.concludes_of_sendsResult hsends)
  · exact fun hat => hunclosed (hat.endsAsCanceled hlinked)
  · exact fun hends hopen => (hcanceled hopen).not_endsWithResult hends

section KilledChunks

def killMoment : Ambient where
  drawnId := 7
  drawnIndex := 0
  now := ""

def chunkOfCall (progress : Bool) : Operation :=
  .receive killMoment 2 (.call {
    request := 1
    options := (∅ : Dict).insert "progress" (.boolean progress)
    procedure := "com.sum" })

def progressiveCall : List Operation :=
  let member (id : Id) : Session :=
    { id, realm := "realm1", authid := "", authrole := "", staticSerializer := false }
  [.attach (member 1), .attach (member 2),
    .receive killMoment 1 (.register { request := 1, options := ∅, procedure := "com.sum" }),
    chunkOfCall true]

def killRequest : Cancel where
  request := 1
  options := (∅ : Dict).insert "mode" (.text "kill")

/-- The call is killed, and its caller adds another chunk. -/
def killedCall (progress : Bool) : List Operation :=
  progressiveCall ++ .receive killMoment 2 (.cancel killRequest) :: [chunkOfCall progress]

theorem drawsFresh_killedCall (progress : Bool) : DrawsFresh (killedCall progress) := by
  apply drawsFresh_of_length
  cases progress <;> decide +kernel

theorem undecided_chunkOfCall (progress : Bool) :
    Undecided { caller := 2, request := 1 }
      (Run.final perform {} (progressiveCall ++ [.receive killMoment 2 (.cancel killRequest)]))
      [chunkOfCall progress] := by
  refine Run.throughout_concat.mpr ⟨Run.throughout_nil _ _, ?_⟩
  intro hconcludes
  have hopen : ((Run.final perform {}
      (progressiveCall ++ [.receive killMoment 2 (.cancel killRequest)])).openInvocation?
        { caller := 2, request := 1 }).isSome = true := by
    decide +kernel
  cases hconcludes with
  | renews _ _ _ _ _ hnone =>
      rw [Run.final_nil] at hnone
      rw [hnone] at hopen
      contradiction

theorem killed_continuedCall :
    DrawsFresh (killedCall true) ∧
      (Run.final perform {} (killedCall true)).EndsAsCanceled { caller := 2, request := 1 } 1 := by
  have hanswer : ((Run.final perform {} progressiveCall).receive killMoment 2
      (.cancel killRequest)).answer =
        .ok [{
          recipient := 1
          message := .interrupt { request := 1, options := interruptOptions .kill } }] := by
    decide +kernel
  let killed :=
    Run.final perform {} (progressiveCall ++ [.receive killMoment 2 (.cancel killRequest)])
  have hundecided : Undecided { caller := 2, request := 1 } killed [chunkOfCall true] :=
    undecided_chunkOfCall true
  have hunclosed : Unclosed { caller := 2, request := 1 } killed ([] ++ [chunkOfCall true]) := by
    refine Run.throughout_concat.mpr ⟨Run.throughout_nil _ _, ?_⟩
    rintro ⟨_, request, _, hoperation, -, hprogress, -⟩
    simp only [chunkOfCall, Operation.receive.injEq, Message.call.injEq] at hoperation
    rw [← hoperation.2.2] at hprogress
    exact absurd hprogress (by decide +kernel)
  obtain ⟨invocation, pending, hrouted, -, -, hcanceled, -⟩ :=
    killed_of_run progressiveCall [chunkOfCall true] killMoment 2 killRequest _
      (drawsFresh_killedCall true) (by decide +kernel) hanswer hundecided
  have hcallee : 1 = pending.callee := congrArg Routed.recipient (List.head_eq_of_cons_eq hrouted)
  rw [← hcallee] at hcanceled
  exact ⟨drawsFresh_killedCall true, hcanceled.mp hunclosed⟩

/-- The kill interrupts the callee and nothing concludes the call, but its last chunk closes it, and
then the callee's result reaches the caller. -/
theorem not_endsAsCanceled_closedCall :
    let dealer := Run.final perform {} (killedCall false)
    DrawsFresh (killedCall false) ∧
      ((Run.final perform {} progressiveCall).receive killMoment 2 (.cancel killRequest)).answer =
        .ok [{
          recipient := 1
          message := .interrupt { request := 1, options := interruptOptions .kill } }] ∧
      Undecided { caller := 2, request := 1 }
        (Run.final perform {} (progressiveCall ++ [.receive killMoment 2 (.cancel killRequest)]))
        [chunkOfCall false] ∧
      (dealer.receive killMoment 1 (.yield { request := 2, options := ∅ })).answer =
        .ok [{ recipient := 2, message := .result { request := 1, details := ∅ } }] ∧
      ¬ dealer.EndsAsCanceled { caller := 2, request := 1 } 1 := by
  intro dealer
  have hresult : (dealer.receive killMoment 1 (.yield { request := 2, options := ∅ })).answer =
      .ok [{ recipient := 2, message := .result { request := 1, details := ∅ } }] := by
    decide +kernel
  refine ⟨drawsFresh_killedCall false, by decide +kernel, undecided_chunkOfCall false, hresult, ?_⟩
  intro hends
  obtain ⟨hcanceled, -⟩ := hends.yields killMoment { request := 2, options := ∅ }
    (by decide +kernel)
  rw [hresult] at hcanceled
  simp [failure] at hcanceled

end KilledChunks

end Wamp.Dealer
