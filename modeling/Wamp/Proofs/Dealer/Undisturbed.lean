import Wamp.Proofs.Dealer.Ledger

/-!
# Calls that nobody disturbs

A call belongs to its caller and its callee.  Only these two can end it or mark it, each in ways
of its own, and whatever else happens meanwhile leaves the invocation as the call made it.  Hence
the callee's final result still reaches the caller unaltered.
-/

namespace Wamp

namespace Dealer

/-- What the parties of a call may do that its invocation does not outlast unaltered. -/
inductive Disturbs (caller : Id) (call : Call) (callee invocation : Id) : Operation → Prop where
  | finishes (ambient : Ambient) (request : Yield) (hrequest : request.request = invocation)
      (hfinal : (call.options.flag "receive_progress" && request.options.flag "progress") =
        false) :
      Disturbs caller call callee invocation (.receive ambient callee (.yield request))
  | fails (ambient : Ambient) (reply : ErrorReply) (hrequest : reply.request = invocation)
      (hanswers : reply.answers = .invocation) :
      Disturbs caller call callee invocation (.receive ambient callee (.error reply))
  | repeats (ambient : Ambient) (request : Call) (hrequest : request.request = call.request) :
      Disturbs caller call callee invocation (.receive ambient caller (.call request))
  | cancels (ambient : Ambient) (request : Cancel) (hrequest : request.request = call.request) :
      Disturbs caller call callee invocation (.receive ambient caller (.cancel request))
  | leaves : Disturbs caller call callee invocation (.detach caller)

/-- What a result carries of a yield: the payload alone if there is one and the caller takes it,
and the arguments alone otherwise. -/
structure Carries (result : CallResult) (request : Yield) (takesPayload : Bool) : Prop where
  payload : ∀ payload, request.payload = some payload → takesPayload = true →
    result.toContent = { payload := some payload }
  arguments : request.payload = none ∨ takesPayload = false →
    result.toContent = { toArguments := request.toArguments }

theorem carries_relayed (pending : Pending) (caller : Session) (request : Yield)
    (progress : Bool) :
    Carries (relayed pending caller request progress) request caller.staticSerializer where
  payload payload hpayload htakes := by
    simp [relayed, Content.adapted, hpayload, htakes]
  arguments hplain := by
    cases hpayload : request.payload with
    | none =>
        have hcontent : request.toContent = { toArguments := request.toArguments } := by
          rw [← hpayload]
        simpa [relayed, Content.adapted, hpayload] using hcontent
    | some payload =>
        have htakes : caller.staticSerializer = false := hplain.resolve_left (by simp [hpayload])
        simp [relayed, Content.adapted, hpayload, htakes]

variable {dealer state : Dealer} {invocation caller : Id} {route : Route} {call : Call}

theorem Departs.disturbs {departure : Departure} {operation : Operation} {routed : List Routed}
    (hdeparts : Departs invocation (.ofCall caller route call) departure operation routed) :
    Disturbs caller call route.callee invocation operation := by
  cases hdeparts with
  | resulted ambient session request client hcallee hrequest hcanceled hfinal =>
      rw [hcallee]
      exact .finishes ambient request hrequest hfinal
  | failed ambient session reply hcallee hrequest hanswers =>
      rw [hcallee]
      exact .fails ambient reply hrequest hanswers
  | killed ambient session request hcallee hrequest hcanceled => simp [Pending.ofCall] at hcanceled
  | skipped ambient session request hcaller hrequest =>
      rw [hcaller]
      exact .cancels ambient request hrequest
  | aborted ambient session request hcaller hrequest =>
      rw [hcaller]
      exact .cancels ambient request hrequest
  | superseded ambient session request callee next hcaller hrequest =>
      rw [hcaller]
      exact .repeats ambient request hrequest
  | abandoned session hcaller =>
      rw [hcaller]
      exact .leaves

/-- Whatever changes an invocation is its parties' doing. -/
theorem Changes.disturbs {operation : Operation} {routed : List Routed} {entry : Option Pending}
    (hchanges : dealer.Changes operation routed invocation (some (.ofCall caller route call))
      entry)
    (hundisturbed : ¬ Disturbs caller call route.callee invocation operation) :
    entry = some (.ofCall caller route call) := by
  cases hchanges with
  | kept => rfl
  | marked _ ambient session request hcaller hrequest hmode hoperation =>
      rw [hoperation, hcaller] at hundisturbed
      exact absurd (.cancels ambient request hrequest) hundisturbed
  | ended _ departure hdeparts => exact absurd hdeparts.disturbs hundisturbed

/-- A call that reaches a callee continues an invocation or is in flight under a new one. -/
theorem Serves.opened_of_invocation {ambient : Ambient} {session : Id} {request : Call}
    {callee : Id} {message : Invocation}
    (hserves : dealer.Serves (.receive ambient session (.call request)) state
      [{ recipient := callee, message := .invocation message }]) :
    message.request ∈ dealer.pending ∨
      ∃ route : Route, route.callee = callee ∧ route.registration = message.registration ∧
        state.pending[message.request]? = some (.ofCall session route request) := by
  generalize hrouted :
    [({ recipient := callee, message := .invocation message } : Routed)] = routed at hserves
  cases hserves with
  | unresolved => simp [failure] at hrouted
  | dispatched _ _ _ caller called entry found position route =>
      right
      obtain ⟨rfl, rfl⟩ : callee = route.callee ∧
          message = dealer.chunk caller called route request dealer.ids.next.1 := by
        simpa using hrouted
      exact ⟨route, rfl, rfl, getElem?_launch_self (dealer.committed entry.value found position) _⟩
  | continued _ _ _ caller called opened pending _ hopen =>
      left
      obtain ⟨-, rfl⟩ : callee = pending.callee ∧
          message = dealer.chunk caller called pending.toRoute request opened := by
        simpa using hrouted
      exact Table.mem_of_getElem? (openInvocation?_eq_some hopen)
  | closed _ _ _ caller called opened pending =>
      right
      obtain ⟨rfl, rfl⟩ : callee = pending.callee ∧
          message = dealer.chunk caller called pending.toRoute request dealer.ids.next.1 := by
        simpa using hrouted
      exact ⟨pending.toRoute, rfl, rfl, getElem?_launch_self dealer _⟩

/-- The final result of a call that was not killed goes to its caller, and all that is left of the
call is gone. -/
theorem Linked.receive_final (hlinked : dealer.Linked) {pending : Pending} {request : Yield}
    (hpending : dealer.pending[request.request]? = some pending)
    (hcanceled : pending.canceled = false)
    (hfinal : (pending.receiveProgress && request.options.flag "progress") = false)
    {client : Session} (hcaller : dealer.sessions[pending.caller]? = some client)
    (ambient : Ambient) :
    dealer.receive ambient pending.callee (.yield request) =
      .granted
        { dealer with
          pending := dealer.pending.erase request.request
          invocationOf := dealer.invocationOf.erase pending.key }
        [{ recipient := pending.caller
           message := .result (relayed pending client request false) }]
        [.yieldRouted pending.callee request.request pending.request false] := by
  have hdropped : dealer.dropPending request.request =
      { dealer with
        pending := dealer.pending.erase request.request
        invocationOf := dealer.invocationOf.erase pending.key } := by
    unfold Dealer.dropPending
    simp only [hpending, if_pos (hlinked.indexed.getElem?_key hpending)]
  simp only [hlinked.awaited.receive_yield hpending hcanceled hcaller, hfinal, hdropped,
    Bool.false_eq_true, if_false]

end Dealer

namespace AnnouncingDealer

variable {board : Board} {invocation caller : Id} {route : Route} {call : Call}

/-- An invocation outlasts every stretch of a run in which its parties do not disturb it. -/
theorem inFlight_undisturbed {before during : List Operation}
    (hdrawn : (drawnIds board (before ++ during)).length < maxId.toNat)
    (hpending : (inFlight board before)[invocation]? = some (.ofCall caller route call))
    (hundisturbed : ∀ operation, .serve operation ∈ during →
      ¬ Dealer.Disturbs caller call route.callee invocation operation) :
    (inFlight board (before ++ during))[invocation]? = some (.ofCall caller route call) := by
  -- The call stands at a fixed place in the run, so the stretch after it grows at its end.
  induction during using List.reverseRecOn with
  | nil => simpa using hpending
  | append_singleton during operation ih =>
      rw [← List.append_assoc] at hdrawn ⊢
      have hearlier := drawnIds_length_lt hdrawn
      have hsame := ih hearlier fun other hmem =>
        hundisturbed other (List.mem_append_left _ hmem)
      obtain ⟨hlinked, hcounted, hroom⟩ := sound_final _ hearlier
      rw [inFlight, Run.final_concat]
      rcases changes_perform hlinked (hcounted.hasFreshId hroom) operation invocation with
        hkept | ⟨served, routed, rfl, -, hchanges⟩
      · exact hkept.trans hsame
      · rw [inFlight] at hsame
        rw [hsame] at hchanges
        exact hchanges.disturbs (hundisturbed served (by simp))

/-- Once a call has reached a callee under a new invocation, the invocation stays in flight as the
call made it until one of the two parties disturbs it.  The callee's final result is then all that
the caller gets, and it changes nothing but the two entries of the call. -/
theorem call_undisturbed_of_run (board : Board) (before during : List Operation)
    (ambient : Ambient) (caller : Id) (call : Call) (callee : Id) (message : Invocation)
    (hdrawn : (drawnIds board
      (before ++ .serve (.receive ambient caller (.call call)) :: during)).length < maxId.toNat)
    (hanswer : ((Run.final perform { board } before).perform
      (.serve (.receive ambient caller (.call call)))).answer =
        .ok [{ recipient := callee, message := .invocation message }])
    (hnew : message.request ∉ drawnIds board before)
    (hundisturbed : ∀ operation, .serve operation ∈ during →
      ¬ Dealer.Disturbs caller call callee message.request operation) :
    let announcing := Run.final perform { board }
      (before ++ .serve (.receive ambient caller (.call call)) :: during)
    ∃ route : Route, route.callee = callee ∧ route.registration = message.registration ∧
      (inFlight board (before ++ [.serve (.receive ambient caller (.call call))]))[
        message.request]? = some (.ofCall caller route call) ∧
      announcing.dealer.pending[message.request]? = some (.ofCall caller route call) ∧
      ∀ ambient (request : Yield), request.request = message.request →
        (call.options.flag "receive_progress" && request.options.flag "progress") = false →
        ∃ client result, announcing.dealer.sessions[caller]? = some client ∧
          Dealer.Carries result request client.staticSerializer ∧
          result.request = call.request ∧ result.details = ∅ ∧
          (announcing.receive ambient callee (.yield request)).answer =
            .ok [{ recipient := caller, message := .result result }] ∧
          (announcing.receive ambient callee (.yield request)).state =
            { announcing with
              dealer := { announcing.dealer with
                pending := announcing.dealer.pending.erase message.request
                invocationOf := announcing.dealer.invocationOf.erase
                  { caller, request := call.request } } } := by
  intro announcing
  have hstep : before ++ .serve (.receive ambient caller (.call call)) :: during =
      (before ++ [.serve (.receive ambient caller (.call call))]) ++ during := by simp
  have hbefore := drawnIds_length_lt hdrawn
  obtain ⟨hlinked, -, -⟩ := sound_final _ hdrawn
  have hfound := (Dealer.serves_of_granted hanswer).opened_of_invocation
  obtain ⟨route, rfl, hregistration, hopened⟩ :=
    hfound.resolve_left fun hold => hnew (mem_drawnIds hbefore hold)
  have hstart : (inFlight board (before ++ [.serve (.receive ambient caller (.call call))]))[
      message.request]? = some (.ofCall caller route call) := by
    rw [inFlight, Run.final_concat]
    exact hopened
  have hpending : announcing.dealer.pending[message.request]? =
      some (.ofCall caller route call) := by
    rw [hstep] at hdrawn
    simp only [announcing, hstep]
    exact inFlight_undisturbed hdrawn hstart hundisturbed
  refine ⟨route, rfl, hregistration, hstart, hpending, ?_⟩
  intro ambient request hrequest hfinal
  obtain ⟨client, hclient⟩ :=
    Dealer.isAttached_iff.mp (hlinked.caller_attached _ _ hpending)
  rw [← hrequest] at hpending
  have hreceive := congrArg (absorb announcing.board)
    (hlinked.receive_final hpending rfl hfinal hclient ambient)
  have hrelayed := Dealer.carries_relayed (.ofCall caller route call) client request false
  refine ⟨client, Dealer.relayed (.ofCall caller route call) client request false, hclient,
    hrelayed, rfl, rfl, ?_, ?_⟩
  · exact congrArg Outcome.answer hreceive
  · rw [← hrequest]
    exact congrArg Outcome.state hreceive

/-- Session 1 serves a procedure beside two other sessions. -/
def openCall : List Operation :=
  let member (id : Id) : Session :=
    { id, realm := "realm1", authid := "", authrole := "", staticSerializer := false }
  let ambient : Ambient := { drawnId := 7, drawnIndex := 0, now := "" }
  [.serve (.attach (member 1)), .serve (.attach (member 2)), .serve (.attach (member 3)),
    .serve (.receive ambient 1
      (.register { request := 1, options := ∅, procedure := "com.sum" }))]

/-- Session 3 uses the identifiers of a call that is none of its own, and the callee gives its
registration back. -/
def meddling : List Operation :=
  let ambient : Ambient := { drawnId := 7, drawnIndex := 0, now := "" }
  [.serve (.receive ambient 3 (.yield { request := 1, options := ∅ })),
    .serve (.receive ambient 3 (.cancel { request := 1, options := ∅ })),
    .serve (.receive ambient 3 (.call { request := 1, options := ∅, procedure := "com.sum" })),
    .serve (.receive ambient 1 (.unregister { request := 2, registration := 7 }))]

theorem call_undisturbed_meddling :
    let ambient : Ambient := { drawnId := 7, drawnIndex := 0, now := "" }
    let call : Call := { request := 1, options := ∅, procedure := "com.sum" }
    let operations := openCall ++ .serve (.receive ambient 2 (.call call)) :: meddling
    (drawnIds { queueSize := 0 } operations).length < maxId.toNat ∧
      ∃ result, result.request = 1 ∧
        ((Run.final perform { board := { queueSize := 0 } } operations).receive ambient 1
          (.yield { request := 1, options := ∅ })).answer =
            .ok [{ recipient := 2, message := .result result }] := by
  intro ambient call operations
  have hdrawn : drawnIds { queueSize := 0 } operations = [1, 2] := by decide +kernel
  have hlength : (drawnIds { queueSize := 0 } operations).length < maxId.toNat := by
    rw [hdrawn]
    decide
  have hundisturbed : ∀ operation, .serve operation ∈ meddling →
      ¬ Dealer.Disturbs 2 call 1 1 operation := by
    intro operation hmem hdisturbs
    cases hdisturbs <;> simp [meddling] at hmem
  obtain ⟨route, -, -, -, -, hfinal⟩ := call_undisturbed_of_run { queueSize := 0 } openCall
    meddling ambient 2 call 1 { request := 1, registration := 7, details := ∅ } hlength
    (by decide +kernel) (by decide +kernel) hundisturbed
  obtain ⟨client, result, -, -, hrequest, -, hanswer, -⟩ :=
    hfinal ambient { request := 1, options := ∅ } rfl rfl
  exact ⟨hlength, result, hrequest, hanswer⟩

end AnnouncingDealer

end Wamp
