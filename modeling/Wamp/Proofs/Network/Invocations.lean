import Wamp.Proofs.Dealer.Routes
import Wamp.Proofs.Network.Agreement

/-!
# Which registration an invocation names

A call that continues none leads to an invocation of a registration which its recipient serves and
whose procedure covers the one that is called.  The client session of the recipient accepts it.  A
call that continues another one goes to the same callee under the same registration, also when the
callee has given it back since.  The client session refuses the invocation then.
-/

namespace Wamp

open Dealer (callKey)

namespace Network

variable {network : Network} {ambient : Ambient} {session : Id} {message : Message}

theorem call_of_routed_invocation {router : Router} {routed : List Routed}
    (hanswer : (router.receive ambient session message).answer = .ok routed) {sent : Routed}
    (hsent : sent ∈ routed) {body : Invocation} (hbody : sent.message = .invocation body) :
    ∃ request, message = .call request ∧ routed = [sent] ∧
      router.dealer.dealer.isAttached sent.recipient = true ∧
      router.dealer.dealer.Serves (.receive ambient session (.call request))
        (router.receive ambient session message).state.dealer.dealer routed := by
  have hperformed : (router.perform (.receive ambient session message)).answer = .ok routed :=
    hanswer
  obtain ⟨part, hpart, hdealer⟩ :=
    Router.dealer_of_sent hperformed hsent (by simp [hbody, Message.kind])
  have hserves := Dealer.serves_of_granted hdealer
  obtain ⟨_, _, request, _, callee, _, _, rfl, hsingle, -, hcallee, -⟩ :=
    hserves.chunk_of_invocation hsent hbody
  obtain ⟨rfl, rfl, rfl⟩ := Router.Operation.receive.inj (Router.receive_of_forDealer? hpart)
  exact ⟨request, rfl, hsingle, Dealer.isAttached_iff.mpr ⟨callee, hcallee⟩, hserves⟩

/-- An invocation is delivered to a client session that holds its registration exactly if the
dealer lists it for the recipient. -/
theorem Mirrored.verdict_of_invocation {router : Router} {clients : Std.ExtTreeMap Id Client}
    (hmirrored : Mirrored { router, clients }) (horderly : router.Orderly) {request : Call}
    {sent : Routed}
    (hanswer : (router.receive ambient session (.call request)).answer = .ok [sent])
    (hattached : router.dealer.dealer.isAttached sent.recipient = true) {body : Invocation}
    (hbody : sent.message = .invocation body) :
    let next := (router.receive ambient session (.call request)).state.dealer.dealer
    let verdict := (deliver clients sent).2.verdict
    next.ServedBy sent.recipient body.registration ∧ verdict = some (.ok ()) ∨
      ¬ next.ServedBy sent.recipient body.registration ∧
        verdict = some (.error (.unknownRegistration body.registration)) := by
  intro next verdict
  obtain ⟨row, hrow⟩ := Table.mem_iff_exists.mp
    ((horderly.tables.attached_iff sent.recipient).mpr hattached)
  obtain ⟨client, hclient, -⟩ := hmirrored.registrations.client_of_row hrow
  have hheld : next.held = router.dealer.dealer.held := by
    cases Router.handles_of_granted horderly.rostered horderly.tables hanswer with
    | exchanged _ _ _ hdealer => exact hdealer
  have htables : next.Tables := (horderly.perform (.receive ambient session (.call request))).tables
  have hserved : next.ServedBy sent.recipient body.registration ↔
      body.registration ∈ client.registrations := by
    rw [← htables.holds_iff, hheld]
    exact hmirrored.registrations.holds_iff hclient body.registration
  have hverdict : verdict = some (client.receive (.invocation body)).answer := by
    have hdelivered := congrArg Delivery.verdict (delivery_deliver clients sent)
    rw [hbody, hclient] at hdelivered
    exact hdelivered
  rw [hserved, hverdict]
  rcases client.receive_invocation body with ⟨hmem, haccepts⟩ | ⟨hmem, hrefuses⟩
  · exact Or.inl ⟨hmem, by rw [haccepts]⟩
  · exact Or.inr ⟨hmem, by rw [hrefuses]⟩

/-- An invocation is delivered on a call, and only one that continues another is not served. -/
theorem Mirrored.verdict_of_delivered (hmirrored : network.Mirrored)
    (horderly : network.router.Orderly) {deliveries : List Delivery}
    (hanswer : (network.send ambient session message).answer = .ok deliveries)
    {delivery : Delivery} (hmem : delivery ∈ deliveries) {body : Invocation}
    (hbody : delivery.routed.message = .invocation body) :
    let next := (network.send ambient session message).state.router.dealer.dealer
    let recipient := delivery.routed.recipient
    ∃ request, message = .call request ∧
      (next.ServedBy recipient body.registration ∧ delivery.verdict = some (.ok ()) ∨
        ¬ next.ServedBy recipient body.registration ∧
          network.router.dealer.dealer.openInvocation? (callKey session request) ≠ none ∧
          delivery.verdict = some (.error (.unknownRegistration body.registration))) := by
  intro next recipient
  obtain ⟨clients, routed, hrecorded, -, hrouted, rfl, hstate⟩ := hmirrored.of_delivered hanswer
  obtain ⟨before, after, hsplit, -⟩ := verdict_of_mem hmem
  have hsent : delivery.routed ∈ routed := by simp [hsplit]
  obtain ⟨request, rfl, rfl, hattached, hserves⟩ := call_of_routed_invocation hrouted hsent hbody
  have hverdict := hrecorded.verdict_of_invocation horderly hrouted hattached hbody
  have hdelivery : delivery = (deliver clients delivery.routed).2 := List.mem_singleton.mp hmem
  rw [← hdelivery] at hverdict
  have hnext : next =
      (network.router.receive ambient session (.call request)).state.dealer.dealer :=
    congrArg (fun router => router.dealer.dealer) hstate
  rw [hnext]
  refine ⟨request, rfl, ?_⟩
  rcases hverdict with haccepted | ⟨hunserved, hrefused⟩
  · exact Or.inl haccepted
  · refine Or.inr ⟨hunserved, fun hfresh => hunserved ?_, hrefused⟩
    obtain ⟨found, hfound, hcallee, -⟩ :=
      (horderly.tables.route_of_sent hserves hsent hbody).1 hfresh
    exact ⟨found, hfound, hcallee⟩

end Network

/-- An invocation names a registration that its recipient serves, unless the call that it belongs to
continues another one.  Then it is on the route of that one, which was chosen for an earlier call
because the registration covered its procedure.  In a network, the client session of the recipient
accepts an invocation if the recipient serves the registration, and finds it unknown otherwise,
which only happens to calls that continue others. -/
theorem routes_of_run :
    (∀ (board : Board) (operations : List AnnouncingDealer.Operation) (ambient : Ambient)
        (session : Id) (request : Call) (routed : List Routed) (sent : Routed) (body : Invocation),
      let announcing := Run.final AnnouncingDealer.perform { board } operations
      let outcome := announcing.receive ambient session (.call request)
      outcome.answer = .ok routed → sent ∈ routed → sent.message = .invocation body →
        (announcing.dealer.openInvocation? (callKey session request) = none →
          ∃ found, outcome.state.dealer.registrations[body.registration]? = some found ∧
            sent.recipient ∈ found.callees ∧
            Uri.Covers found.procedure found.policy request.procedure) ∧
        ∀ invocation pending,
          announcing.dealer.openInvocation? (callKey session request) =
            some (invocation, pending) →
          sent.recipient = pending.callee ∧ body.registration = pending.registration ∧
            outcome.state.dealer.registrations = announcing.dealer.registrations ∧
            ∃ caller opening,
              Dealer.ChosenIn (AnnouncingDealer.served operations) caller opening
                pending.toRoute ∧
              ((AnnouncingDealer.drawnIds board operations).length < maxId.toNat →
                callKey caller opening = callKey session request)) ∧
    ∀ (realm : String) (settings : Settings) (operations : List Network.Operation)
        (operation : Network.Operation) (deliveries : List Delivery) (delivery : Delivery)
        (body : Invocation),
      let network := Run.final Network.perform (.ofSettings realm settings) operations
      let next := (network.perform operation).state.router.dealer.dealer
      let recipient := delivery.routed.recipient
      (network.perform operation).answer = .ok deliveries → delivery ∈ deliveries →
        delivery.routed.message = .invocation body →
        ∃ ambient session request, operation = .send ambient session (.call request) ∧
          (next.ServedBy recipient body.registration ∧ delivery.verdict = some (.ok ()) ∨
            ¬ next.ServedBy recipient body.registration ∧
              network.router.dealer.dealer.openInvocation? (callKey session request) ≠ none ∧
              delivery.verdict = some (.error (.unknownRegistration body.registration))) := by
  refine ⟨?_, ?_⟩
  · intro board operations ambient session request routed sent body announcing outcome hanswer
      hsent hbody
    have htables := AnnouncingDealer.tables_final board operations
    obtain ⟨hfresh, hcontinues⟩ :=
      htables.route_of_sent (Dealer.serves_of_granted hanswer) hsent hbody
    refine ⟨hfresh, ?_⟩
    intro invocation pending hopen
    obtain ⟨hrecipient, hregistration, hkept⟩ := hcontinues invocation pending hopen
    exact ⟨hrecipient, hregistration, hkept, AnnouncingDealer.chosenIn_of_open hopen⟩
  · intro realm settings operations operation deliveries delivery body network next recipient
      hanswer hmem hbody
    have horderly := Network.orderly_final realm settings operations
    have hmirrored := Network.mirrored_final realm settings operations
    cases operation with
    | attach session | detach session =>
        obtain ⟨-, -, rfl⟩ := map_eq_ok_iff.mp hanswer
        simp at hmem
    | send ambient session message =>
        obtain ⟨request, rfl, hverdict⟩ :=
          hmirrored.verdict_of_delivered horderly hanswer hmem hbody
        exact ⟨ambient, session, request, rfl, hverdict⟩

section Withdrawn

def chunkOf (procedure : String) : Call :=
  { request := 1, options := (∅ : Dict).insert "progress" (.boolean true), procedure }

def anyMoment : Ambient := { drawnId := 7, drawnIndex := 0, now := "" }

/-- Session 1 gives a procedure back while a call of session 2 to it is open. -/
def withdrawal : List (Id × Message) :=
  [(1, .register { request := 1, options := ∅, procedure := "com.sum" }),
    (2, .call (chunkOf "com.sum")),
    (1, .unregister { request := 2, registration := 7 })]

def parties : List Session :=
  [1, 2].map fun id =>
    { id, realm := "realm1", authid := "", authrole := "", staticSerializer := false }

def withdrawnRoute : List Network.Operation :=
  parties.map .attach ++ withdrawal.map fun sent => .send anyMoment sent.1 sent.2

def withdrawnServing : List AnnouncingDealer.Operation :=
  (parties.map fun session => .serve (.attach session)) ++
    withdrawal.map fun sent => .serve (.receive anyMoment sent.1 sent.2)

def laterChunk : Invocation where
  request := 1
  registration := 7
  details := (∅ : Dict).insert "progress" (.boolean true)

def laterSent : Routed where
  recipient := 1
  message := .invocation laterChunk

theorem routes_withdrawnRoute :
    let board := Router.newBoard {}
    let announcing := Run.final AnnouncingDealer.perform { board } withdrawnServing
    let network := Run.final Network.perform (.ofSettings "realm1" {}) withdrawnRoute
    let next := (network.perform (.send anyMoment 2 (.call (chunkOf "com.sum")))).state
    (AnnouncingDealer.drawnIds board withdrawnServing).length < maxId.toNat ∧
      (announcing.receive anyMoment 2 (.call (chunkOf "com.sum"))).answer =
        .ok [laterSent] ∧
      (∃ caller opening route,
        Dealer.ChosenIn (AnnouncingDealer.served withdrawnServing) caller opening route ∧
          callKey caller opening = callKey 2 (chunkOf "com.sum") ∧ route.callee = 1 ∧
          route.registration = 7) ∧
      ∃ delivery : Delivery,
        (network.perform (.send anyMoment 2 (.call (chunkOf "com.sum")))).answer =
          .ok [delivery] ∧
        delivery.routed = laterSent ∧
        ¬ next.router.dealer.dealer.ServedBy 1 7 ∧
        delivery.verdict = some (.error (.unknownRegistration 7)) := by
  intro board announcing network next
  have hdrawn : (AnnouncingDealer.drawnIds board withdrawnServing).length < maxId.toNat := by
    decide +kernel
  have hanswer : (announcing.receive anyMoment 2 (.call (chunkOf "com.sum"))).answer =
      .ok [laterSent] := by
    decide +kernel
  have hopen : (announcing.dealer.openInvocation? (callKey 2 (chunkOf "com.sum"))).isSome =
      true := by
    decide +kernel
  have hdelivered : ∃ verdict,
      (network.perform (.send anyMoment 2 (.call (chunkOf "com.sum")))).answer =
        .ok [{ routed := laterSent, verdict }] :=
    ⟨some (.error (.unknownRegistration 7)), by decide +kernel⟩
  have hgone : next.router.dealer.dealer.registrations[7]? = none := by decide +kernel
  obtain ⟨hdealers, hnetworks⟩ := routes_of_run
  refine ⟨hdrawn, hanswer, ?_, ?_⟩
  · obtain ⟨opened, hsome⟩ := Option.isSome_iff_exists.mp hopen
    obtain ⟨-, hcontinues⟩ := hdealers board withdrawnServing anyMoment 2 (chunkOf "com.sum")
      [laterSent] laterSent laterChunk hanswer (List.mem_singleton_self laterSent) rfl
    obtain ⟨hrecipient, hregistration, -, caller, opening, hchosen, hkey⟩ :=
      hcontinues opened.1 opened.2 hsome
    exact ⟨caller, opening, opened.2.toRoute, hchosen, hkey hdrawn, hrecipient.symm,
      hregistration.symm⟩
  · obtain ⟨verdict, hanswered⟩ := hdelivered
    obtain ⟨_, _, _, -, hverdict⟩ := hnetworks "realm1" {} withdrawnRoute
      (.send anyMoment 2 (.call (chunkOf "com.sum"))) [{ routed := laterSent, verdict }]
      { routed := laterSent, verdict } laterChunk hanswered (List.mem_singleton_self _) rfl
    have hunserved : ¬ next.router.dealer.dealer.ServedBy 1 7 := by
      rintro ⟨found, hfound, -⟩
      exact Option.some_ne_none found (hfound.symm.trans hgone)
    refine ⟨_, hanswered, rfl, hunserved, ?_⟩
    rcases hverdict with ⟨hserved, -⟩ | ⟨-, -, hrefused⟩
    · exact absurd hserved hunserved
    · exact hrefused

/-- The invocation names a registration that is gone, and its recipient does not know it.  If the
registration is still there, the open call may name another procedure. -/
theorem unknown_withdrawnRoute :
    let network := Run.final Network.perform (.ofSettings "realm1" {}) withdrawnRoute
    let outcome := network.perform (.send anyMoment 2 (.call (chunkOf "com.sum")))
    let serving := Run.final Network.perform (.ofSettings "realm1" {}) (withdrawnRoute.take 4)
    let renamed := serving.perform (.send anyMoment 2 (.call (chunkOf "com.other")))
    outcome.answer = .ok [{
        routed := laterSent
        verdict := some (.error (.unknownRegistration 7)) }] ∧
      outcome.state.router.dealer.dealer.registrations[7]? = none ∧
      renamed.answer = .ok [{
        routed := laterSent
        verdict := some (.ok ()) }] ∧
      (renamed.state.router.dealer.dealer.registrations[7]?).map
        (fun found => (found.procedure, found.policy)) = some ("com.sum", .exact) := by
  decide +kernel

end Withdrawn

end Wamp
