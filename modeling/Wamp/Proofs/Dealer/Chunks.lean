import Wamp.Proofs.Dealer.Routes
import Wamp.Proofs.Dealer.Undisturbed

/-!
# Calls in chunks

A caller may send its call in chunks.  All progressive chunks go to the callee that got the first
one, under one invocation, whatever has become of the registration in the meantime, and leave the
dealer as it is.  The chunk that closes the call goes to the same callee under an invocation of its
own.
-/

namespace Wamp

namespace Dealer

variable {dealer : Dealer} {invocation : Id} {pending : Pending}

section Chunk

variable {session : Id} {caller callee : Session} {request : Call}
  (hcaller : dealer.sessions[session]? = some caller)
  (hopen : dealer.openInvocation? (callKey session request) = some (invocation, pending))

include hcaller hopen

theorem receive_chunk (hcallee : dealer.sessions[pending.callee]? = some callee)
    (hprogress : request.options.flag "progress" = true) (ambient : Ambient) :
    dealer.receive ambient session (.call request) =
      .granted dealer
        [{ recipient := pending.callee
           message := .invocation
            (dealer.chunk caller callee pending.toRoute request invocation) }]
        [.callRouted session request.request request.procedure pending.registration invocation
          pending.callee] := by
  unfold callKey at hopen
  simp only [receive, call, hcaller, hopen, hprogress, if_true]
  exact handOver_of_attached hcallee session caller request invocation

theorem receive_closing (hcallee : dealer.sessions[pending.callee]? = some callee)
    (hclosing : request.options.flag "progress" = false) (ambient : Ambient) :
    dealer.receive ambient session (.call request) =
      .granted (dealer.launch (.ofCall session pending.toRoute request)).2
        [{ recipient := pending.callee
           message := .invocation
            (dealer.chunk caller callee pending.toRoute request dealer.ids.next.1) }]
        [.callRouted session request.request request.procedure pending.registration
          dealer.ids.next.1 pending.callee] := by
  unfold callKey at hopen
  have hattached := isAttached_iff.mpr ⟨callee, hcallee⟩
  simp only [receive, call, hcaller, hopen, hclosing, Bool.false_eq_true, if_false, hattached,
    if_true]
  exact dispatch_of_attached hcallee session caller request

theorem receive_stranded (hcallee : dealer.isAttached pending.callee = false) (ambient : Ambient) :
    dealer.receive ambient session (.call request) =
      .refused dealer (.calleeGone pending.callee) := by
  unfold callKey at hopen
  have hgone := not_isAttached_iff.mp (Bool.not_eq_true _ ▸ hcallee)
  simp only [receive, call, hcaller, hopen, handOver, hgone, hcallee, Bool.false_eq_true, if_false,
    ite_self]

end Chunk

/-- The call moves on to its next invocation, and no other call is touched. -/
theorem Indexed.launch_of_filed (hindexed : dealer.Indexed) {launched : Pending}
    (hpending : dealer.pending[invocation]? = some pending) (hkey : pending.key = launched.key) :
    (dealer.launch launched).2 =
      { dealer with
        ids := dealer.ids.next.2
        pending := (dealer.pending.erase invocation).insert dealer.ids.next.1 launched
        invocationOf := dealer.invocationOf.insert launched.key dealer.ids.next.1 } := by
  have hindex := hindexed.getElem?_key hpending
  rw [hkey] at hindex
  have hsuperseded : dealer.superseded launched.key = dealer.dropPending invocation := by
    unfold Dealer.superseded
    rw [hindex]
  rw [launch_eq, hsuperseded, pending_dropPending, hindexed.invocationOf_dropPending hpending, hkey,
    Table.insert_erase_self]

end Dealer

namespace AnnouncingDealer

variable {board : Board} {invocation : Id}

/-- An invocation in flight is what it was when it was put in flight, except that it may have been
marked as canceled. -/
theorem inFlight_kept {before after : List Operation}
    (hdrawn : (drawnIds board (before ++ after)).length < maxId.toNat) {pending found : Pending}
    (hpending : (inFlight board before)[invocation]? = some pending)
    (hfound : (inFlight board (before ++ after))[invocation]? = some found) :
    found = { pending with canceled := found.canceled } := by
  obtain ⟨-, hcounted, -⟩ := sound_final before (drawnIds_length_lt hdrawn)
  have hpassed := (hcounted invocation (Table.mem_of_getElem? hpending)).2
  have hkept := kept_final
    (fun dealer => invocation ≤ dealer.ids.last.toNat ∧
      ∀ later, dealer.pending[invocation]? = some later →
        later = { pending with canceled := later.canceled })
    ?_ hdrawn ⟨hpassed, ?_⟩
  · exact hkept.2 found hfound
  · rintro dealer operation - - hroom ⟨hpassed, hsame⟩
    refine ⟨Dealer.passed_perform hpassed hroom operation, fun later hlater => ?_⟩
    cases hanswer : (dealer.perform operation).answer with
    | error error =>
        rw [(Dealer.refuses_of_refused hanswer).2] at hlater
        exact hsame later hlater
    | ok routed =>
        obtain ⟨old, hold, hmarked⟩ := (Dealer.serves_of_granted hanswer).pending_origin hlater
          (Or.inr (Dealer.ne_next_of_passed hpassed hroom))
        rw [hsame old hold] at hmarked
        exact hmarked
  · intro later hlater
    obtain rfl : pending = later := Option.some.inj (hpending.symm.trans hlater)
    rfl

/-- A call that is in flight since its opening is what the opening made it. -/
theorem opening_kept {before after : List Operation} {ambient : Ambient} {caller callee : Id}
    {opening : Call} {message : Invocation}
    (hdrawn : (drawnIds board
      (before ++ .serve (.receive ambient caller (.call opening)) :: after)).length < maxId.toNat)
    (hanswer : ((Run.final perform { board } before).perform
      (.serve (.receive ambient caller (.call opening)))).answer =
        .ok [{ recipient := callee, message := .invocation message }])
    (hnew : message.request ∉ drawnIds board before)
    (hpending : message.request ∈
      inFlight board (before ++ .serve (.receive ambient caller (.call opening)) :: after)) :
    ∃ pending : Pending,
      (inFlight board (before ++ .serve (.receive ambient caller (.call opening)) :: after))[
        message.request]? = some pending ∧
      pending.callee = callee ∧ pending.registration = message.registration ∧
      pending.key = { caller, request := opening.request } ∧
      pending.progress = opening.options.flag "progress" := by
  have hbefore := drawnIds_length_lt hdrawn
  rw [List.append_cons] at hdrawn hpending ⊢
  have hfound := (Dealer.serves_of_granted hanswer).opened_of_invocation
  obtain ⟨route, rfl, hregistration, hopened⟩ :=
    hfound.resolve_left fun hold => hnew (mem_drawnIds hbefore hold)
  have hstart : (inFlight board (before ++ [.serve (.receive ambient caller (.call opening))]))[
      message.request]? = some (.ofCall caller route opening) := by
    rw [inFlight, Run.final_concat]
    exact hopened
  obtain ⟨pending, hpending⟩ := Table.mem_iff_exists.mp hpending
  refine ⟨pending, hpending, ?_⟩
  rw [inFlight_kept hdrawn hstart hpending]
  exact ⟨rfl, hregistration, rfl, rfl⟩

/-- A further progressive chunk of a call. -/
def IsChunk (caller request : Id) (operation : Operation) : Prop :=
  ∃ ambient chunk, operation = .serve (.receive ambient caller (.call chunk)) ∧
    chunk.request = request ∧ chunk.options.flag "progress" = true

/-- A call gives its invocation up for a new one, and nothing else changes. -/
def moveOn (announcing : AnnouncingDealer) (invocation next : Id) (pending : Pending) :
    AnnouncingDealer :=
  { announcing with
    dealer := { announcing.dealer with
      ids := announcing.dealer.ids.next.2
      pending := (announcing.dealer.pending.erase invocation).insert next pending
      invocationOf := announcing.dealer.invocationOf.insert pending.key next } }

/-- The new invocation of a call that has moved on is its only one. -/
structure MovesOn (announcing state : AnnouncingDealer) (invocation next : Id)
    (pending : Pending) : Prop where
  state_eq : state = announcing.moveOn invocation next pending
  gone : invocation ∉ state.dealer.pending
  opened : state.dealer.pending[next]? = some pending
  only : ∀ other found, state.dealer.pending[other]? = some found →
    (found.key = pending.key ↔ other = next)

theorem movesOn_moveOn {announcing : AnnouncingDealer} (hindexed : announcing.dealer.Indexed)
    {old pending : Pending} (hold : announcing.dealer.pending[invocation]? = some old)
    (hkey : old.key = pending.key) {next : Id} (hnew : next ∉ announcing.dealer.pending) :
    announcing.MovesOn (announcing.moveOn invocation next pending) invocation next pending where
  state_eq := rfl
  gone := by
    have hother : next ≠ invocation := by
      rintro rfl
      exact hnew (Table.mem_of_getElem? hold)
    simp [moveOn, hother]
  opened := Std.ExtTreeMap.getElem?_insert_self
  only other found hfound := by
    simp only [moveOn, Std.ExtTreeMap.getElem?_insert, Std.ExtTreeMap.getElem?_erase,
      Std.LawfulEqCmp.compare_eq_iff_eq] at hfound
    split at hfound
    next hsame => simp [← Option.some.inj hfound, ← hsame]
    next hdifferent =>
      split at hfound
      next => contradiction
      next hkept =>
        refine ⟨fun hcall => ?_, fun hsame => absurd hsame.symm hdifferent⟩
        exact absurd (hindexed.unique hold hfound (hkey.trans hcall.symm)) hkept

/-! ## A call that is open -/

section Open

variable {announcing : AnnouncingDealer} {caller request : Id} {pending : Pending}
  (hlinked : announcing.dealer.Linked)
  (hpending : announcing.dealer.pending[invocation]? = some pending)
  (hprogress : pending.progress = true) (hkey : pending.key = { caller, request })

include hlinked hpending hprogress hkey

/-- Whoever has a call open is attached, and the call is found by its request. -/
theorem exists_caller_of_open {call : Call} (hcall : call.request = request) :
    (∃ client, announcing.dealer.sessions[caller]? = some client) ∧
      announcing.dealer.openInvocation? (Dealer.callKey caller call) =
        some (invocation, pending) := by
  have hcaller : pending.caller = caller := congrArg CallKey.caller hkey
  have hsame : Dealer.callKey caller call = pending.key := by rw [hkey, ← hcall]; rfl
  rw [hsame]
  refine ⟨?_, Dealer.openInvocation?_of_filed (hlinked.indexed.getElem?_key hpending) hpending
    hprogress⟩
  rw [← hcaller]
  exact Dealer.isAttached_iff.mp (hlinked.caller_attached invocation pending hpending)

theorem chunk_of_open {callee : Session}
    (hcallee : announcing.dealer.sessions[pending.callee]? = some callee) {operation : Operation}
    (hchunk : IsChunk caller request operation) :
    (announcing.perform operation).state = announcing ∧
      ∃ body : Invocation,
        (announcing.perform operation).answer =
          .ok [{ recipient := pending.callee, message := .invocation body }] ∧
        body.request = invocation ∧ body.registration = pending.registration := by
  obtain ⟨ambient, chunk, rfl, hrequest, hmore⟩ := hchunk
  obtain ⟨⟨client, hclient⟩, hopen⟩ :=
    exists_caller_of_open hlinked hpending hprogress hkey hrequest
  have hreceive := congrArg (absorb announcing.board)
    (Dealer.receive_chunk hclient hopen hcallee hmore ambient)
  exact ⟨congrArg Outcome.state hreceive, _, congrArg Outcome.answer hreceive, rfl, rfl⟩

theorem closing_of_open (hfresh : announcing.dealer.HasFreshId) {callee : Session}
    (hcallee : announcing.dealer.sessions[pending.callee]? = some callee) (ambient : Ambient)
    {closing : Call} (hrequest : closing.request = request)
    (hlast : closing.options.flag "progress" = false) :
    ∃ body : Invocation,
      (announcing.perform (.serve (.receive ambient caller (.call closing)))).answer =
        .ok [{ recipient := pending.callee, message := .invocation body }] ∧
      body.registration = pending.registration ∧ body.request = announcing.dealer.ids.next.1 ∧
      announcing.MovesOn
        (announcing.perform (.serve (.receive ambient caller (.call closing)))).state invocation
        body.request (.ofCall caller pending.toRoute closing) := by
  obtain ⟨⟨client, hclient⟩, hopen⟩ :=
    exists_caller_of_open hlinked hpending hprogress hkey hrequest
  have hreceive := congrArg (absorb announcing.board)
    (Dealer.receive_closing hclient hopen hcallee hlast ambient)
  have hsame : pending.key = (Pending.ofCall caller pending.toRoute closing).key := by
    rw [hkey, ← hrequest]
    rfl
  rw [hlinked.indexed.launch_of_filed hpending hsame] at hreceive
  have hstate : (announcing.perform (.serve (.receive ambient caller (.call closing)))).state =
      announcing.moveOn invocation announcing.dealer.ids.next.1
        (.ofCall caller pending.toRoute closing) := congrArg Outcome.state hreceive
  rw [hstate]
  exact ⟨_, congrArg Outcome.answer hreceive, rfl, rfl,
    movesOn_moveOn hlinked.indexed hpending hsame hfresh⟩

theorem stranded_of_open (hgone : announcing.dealer.isAttached pending.callee = false)
    (ambient : Ambient) {call : Call} (hrequest : call.request = request) :
    announcing.perform (.serve (.receive ambient caller (.call call))) =
      .refused announcing (.calleeGone pending.callee) := by
  obtain ⟨⟨client, hclient⟩, hopen⟩ :=
    exists_caller_of_open hlinked hpending hprogress hkey hrequest
  exact congrArg (absorb announcing.board)
    (Dealer.receive_stranded hclient hopen hgone ambient)

end Open

/-- Once a call has been put in flight by a progressive chunk, it stays with its callee as long as
the invocation is in flight, whatever has become of the registration.  Any number of progressive
chunks continues the invocation and changes nothing, and the chunk without progress moves the call
to a new invocation.  If the callee has gone, all of them are refused. -/
theorem chunks_of_run (board : Board) (before : List Operation) (ambient : Ambient) (caller : Id)
    (opening : Call) (callee : Id) (message : Invocation) (after : List Operation)
    (hdrawn : (drawnIds board
      (before ++ .serve (.receive ambient caller (.call opening)) :: after)).length < maxId.toNat)
    (hanswer : ((Run.final perform { board } before).perform
      (.serve (.receive ambient caller (.call opening)))).answer =
        .ok [{ recipient := callee, message := .invocation message }])
    (hnew : message.request ∉ drawnIds board before)
    (hprogress : opening.options.flag "progress" = true)
    (hpending : message.request ∈
      inFlight board (before ++ .serve (.receive ambient caller (.call opening)) :: after)) :
    let operations := before ++ .serve (.receive ambient caller (.call opening)) :: after
    let announcing := Run.final perform { board } operations
    (announcing.dealer.isAttached callee = true →
      (∀ chunks, (∀ chunk ∈ chunks, IsChunk caller opening.request chunk) →
        Run.final perform announcing chunks = announcing ∧
        ∀ occurrence ∈ Run.history perform announcing chunks, ∃ body : Invocation,
          occurrence.answer = .ok [{ recipient := callee, message := .invocation body }] ∧
          body.request = message.request ∧ body.registration = message.registration) ∧
      ∀ ambient (closing : Call), closing.request = opening.request →
        closing.options.flag "progress" = false →
        let last := Operation.serve (.receive ambient caller (.call closing))
        ∃ (route : Route) (body : Invocation),
          route.callee = callee ∧ route.registration = message.registration ∧
          (announcing.perform last).answer =
            .ok [{ recipient := callee, message := .invocation body }] ∧
          body.registration = message.registration ∧
          drawnIds board (operations ++ [last]) = drawnIds board operations ++ [body.request] ∧
          body.request ∉ drawnIds board operations ∧ body.request ∉ announcing.dealer.pending ∧
          announcing.MovesOn (announcing.perform last).state message.request body.request
            (.ofCall caller route closing)) ∧
    (announcing.dealer.isAttached callee = false →
      ∀ ambient (call : Call), call.request = opening.request →
        announcing.perform (.serve (.receive ambient caller (.call call))) =
          .refused announcing (.calleeGone callee)) := by
  intro operations announcing
  obtain ⟨hlinked, hcounted, hroom⟩ := sound_final operations hdrawn
  obtain ⟨pending, hpending, rfl, hregistration, hkey, hflag⟩ :=
    opening_kept hdrawn hanswer hnew hpending
  have hopen : pending.progress = true := hflag.trans hprogress
  refine ⟨fun hattached => ?_, fun hgone ambient call hrequest =>
    stranded_of_open hlinked hpending hopen hkey hgone ambient hrequest⟩
  obtain ⟨client, hcallee⟩ := Dealer.isAttached_iff.mp hattached
  constructor
  · intro chunks hchunks
    have hidle : ∀ chunk ∈ chunks, (announcing.perform chunk).state = announcing :=
      fun chunk hmem =>
        (chunk_of_open hlinked hpending hopen hkey hcallee (hchunks chunk hmem)).1
    obtain ⟨hfinal, hhistory⟩ := Run.final_of_idle hidle
    refine ⟨hfinal, fun occurrence hmem => ?_⟩
    rw [hhistory, List.mem_map] at hmem
    obtain ⟨chunk, hmem, rfl⟩ := hmem
    obtain ⟨-, body, hbody, hrequest, hsame⟩ :=
      chunk_of_open hlinked hpending hopen hkey hcallee (hchunks chunk hmem)
    exact ⟨body, hbody, hrequest, hsame.trans hregistration⟩
  · intro ambient closing hrequest hclosing last
    have hfresh := hcounted.hasFreshId hroom
    obtain ⟨body, hbody, hsame, hnext, hmoves⟩ := closing_of_open hlinked hpending hopen hkey hfresh
      hcallee ambient hrequest hclosing
    have hids : (announcing.perform last).state.dealer.ids = announcing.dealer.ids.next.2 := by
      rw [hmoves.state_eq]
      rfl
    refine ⟨pending.toRoute, body, rfl, hregistration, hbody, hsame.trans hregistration, ?_, ?_, ?_,
      hmoves⟩
    · rw [hnext]
      exact drawnIds_concat hids
    · rw [hnext]
      exact next_not_mem_drawnIds hdrawn
    · rw [hnext]
      exact hfresh

/-- Session 2 sends one chunk of its call of request 1. -/
def sending (options : Dict) : Operation :=
  .serve (.receive { drawnId := 7, drawnIndex := 0, now := "" } 2
    (.call { request := 1, options, procedure := "com.sum" }))

/-- The callee gives its registration back while the call is open. -/
theorem chunks_withdrawn :
    let progress : Dict := (∅ : Dict).insert "progress" (.boolean true)
    let withdrawing : Operation := .serve (.receive { drawnId := 7, drawnIndex := 0, now := "" } 1
      (.unregister { request := 2, registration := 7 }))
    let announcing := Run.final perform { board := { queueSize := 0 } }
      (openCall ++ sending progress :: [withdrawing])
    announcing.dealer.registrations = ∅ ∧
      Run.final perform announcing [sending progress, sending progress] = announcing ∧
      ∃ body : Invocation, body.registration = 7 ∧ body.request = 2 ∧
        (announcing.perform (sending ∅)).answer =
          .ok [{ recipient := 1, message := .invocation body }] := by
  intro progress withdrawing announcing
  have hdrawn : drawnIds { queueSize := 0 } (openCall ++ sending progress :: [withdrawing]) =
      [1] := by decide +kernel
  have hlength : (drawnIds { queueSize := 0 }
      (openCall ++ sending progress :: [withdrawing])).length < maxId.toNat := by
    rw [hdrawn]
    decide
  obtain ⟨hattached, -⟩ := chunks_of_run { queueSize := 0 } openCall
    { drawnId := 7, drawnIndex := 0, now := "" } 2
    { request := 1, options := progress, procedure := "com.sum" } 1
    { request := 1, registration := 7, details := progress } [withdrawing] hlength
    (by decide +kernel) (by decide +kernel) (by decide +kernel) (by decide +kernel)
  obtain ⟨hchunks, hclosing⟩ := hattached (by decide +kernel)
  obtain ⟨route, body, -, -, hbody, hregistration, hnext, -⟩ :=
    hclosing { drawnId := 7, drawnIndex := 0, now := "" }
      { request := 1, options := ∅, procedure := "com.sum" } rfl (by decide +kernel)
  have hidle := hchunks [sending progress, sending progress] (by
    intro chunk hmem
    simp only [List.mem_cons, List.not_mem_nil, or_false, or_self] at hmem
    exact ⟨_, _, hmem, rfl, by decide +kernel⟩)
  have hboth : drawnIds { queueSize := 0 }
      ((openCall ++ sending progress :: [withdrawing]) ++ [sending ∅]) = [1, 2] := by
    decide +kernel
  have hrequest : body.request = 2 := by
    have hsame := (hboth.symm.trans hnext).trans (congrArg (· ++ [body.request]) hdrawn)
    simpa using hsame.symm
  exact ⟨by decide +kernel, hidle.1, body, hregistration, hrequest, hbody⟩

end AnnouncingDealer

end Wamp
