import Wamp.Proofs.Dealer.Ledger
import Wamp.Proofs.Strangers

/-!
# Replies to different invocations

What the reply of a callee leads to depends on nothing but the entry of its invocation and the
session of the caller.  A reply to another invocation touches neither, so two replies to different
invocations can be handled in either order: each sends the same message, and the same dealer is
left.
-/

namespace Wamp.AnnouncingDealer

/-- What a reply leaves behind: the dealer as it was, or without the invocation. -/
def replied (announcing : AnnouncingDealer) (ends : Bool) (invocation : Id) : AnnouncingDealer :=
  { announcing with
    dealer := if ends then announcing.dealer.dropPending invocation else announcing.dealer }

/-- The entry of an invocation and the session of its caller fix what a reply sends and writes
down, and whether it ends the invocation. -/
theorem receive_reply {message : Message} {invocation : Id}
    (hreplies : message.repliesTo? = some invocation) (pending : Pending) (caller : Session) :
    ∃ ends sent entries, ∀ (announcing : AnnouncingDealer) (ambient : Ambient),
      announcing.dealer.pending[invocation]? = some pending →
      announcing.dealer.sessions[pending.caller]? = some caller →
      announcing.receive ambient pending.callee message =
        .granted (announcing.replied ends invocation) [sent] entries := by
  have hfor : ∀ {dealer : Dealer}, dealer.pending[invocation]? = some pending →
      dealer.pendingFor? pending.callee invocation = some pending :=
    fun hpending => Dealer.pendingFor?_eq_some.mpr ⟨hpending, rfl⟩
  cases message with
  | yield request =>
      obtain rfl := Option.some.inj hreplies
      cases hcanceled : pending.canceled with
      | true =>
          refine ⟨true, Dealer.failure caller.id .call pending.request ErrorUri.canceled, [], ?_⟩
          intro announcing ambient hpending hcaller
          simp only [receive, Dealer.receive, Dealer.yield, hfor hpending, hcaller, hcanceled]
          rfl
      | false =>
          generalize hprogress :
            (pending.receiveProgress && request.options.flag "progress") = progress
          refine ⟨!progress,
            { recipient := caller.id
              message := .result (Dealer.relayed pending caller request progress) },
            (Dealer.Note.yieldRouted pending.callee request.request pending.request
              progress).logged?.toList, ?_⟩
          intro announcing ambient hpending hcaller
          simp only [receive, Dealer.receive, Dealer.yield, hfor hpending, hcaller, hcanceled,
            hprogress]
          cases progress <;> rfl
  | error reply =>
      obtain ⟨hanswers, rfl⟩ := Message.repliesTo?_error.mp hreplies
      refine ⟨true,
        { recipient := pending.caller
          message := .error { reply with answers := .call, request := pending.request } },
        (Dealer.Note.invocationErrorRouted pending.callee reply.request pending.request
          reply.uri).logged?.toList, ?_⟩
      intro announcing ambient hpending hcaller
      have hattached := Dealer.isAttached_iff.mpr ⟨caller, hcaller⟩
      simp only [receive, Dealer.receive, Dealer.invocationError, if_pos hanswers, hfor hpending,
        if_pos hattached]
      rfl
  | _ => simp [Message.repliesTo?] at hreplies

theorem pending_replied {announcing : AnnouncingDealer} {first second : Id}
    (hne : first ≠ second) (ends : Bool) :
    (announcing.replied ends first).dealer.pending[second]? =
      announcing.dealer.pending[second]? := by
  cases ends with
  | true => simp [replied, Dealer.pending_dropPending, Std.ExtTreeMap.getElem?_erase, hne]
  | false => rfl

theorem sessions_replied (announcing : AnnouncingDealer) (ends : Bool) (invocation : Id) :
    (announcing.replied ends invocation).dealer.sessions = announcing.dealer.sessions := by
  cases ends with
  | true => exact announcing.dealer.sessions_dropPending invocation
  | false => rfl

theorem replied_comm (announcing : AnnouncingDealer) (ends quits : Bool) (first second : Id) :
    (announcing.replied ends first).replied quits second =
      (announcing.replied quits second).replied ends first := by
  cases ends <;> cases quits <;> simp [replied, Dealer.dropPending_comm]

/-- Replies to two invocations in flight, each from its callee, commute: each sends the same single
message whichever comes first, and the dealer that both leave is the same. -/
theorem replies_commute_of_run (board : Board) (operations : List Operation) {first second : Id}
    (hne : first ≠ second) {one other : Pending}
    (hone : (Run.final perform { board } operations).dealer.pending[first]? = some one)
    (hother : (Run.final perform { board } operations).dealer.pending[second]? = some other)
    {reply response : Message} (hreply : reply.repliesTo? = some first)
    (hresponse : response.repliesTo? = some second) (early late soon after : Ambient) :
    let announcing := Run.final perform { board } operations
    let forth := announcing.receive early one.callee reply
    let back := announcing.receive soon other.callee response
    ∃ sent answered,
      forth.answer = .ok [sent] ∧
      (forth.state.receive late other.callee response).answer = .ok [answered] ∧
      back.answer = .ok [answered] ∧
      (back.state.receive after one.callee reply).answer = .ok [sent] ∧
      (forth.state.receive late other.callee response).state =
        (back.state.receive after one.callee reply).state := by
  intro announcing forth back
  have hawaited : announcing.dealer.Awaited := by
    rw [dealer_final]
    exact Dealer.awaited_final (served operations)
  obtain ⟨caller, hcaller⟩ := Dealer.isAttached_iff.mp (hawaited.caller_attached _ _ hone)
  obtain ⟨client, hclient⟩ := Dealer.isAttached_iff.mp (hawaited.caller_attached _ _ hother)
  obtain ⟨ends, sent, entries, hsends⟩ := receive_reply hreply one caller
  obtain ⟨quits, answered, written, hanswers⟩ := receive_reply hresponse other client
  have hforth : forth = .granted (announcing.replied ends first) [sent] entries :=
    hsends announcing early hone hcaller
  have hback : back = .granted (announcing.replied quits second) [answered] written :=
    hanswers announcing soon hother hclient
  -- Neither reply touches what the other one depends on.
  have hlater : (announcing.replied ends first).receive late other.callee response =
      .granted ((announcing.replied ends first).replied quits second) [answered] written := by
    apply hanswers
    · rw [pending_replied hne, hother]
    · rw [sessions_replied, hclient]
  have hearlier : (announcing.replied quits second).receive after one.callee reply =
      .granted ((announcing.replied quits second).replied ends first) [sent] entries := by
    apply hsends
    · rw [pending_replied (Ne.symm hne), hone]
    · rw [sessions_replied, hcaller]
  rw [hforth, hback]
  simp only [Outcome.state_granted, Outcome.answer_granted, hlater, hearlier]
  exact ⟨sent, answered, rfl, rfl, rfl, rfl, replied_comm announcing ends quits first second⟩

/-- Two calls of one caller are in flight at one callee, and the second of them is killed. -/
def twoCalls : List Operation :=
  let member (id : Id) : Session :=
    { id, realm := "realm1", authid := "", authrole := "", staticSerializer := false }
  let ambient : Ambient := { drawnId := 7, drawnIndex := 0, now := "" }
  [.serve (.attach (member 1)), .serve (.attach (member 2)),
    .serve (.receive ambient 1
      (.register { request := 1, options := ∅, procedure := "com.sum" })),
    .serve (.receive ambient 2
      (.call { request := 1, options := (∅ : Dict).insert "receive_progress" (.boolean true),
               procedure := "com.sum" })),
    .serve (.receive ambient 2 (.call { request := 2, options := ∅, procedure := "com.sum" })),
    .serve (.receive ambient 2
      (.cancel { request := 2, options := (∅ : Dict).insert "mode" (.text "kill") }))]

def chunk : Message :=
  .yield { request := 1, options := (∅ : Dict).insert "progress" (.boolean true) }

def lastWord : Message :=
  .yield { request := 2, options := ∅ }

/-- A progressive result and the first yield after a kill, which is answered with an error. -/
theorem replies_commute_twoCalls :
    let announcing := Run.final perform { board := { queueSize := 0 } } twoCalls
    let ambient : Ambient := { drawnId := 7, drawnIndex := 0, now := "" }
    let forth := announcing.receive ambient 1 chunk
    let back := announcing.receive ambient 1 lastWord
    let sent : Routed := {
      recipient := 2
      message := .result
        { request := 1, details := (∅ : Dict).insert "progress" (.boolean true) } }
    let answered : Routed := {
      recipient := 2
      message := .error (.plain .call 2 "wamp.error.canceled") }
    forth.answer = .ok [sent] ∧
      (forth.state.receive ambient 1 lastWord).answer = .ok [answered] ∧
      back.answer = .ok [answered] ∧
      (back.state.receive ambient 1 chunk).answer = .ok [sent] ∧
      (forth.state.receive ambient 1 lastWord).state =
        (back.state.receive ambient 1 chunk).state := by
  intro announcing ambient forth back sent answered
  have hone : announcing.dealer.pending[1]? =
      some { callee := 1, registration := 7, policy := .exact, request := 1, caller := 2,
             receiveProgress := true, progress := false } := by
    decide +kernel
  have hother : announcing.dealer.pending[2]? =
      some { callee := 1, registration := 7, policy := .exact, request := 2, caller := 2,
             receiveProgress := false, progress := false, canceled := true } := by
    decide +kernel
  have hsent : forth.answer = .ok [sent] := by decide +kernel
  have hanswered : back.answer = .ok [answered] := by decide +kernel
  obtain ⟨first, second, hfirst, hlater, hsecond, hearlier, hstate⟩ :=
    replies_commute_of_run { queueSize := 0 } twoCalls (by decide) hone hother
      (show chunk.repliesTo? = some 1 from rfl) (show lastWord.repliesTo? = some 2 from rfl)
      ambient ambient ambient ambient
  obtain rfl : sent = first := List.singleton_inj.mp (Except.ok.inj (hsent.symm.trans hfirst))
  obtain rfl : answered = second :=
    List.singleton_inj.mp (Except.ok.inj (hanswered.symm.trans hsecond))
  exact ⟨hfirst, hlater, hsecond, hearlier, hstate⟩

end Wamp.AnnouncingDealer
