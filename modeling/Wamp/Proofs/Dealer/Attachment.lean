import Wamp.Proofs.Dealer.Announcing

/-!
# Who is attached to a dealer

What the attachment and the departure of a session make of a dealer, and of a dealer with consumers.
No message that a session sends changes who is attached.
-/

namespace Wamp

namespace Dealer

variable (dealer : Dealer)

theorem addSession_of_new {session : Session} (hnew : dealer.isAttached session.id = false) :
    dealer.addSession session =
      .granted
        { dealer with
          sessions := dealer.sessions.insert session.id session
          held := dealer.held.insert session.id ∅ } () := by
  simp [addSession, hnew]

theorem addSession_of_attached {session : Session}
    (hattached : dealer.isAttached session.id = true) :
    dealer.addSession session = .refused dealer (.duplicateSession session.id) := by
  simp [addSession, hattached]

theorem answer_removeSession {session : Id} (hattached : dealer.isAttached session = true) :
    (dealer.removeSession session).answer = .ok () := by
  simp [removeSession, hattached]

theorem state_removeSession {session : Id} (hattached : dealer.isAttached session = true) :
    (dealer.removeSession session).state =
      ((dealer.withdrawn session).pendingOf session).foldl dropPending
        (dealer.withdrawn session) := by
  unfold removeSession
  rw [if_pos hattached]
  rfl

theorem removeSession_eq {session : Id} (hattached : dealer.isAttached session = true) :
    ∃ registrations directory pending invocationOf, (dealer.removeSession session).state =
      { dealer with
        sessions := dealer.sessions.erase session
        held := dealer.held.erase session
        registrations, directory, pending, invocationOf } := by
  obtain ⟨pending, invocationOf, hdropped⟩ := foldl_dropPending_eq (dealer.withdrawn session)
    ((dealer.withdrawn session).pendingOf session)
  obtain ⟨registrations, directory, hwithdrawn⟩ := dealer.withdrawn_eq session
  refine ⟨registrations, directory, pending, invocationOf, ?_⟩
  rw [dealer.state_removeSession hattached, hdropped, hwithdrawn]

theorem sessions_removeSession {session : Id} (hattached : dealer.isAttached session = true) :
    (dealer.removeSession session).state.sessions = dealer.sessions.erase session := by
  obtain ⟨_, _, _, _, hleft⟩ := dealer.removeSession_eq hattached
  rw [hleft]

theorem held_removeSession {session : Id} (hattached : dealer.isAttached session = true) :
    (dealer.removeSession session).state.held = dealer.held.erase session := by
  obtain ⟨_, _, _, _, hleft⟩ := dealer.removeSession_eq hattached
  rw [hleft]

theorem removeSession_of_stranger {session : Id} (hattached : dealer.isAttached session = false) :
    dealer.removeSession session = .refused dealer (.unknownSession session) := by
  simp [removeSession, hattached]

theorem sessions_receive (ambient : Ambient) (session : Id) (message : Message) :
    (dealer.receive ambient session message).state.sessions = dealer.sessions := by
  have hkept : (dealer.perform (.receive ambient session message)).state.sessions =
      dealer.sessions := by
    cases hanswer : (dealer.perform (.receive ambient session message)).answer with
    | error error => rw [(refuses_of_refused hanswer).2]
    | ok routed =>
        have hserves := serves_of_granted hanswer
        generalize (dealer.perform (.receive ambient session message)).state = state at hserves
        cases hserves with
        | unregistered _ _ request ids =>
            obtain ⟨_, _, hreleased⟩ := dealer.released_eq session ids request.registration
            rw [hreleased]
        | dispatched =>
            rw [launch_eq]
            rfl
        | closed => rw [launch_eq]
        | killed | finished | failed | skipped | aborted => exact dealer.sessions_dropPending _
        | _ => rfl
  exact hkept

end Dealer

namespace AnnouncingDealer

variable (announcing : AnnouncingDealer)

theorem addSession_of_attached {session : Session}
    (hattached : announcing.dealer.isAttached session.id = true) :
    announcing.addSession session = .refused announcing (.duplicateSession session.id) := by
  unfold addSession
  rw [announcing.dealer.addSession_of_attached hattached]
  rfl

theorem addSession_of_new {session : Session}
    (hnew : announcing.dealer.isAttached session.id = false) :
    announcing.addSession session =
      .granted
        { announcing with
          dealer := {
            announcing.dealer with
            sessions := announcing.dealer.sessions.insert session.id session
            held := announcing.dealer.held.insert session.id ∅ } } () := by
  unfold addSession
  rw [announcing.dealer.addSession_of_new hnew]
  rfl

end AnnouncingDealer

end Wamp
