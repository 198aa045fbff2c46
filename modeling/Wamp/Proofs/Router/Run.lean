import Wamp.Proofs.Broker.Attachment
import Wamp.Proofs.Dealer.Attachment
import Wamp.Proofs.Refusals

/-!
# Runs of a router

Sessions attach to a router and detach from it, and what they send is routed.  Broker and dealer
know the same sessions throughout, so that both accept a session or neither does, and an operation
of the router amounts to one operation of the broker at most.
-/

namespace Wamp

namespace Router

inductive Operation where
  | attach (session : Session)
  | detach (session : Id)
  | receive (ambient : Ambient) (session : Id) (message : Message)

/-- Performs an operation; the answer is what has to be delivered. -/
def perform (router : Router) : Operation → Reply (List Routed)
  | .attach session =>
    let outcome := router.attach session
    { outcome with answer := outcome.answer.map fun () => [] }
  | .detach session =>
    let outcome := router.detach session
    { outcome with answer := outcome.answer.map fun () => [] }
  | .receive ambient session message => router.receive ambient session message

/-- The subscription identifiers that a run of a new router draws. -/
def drawnIds (realm : String) (settings : Settings) (operations : List Operation) : List Id :=
  Run.drawn perform (fun router => router.broker.ids) (ofSettings realm settings) operations

/-- Broker and dealer know the same sessions. -/
def Together (router : Router) : Prop :=
  router.broker.sessions = router.dealer.dealer.sessions

variable {router : Router}

theorem Together.isAttached_eq (htogether : router.Together) (session : Id) :
    router.dealer.dealer.isAttached session = router.broker.isAttached session := by
  unfold Dealer.isAttached Broker.isAttached
  rw [htogether]

theorem broker_receive (router : Router) (ambient : Ambient) (session : Id) (message : Message) :
    (router.receive ambient session message).state.broker =
      match message with
      | .subscribe _ | .unsubscribe _ => (router.broker.receive session message).state
      | _ => router.broker := by
  cases message with
  | publish request => exact router.broker.state_publish ambient session request
  | _ => rfl

theorem dealer_receive (router : Router) (ambient : Ambient) (session : Id) (message : Message) :
    (router.receive ambient session message).state.dealer.dealer.sessions =
      router.dealer.dealer.sessions := by
  cases message with
  | register | unregister | call | yield | cancel | error =>
      exact router.dealer.dealer.sessions_receive ambient session _
  | _ => rfl

theorem Together.addSession_of_attached (htogether : router.Together) {session : Session}
    (hattached : router.broker.isAttached session.id = true) :
    (router.dealer.addSession session).state = router.dealer ∧
      (router.dealer.addSession session).answer = .error (.duplicateSession session.id) := by
  rw [router.dealer.addSession_of_attached ((htogether.isAttached_eq session.id).trans hattached)]
  exact ⟨rfl, rfl⟩

theorem Together.addSession_of_new (htogether : router.Together) {session : Session}
    (hnew : router.broker.isAttached session.id = false) :
    (router.dealer.addSession session).state.dealer =
        { router.dealer.dealer with
          sessions := router.dealer.dealer.sessions.insert session.id session
          held := router.dealer.dealer.held.insert session.id ∅ } ∧
      (router.dealer.addSession session).answer = .ok () := by
  rw [router.dealer.addSession_of_new ((htogether.isAttached_eq session.id).trans hnew)]
  exact ⟨rfl, rfl⟩

/-- What becomes of a router when a session attaches: both components get it, or neither does. -/
inductive Attaches (router : Router) (session : Session) (outcome : Reply Unit) : Prop where
  | refused (error : RouterError) (hanswer : outcome.answer = .error error)
      (hstate : outcome.state = router)
      (hcause : session.realm ≠ router.realm ∨ router.broker.isAttached session.id = true) :
      Attaches router session outcome
  | granted (hrealm : session.realm = router.realm)
      (hnew : router.broker.isAttached session.id = false) (hanswer : outcome.answer = .ok ())
      (hstate : outcome.state =
        { router with
          broker := (router.broker.addSession session).state
          dealer := (router.dealer.addSession session).state }) :
      Attaches router session outcome

theorem Together.attaches (htogether : router.Together) (session : Session) :
    router.Attaches session (router.attach session) := by
  by_cases hrealm : session.realm = router.realm
  · cases hattached : router.broker.isAttached session.id with
    | true =>
        unfold Router.attach
        rw [if_pos hrealm]
        simp only [router.broker.addSession_of_attached hattached, Outcome.answer_refused]
        exact .refused _ rfl rfl (Or.inr hattached)
    | false =>
        obtain ⟨-, hjoined⟩ := htogether.addSession_of_new hattached
        unfold Router.attach
        rw [if_pos hrealm]
        simp only [router.broker.addSession_of_new hattached, hjoined, Outcome.answer_granted]
        refine .granted hrealm hattached rfl ?_
        rw [router.broker.addSession_of_new hattached]
  · unfold Router.attach
    rw [if_neg hrealm]
    exact .refused _ rfl rfl (Or.inl hrealm)

/-- A session attaches to both components, or the router refuses it and stays as it is. -/
theorem Together.attach (htogether : router.Together) (session : Session) :
    (∃ error, (router.attach session).answer = .error error ∧
        (router.attach session).state = router) ∨
      (router.attach session).answer = .ok () ∧
        (router.attach session).state.broker = (router.broker.addSession session).state ∧
        (router.attach session).state.Together := by
  have hattaches := htogether.attaches session
  generalize router.attach session = outcome at hattaches ⊢
  cases hattaches with
  | refused error hanswer hstate => exact Or.inl ⟨error, hanswer, hstate⟩
  | granted hrealm hnew hanswer hstate =>
      obtain ⟨hdealer, -⟩ := htogether.addSession_of_new hnew
      right
      rw [hstate]
      refine ⟨hanswer, rfl, ?_⟩
      unfold Together
      rw [hdealer, router.broker.addSession_of_new hnew]
      exact congrArg (fun sessions => sessions.insert session.id session) htogether

theorem state_detach (router : Router) (session : Id) :
    (router.detach session).state =
      { router with
        broker := (router.broker.removeSession session).state
        dealer := (router.dealer.removeSession session).state } := by
  unfold detach
  simp only
  split <;> rfl

theorem Together.answer_detach (htogether : router.Together) {session : Id}
    (hattached : router.broker.isAttached session = true) :
    (router.detach session).answer = .ok () := by
  have hleft := router.broker.answer_removeSession hattached
  have hgone : (router.dealer.removeSession session).answer = .ok () :=
    router.dealer.dealer.answer_removeSession
      ((htogether.isAttached_eq session).trans hattached)
  unfold Router.detach
  simp only [hleft, hgone]

/-- A session detaches from both components, or the router refuses it and stays as it is. -/
theorem Together.detach (htogether : router.Together) (session : Id) :
    (∃ error, (router.detach session).answer = .error error ∧
        (router.detach session).state = router) ∨
      router.broker.isAttached session = true ∧ (router.detach session).answer = .ok () ∧
        (router.detach session).state.broker = (router.broker.removeSession session).state ∧
        (router.detach session).state.Together := by
  have hsame := htogether.isAttached_eq session
  cases hattached : router.broker.isAttached session with
  | false =>
      rw [hattached] at hsame
      have hgone : router.dealer.removeSession session = AnnouncingDealer.absorb _ _ :=
        congrArg (AnnouncingDealer.absorb router.dealer.board)
          (router.dealer.dealer.removeSession_of_stranger hsame)
      unfold Router.detach
      simp only [router.broker.removeSession_of_stranger hattached, hgone, Outcome.answer_refused]
      exact Or.inl ⟨_, rfl, rfl⟩
  | true =>
      rw [hattached] at hsame
      have hanswer := htogether.answer_detach hattached
      have hstate := router.state_detach session
      right
      refine ⟨rfl, hanswer, by rw [hstate], ?_⟩
      rw [hstate]
      have hbroker := router.broker.sessions_removeSession hattached
      have hdealer := router.dealer.dealer.sessions_removeSession hsame
      refine hbroker.trans (Eq.trans ?_ hdealer.symm)
      exact congrArg (fun sessions => sessions.erase session) htogether

theorem sessions_receive (router : Router) (ambient : Ambient) (session : Id)
    (message : Message) :
    (router.receive ambient session message).state.broker.sessions = router.broker.sessions := by
  rw [broker_receive]
  cases message with
  | subscribe | unsubscribe => exact router.broker.sessions_receive session _
  | _ => rfl

theorem Together.receive (htogether : router.Together) (ambient : Ambient) (session : Id)
    (message : Message) : (router.receive ambient session message).state.Together := by
  unfold Together
  rw [sessions_receive, dealer_receive]
  exact htogether

theorem Together.perform (htogether : router.Together) (operation : Operation) :
    (router.perform operation).state.Together := by
  cases operation with
  | attach session =>
      rcases htogether.attach session with ⟨error, -, hstate⟩ | ⟨-, -, hstate⟩
      · have hsame : (router.perform (.attach session)).state = router := hstate
        rw [hsame]
        exact htogether
      · exact hstate
  | detach session =>
      rcases htogether.detach session with ⟨error, -, hstate⟩ | ⟨-, -, -, hstate⟩
      · have hsame : (router.perform (.detach session)).state = router := hstate
        rw [hsame]
        exact htogether
      · exact hstate
  | receive ambient session message => exact htogether.receive ambient session message

/-- An operation that is refused leaves the router as it is. -/
theorem Together.perform_of_error (htogether : router.Together) {operation : Operation}
    {error : RouterError} (hanswer : (router.perform operation).answer = .error error) :
    (router.perform operation).state = router := by
  cases operation with
  | attach session =>
      rcases htogether.attach session with ⟨_, -, hstate⟩ | ⟨hgranted, -⟩
      · exact hstate
      · simp [Router.perform, hgranted, Except.map] at hanswer
  | detach session =>
      rcases htogether.detach session with ⟨_, -, hstate⟩ | ⟨-, hgranted, -⟩
      · exact hstate
      · simp [Router.perform, hgranted, Except.map] at hanswer
  | receive ambient session message =>
      exact congrArg Outcome.state (router.receive_of_error hanswer)

theorem together_final (realm : String) (settings : Settings) (operations : List Operation) :
    (Run.final perform (ofSettings realm settings) operations).Together := by
  have hstart : (ofSettings realm settings).Together := rfl
  exact Run.final_induction Together (fun _ operation htogether => htogether.perform operation)
    hstart operations

/-! ## Subscription identifiers -/

theorem countsUp : Run.CountsUp perform fun router : Router => router.broker.ids := by
  intro router operation
  cases operation with
  | attach session =>
      left
      simp only [perform, attach]
      split
      next =>
        split
        next => exact router.broker.ids_addSession session
        next =>
          split
          next =>
            exact (Broker.ids_removeSession _ session.id).trans
              (router.broker.ids_addSession session)
          next => exact router.broker.ids_addSession session
      next => rfl
  | detach session =>
      left
      simp only [perform, detach]
      split <;> exact router.broker.ids_removeSession session
  | receive ambient session message =>
      simp only [perform]
      rw [broker_receive]
      cases message with
      | subscribe | unsubscribe => exact Broker.countsUp router.broker (.receive session _)
      | _ => exact Or.inl rfl

end Router

end Wamp
