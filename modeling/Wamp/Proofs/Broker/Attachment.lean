import Wamp.Proofs.Broker.Tables

/-!
# Who is attached to a broker

The attached sessions are listed twice, with their details and with what they hold.  Each operation
changes both lists alike, so that exactly the attached sessions have a row among the holdings.  A
broker looks a session up in one of the two before anything else, and refuses the others.
-/

namespace Wamp.Broker

section Sessions

variable (broker : Broker)

theorem addSession_of_new {session : Session} (hnew : broker.isAttached session.id = false) :
    broker.addSession session =
      .granted
        { broker with
          sessions := broker.sessions.insert session.id session
          held := broker.held.insert session.id ∅ } () := by
  simp [addSession, hnew]

theorem addSession_of_attached {session : Session}
    (hattached : broker.isAttached session.id = true) :
    broker.addSession session = .refused broker (.duplicateSession session.id) := by
  simp [addSession, hattached]

theorem answer_removeSession {session : Id} (hattached : broker.isAttached session = true) :
    (broker.removeSession session).answer = .ok () := by
  simp [removeSession, hattached]

theorem sessions_removeSession {session : Id} (hattached : broker.isAttached session = true) :
    (broker.removeSession session).state.sessions = broker.sessions.erase session := by
  obtain ⟨_, _, hleft⟩ := broker.departed_eq session (broker.held.getD session ∅).toList
  rw [state_removeSession hattached, hleft]

theorem removeSession_of_stranger {session : Id} (hattached : broker.isAttached session = false) :
    broker.removeSession session = .refused broker (.unknownSession session) := by
  simp [removeSession, hattached]

theorem sessions_receive (session : Id) (message : Message) :
    (broker.receive session message).state.sessions = broker.sessions := by
  cases message with
  | subscribe request =>
      simp only [receive, subscribe]
      split
      next =>
        simp only [Outcome.state_granted, subscriptionFor]
        split <;> rfl
      next => rfl
  | unsubscribe request =>
      simp only [receive, unsubscribe]
      split
      next => rfl
      next row _ =>
        split
        next =>
          obtain ⟨_, _, hleft⟩ := removeSubscriber_eq
            { broker with held := broker.held.insert session (row.erase request.subscription) }
            session request.subscription
          simp only [Outcome.state_granted]
          rw [hleft]
        next => rfl
  | _ => rfl

end Sessions

/-! ## What becomes of the holdings -/

section Holdings

variable {broker : Broker} {session : Id}

theorem held_removeSession (hattached : broker.isAttached session = true) :
    (broker.removeSession session).state.held = broker.held.erase session := by
  obtain ⟨_, _, hleft⟩ := broker.departed_eq session (broker.held.getD session ∅).toList
  rw [state_removeSession hattached, hleft]

theorem held_subscribe (hattached : broker.isAttached session = true) (request : Subscribe) :
    ∃ id,
      (broker.subscribe session request).answer = .ok {
        recipient := session
        message := .subscribed { request := request.request, subscription := id } } ∧
      (broker.subscribe session request).state.held =
        broker.held.insert session ((broker.held.getD session ∅).insert id) := by
  refine ⟨(broker.subscriptionFor request).1, ?_, ?_⟩
  · simp only [subscribe, if_pos hattached, Outcome.answer_granted]
  · have hkept : (broker.subscriptionFor request).2.1.held = broker.held := by
      unfold subscriptionFor
      split <;> rfl
    simp only [subscribe, if_pos hattached, Outcome.state_granted]
    rw [hkept]

theorem held_unsubscribe {row : Std.ExtTreeSet Id} (hrow : broker.held[session]? = some row)
    {request : Unsubscribe} (hheld : request.subscription ∈ row) :
    (broker.unsubscribe session request).answer = .ok {
      recipient := session
      message := .unsubscribed { request := request.request } } ∧
    (broker.unsubscribe session request).state.held =
      broker.held.insert session (row.erase request.subscription) := by
  obtain ⟨_, _, hleft⟩ := removeSubscriber_eq
    { broker with held := broker.held.insert session (row.erase request.subscription) }
    session request.subscription
  have hcontains : row.contains request.subscription = true := hheld
  constructor
  · simp only [unsubscribe, hrow, if_pos hcontains, Outcome.answer_granted]
  · simp only [unsubscribe, hrow, if_pos hcontains, Outcome.state_granted]
    rw [hleft]

end Holdings

/-! ## The two lists of sessions -/

/-- Exactly the attached sessions have a row among the holdings. -/
def Rostered (broker : Broker) : Prop :=
  ∀ session, session ∈ broker.held ↔ broker.isAttached session = true

section Rostered

variable {broker : Broker}

theorem rostered_empty : ({} : Broker).Rostered := by
  simp [Rostered, isAttached]

theorem Rostered.addSession (hrostered : broker.Rostered) (session : Session) :
    (broker.addSession session).state.Rostered := by
  cases hattached : broker.isAttached session.id with
  | true =>
      rw [broker.addSession_of_attached hattached]
      exact hrostered
  | false =>
      intro other
      have hother := hrostered other
      simp only [isAttached, Std.ExtTreeMap.contains_iff_mem] at hother
      rw [broker.addSession_of_new hattached]
      simp [isAttached, hother]

theorem Rostered.removeSession (hrostered : broker.Rostered) (session : Id) :
    (broker.removeSession session).state.Rostered := by
  cases hattached : broker.isAttached session with
  | false =>
      rw [broker.removeSession_of_stranger hattached]
      exact hrostered
  | true =>
      intro other
      have hother := hrostered other
      simp only [isAttached, Std.ExtTreeMap.contains_iff_mem] at hother
      unfold isAttached
      rw [held_removeSession hattached, broker.sessions_removeSession hattached]
      simp [hother]

/-- A message changes the row of its sender at most, and adds none. -/
theorem Rostered.receive (hrostered : broker.Rostered) (session : Id) (message : Message) :
    (broker.receive session message).state.Rostered := by
  have hrows : ∀ other, other ∈ (broker.receive session message).state.held ↔
      other ∈ broker.held := by
    intro other
    cases message with
    | subscribe request =>
        cases hattached : broker.isAttached session with
        | false => simp [Broker.receive, subscribe, hattached]
        | true =>
            have hrow : session ∈ broker.held := (hrostered session).mpr hattached
            obtain ⟨id, -, hheld⟩ := held_subscribe hattached request
            simp only [Broker.receive]
            rw [hheld, Table.mem_insert_iff hrow]
    | unsubscribe request =>
        cases hrow : broker.held[session]? with
        | none => simp [Broker.receive, unsubscribe, hrow]
        | some row =>
            have hmem : session ∈ broker.held := Table.mem_of_getElem? hrow
            by_cases hheld : request.subscription ∈ row
            · simp only [Broker.receive]
              rw [(held_unsubscribe hrow hheld).2, Table.mem_insert_iff hmem]
            · have hcontains : ¬ row.contains request.subscription = true := hheld
              simp only [Broker.receive, unsubscribe, hrow, if_neg hcontains,
                Outcome.state_refused]
              exact Table.mem_insert_iff hmem _ other
    | _ => rfl
  intro other
  unfold isAttached
  rw [hrows, broker.sessions_receive]
  exact hrostered other

theorem Rostered.perform (hrostered : broker.Rostered) (operation : Operation) :
    (broker.perform operation).state.Rostered := by
  cases operation with
  | attach session => exact hrostered.addSession session
  | detach session => exact hrostered.removeSession session
  | receive session message => exact hrostered.receive session message
  | publish ambient session request =>
      simp only [Broker.perform]
      rw [state_publish]
      exact hrostered
  | disclose on => exact hrostered

/-- No identifier has to be fresh for this. -/
theorem rostered_final (operations : List Operation) :
    (Run.final perform {} operations).Rostered :=
  Run.final_induction Rostered (fun _ operation hrostered => hrostered.perform operation)
    rostered_empty operations

/-- A session is kept under its own identifier. -/
theorem session_id_final (operations : List Operation) :
    ∀ (id : Id) (session : Session),
      (Run.final perform {} operations).sessions[id]? = some session → session.id = id := by
  refine Run.final_induction (fun broker : Broker =>
    ∀ (id : Id) (session : Session), broker.sessions[id]? = some session → session.id = id)
    ?_ (by simp) operations
  intro broker operation hkept
  cases operation with
  | attach session =>
      simp only [perform]
      cases hattached : broker.isAttached session.id with
      | true =>
          rw [broker.addSession_of_attached hattached]
          exact hkept
      | false =>
          rw [broker.addSession_of_new hattached]
          exact Table.forall_insert hkept rfl
  | detach session =>
      simp only [perform]
      cases hattached : broker.isAttached session with
      | true =>
          rw [broker.sessions_removeSession hattached]
          exact Table.forall_erase hkept session
      | false =>
          rw [broker.removeSession_of_stranger hattached]
          exact hkept
  | receive session message =>
      simp only [perform]
      rw [broker.sessions_receive]
      exact hkept
  | publish ambient session request =>
      simp only [perform]
      rw [broker.state_publish]
      exact hkept
  | disclose on => exact hkept

/-! ## Strangers -/

theorem Rostered.refuses_receive (hrostered : broker.Rostered) {session : Id}
    (hstranger : broker.isAttached session = false) (message : Message) :
    ∃ error, broker.receive session message = .refused broker error := by
  cases message with
  | subscribe request =>
      refine ⟨.unknownSession session, ?_⟩
      simp [Broker.receive, subscribe, hstranger]
  | unsubscribe request =>
      have hrow : broker.held[session]? = none := by
        apply Std.ExtTreeMap.getElem?_eq_none
        rw [hrostered, hstranger]
        exact Bool.false_ne_true
      refine ⟨.unknownSession session, ?_⟩
      simp only [Broker.receive, unsubscribe, hrow]
  | _ => exact ⟨_, rfl⟩

theorem refuses_publish {session : Id} (hstranger : broker.isAttached session = false)
    (ambient : Ambient) (request : Publish) :
    ∃ error, broker.publish ambient session request = .refused broker error := by
  have hnone : broker.sessions[session]? = none := by
    apply Std.ExtTreeMap.getElem?_eq_none
    rw [← Std.ExtTreeMap.contains_iff_mem]
    unfold isAttached at hstranger
    rw [hstranger]
    exact Bool.false_ne_true
  refine ⟨.unknownSession session, ?_⟩
  simp only [publish, hnone]

theorem Rostered.attached_of_receive (hrostered : broker.Rostered) {session : Id}
    {message : Message} {reply : Routed}
    (hanswer : (broker.receive session message).answer = .ok reply) :
    broker.isAttached session = true := by
  cases hattached : broker.isAttached session with
  | true => rfl
  | false =>
      obtain ⟨error, hrefused⟩ := hrostered.refuses_receive hattached message
      simp [hrefused] at hanswer

theorem attached_of_publish {ambient : Ambient} {session : Id} {request : Publish}
    {publication : Publication}
    (hanswer : (broker.publish ambient session request).answer = .ok publication) :
    broker.isAttached session = true := by
  cases hattached : broker.isAttached session with
  | true => rfl
  | false =>
      obtain ⟨error, hrefused⟩ := refuses_publish hattached ambient request
      simp [hrefused] at hanswer

end Rostered

end Wamp.Broker
