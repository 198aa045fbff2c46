import Wamp.Proofs.Strangers

/-!
# Who belongs to a router

A session belongs to both components of a router or to neither.  The components can also be used
without the router, and then they may know different sessions.  Even so, a session that only one of
them would take is not attached, and taking it back leaves no trace.
-/

namespace Wamp

/-! ## Taking a session back -/

/-- A session that leaves a broker as soon as it has come leaves nothing behind. -/
theorem Broker.Rostered.removeSession_addSession {broker : Broker}
    (hrostered : broker.Rostered) {session : Session}
    (hnew : broker.isAttached session.id = false) :
    (broker.addSession session).state.removeSession session.id = .granted broker () := by
  have hunattached : ¬ broker.isAttached session.id = true := by simp [hnew]
  have hsessions : session.id ∉ broker.sessions := by
    rwa [← Std.ExtTreeMap.contains_iff_mem]
  have hheld : session.id ∉ broker.held := by
    rwa [hrostered]
  rw [broker.addSession_of_new hnew]
  simp only [Broker.removeSession, Broker.isAttached, Outcome.state_granted,
    Std.ExtTreeMap.contains_insert_self, if_true, Std.ExtTreeMap.getD_insert_self,
    Table.erase_insert_of_not_mem hsessions, Table.erase_insert_of_not_mem hheld]
  rfl

namespace Router

variable {router : Router}

/-- What becomes of a router, whose components need not know the same sessions, when a session
attaches: both components get it, or neither does. -/
inductive Admits (router : Router) (session : Session) (outcome : Reply Unit) : Prop where
  | declined (hdeclines : outcome.Declines router)
  | granted (hnew : router.broker.isAttached session.id = false)
      (hunknown : router.dealer.dealer.isAttached session.id = false)
      (hanswer : outcome.answer = .ok ())
      (hbroker : outcome.state.broker = (router.broker.addSession session).state)
      (hdealer : outcome.state.dealer = (router.dealer.addSession session).state) :
      Admits router session outcome

/-- The broker takes the session first, and loses it again if the dealer refuses. -/
theorem admits_attach (hrostered : router.broker.Rostered) (session : Session) :
    router.Admits session (router.attach session) := by
  unfold attach
  split
  next =>
    cases hattached : router.broker.isAttached session.id with
    | true =>
        simp only [router.broker.addSession_of_attached hattached, Outcome.answer_refused]
        exact .declined ⟨⟨_, rfl⟩, rfl⟩
    | false =>
        have hadded : (router.broker.addSession session).answer = .ok () := by
          rw [router.broker.addSession_of_new hattached, Outcome.answer_granted]
        simp only [hadded]
        cases hknown : router.dealer.dealer.isAttached session.id with
        | true =>
            simp only [router.dealer.addSession_of_attached hknown, Outcome.answer_refused,
              hrostered.removeSession_addSession hattached]
            exact .declined ⟨⟨_, rfl⟩, rfl⟩
        | false =>
            have hjoined : (router.dealer.addSession session).answer = .ok () := by
              rw [router.dealer.addSession_of_new hknown, Outcome.answer_granted]
            simp only [hjoined]
            exact .granted hattached hknown rfl rfl rfl
  next => exact .declined (declines_refused router _)

/-! ## Use of the components alone -/

/-- What can be done with a router, and with its components behind its back. -/
inductive Access where
  | router (operation : Operation)
  | broker (operation : Broker.Operation)
  | dealer (operation : AnnouncingDealer.Operation)

def access (router : Router) : Access → Reply (List Routed)
  | .router operation => router.perform operation
  | .broker operation => router.ofBroker (router.broker.perform operation)
  | .dealer operation => router.ofDealer (router.dealer.perform operation)

/-- Whatever is done with a router or behind its back takes each component through a run of its
own. -/
theorem broker_access (hrostered : router.broker.Rostered) (access : Access) :
    ∃ operations, (router.access access).state.broker =
      Run.final Broker.perform router.broker operations := by
  cases access with
  | router operation =>
      cases operation with
      | attach session =>
          have hadmits := admits_attach hrostered session
          simp only [Router.access, perform]
          generalize router.attach session = outcome at hadmits
          cases hadmits with
          | declined hdeclines => exact ⟨[], by rw [hdeclines.2]; rfl⟩
          | granted _ _ _ hbroker => exact ⟨[.attach session], hbroker⟩
      | detach session =>
          simp only [Router.access, perform]
          rw [state_detach]
          exact ⟨[.detach session], rfl⟩
      | receive ambient session message =>
          simp only [Router.access, perform]
          rw [broker_receive]
          cases message with
          | subscribe | unsubscribe => exact ⟨[.receive session _], rfl⟩
          | _ => exact ⟨[], rfl⟩
  | broker operation => exact ⟨[operation], rfl⟩
  | dealer operation => exact ⟨[], rfl⟩

theorem dealer_access (hrostered : router.broker.Rostered) (access : Access) :
    ∃ operations, (router.access access).state.dealer =
      Run.final AnnouncingDealer.perform router.dealer operations := by
  cases access with
  | router operation =>
      cases operation with
      | attach session =>
          have hadmits := admits_attach hrostered session
          simp only [Router.access, perform]
          generalize router.attach session = outcome at hadmits
          cases hadmits with
          | declined hdeclines => exact ⟨[], by rw [hdeclines.2]; rfl⟩
          | granted _ _ _ _ hdealer => exact ⟨[.serve (.attach session)], hdealer⟩
      | detach session =>
          simp only [Router.access, perform]
          rw [state_detach]
          exact ⟨[.serve (.detach session)], rfl⟩
      | receive ambient session message =>
          cases message with
          | register | unregister | call | yield | cancel | error =>
              exact ⟨[.serve (.receive ambient session _)], rfl⟩
          | _ => exact ⟨[], rfl⟩
  | broker operation => exact ⟨[], rfl⟩
  | dealer operation => exact ⟨[operation], rfl⟩

theorem components_accessed (realm : String) (settings : Settings) (accesses : List Access) :
    let router := Run.final access (ofSettings realm settings) accesses
    (∃ operations, router.broker = Run.final Broker.perform {} operations) ∧
      ∃ operations, router.dealer =
        Run.final AnnouncingDealer.perform { board := newBoard settings } operations := by
  refine Run.final_induction (fun router : Router =>
    (∃ operations, router.broker = Run.final Broker.perform {} operations) ∧
      ∃ operations, router.dealer =
        Run.final AnnouncingDealer.perform { board := newBoard settings } operations) ?_
    ⟨⟨brokering realm settings [], rfl⟩, ⟨dealing realm settings [], rfl⟩⟩ accesses
  rintro router next ⟨⟨brokered, hbroker⟩, ⟨dealt, hdealer⟩⟩
  -- The broker has to list its sessions consistently to take one back without a trace.
  have hrostered : router.broker.Rostered := by
    rw [hbroker]
    exact Broker.rostered_final brokered
  obtain ⟨more, hnext⟩ := broker_access hrostered next
  obtain ⟨further, hlater⟩ := dealer_access hrostered next
  rw [hbroker, ← Run.final_append] at hnext
  rw [hdealer, ← Run.final_append] at hlater
  exact ⟨⟨_, hnext⟩, ⟨_, hlater⟩⟩

/-- However the sessions of the two components come apart, the broker lists its own ones
consistently. -/
theorem rostered_accessed (realm : String) (settings : Settings) (accesses : List Access) :
    (Run.final access (ofSettings realm settings) accesses).broker.Rostered := by
  obtain ⟨⟨brokered, hbroker⟩, -⟩ := components_accessed realm settings accesses
  rw [hbroker]
  exact Broker.rostered_final brokered

/-! ## Sessions of the realm -/

/-- Every session is kept under its own identifier and belongs to the realm of the router. -/
def Native (router : Router) : Prop :=
  ∀ (id : Id) (session : Session), router.broker.sessions[id]? = some session →
    session.id = id ∧ session.realm = router.realm

theorem Native.perform (hnative : router.Native) (htogether : router.Together)
    (operation : Operation) : (router.perform operation).state.Native := by
  unfold Native
  rw [realm_perform]
  cases operation with
  | attach session =>
      have hattaches := htogether.attaches session
      simp only [Router.perform]
      generalize router.attach session = outcome at hattaches
      cases hattaches with
      | refused error hanswer hstate =>
          rw [hstate]
          exact hnative
      | granted hrealm hnew hanswer hstate =>
          rw [hstate, router.broker.addSession_of_new hnew]
          exact Table.forall_insert hnative ⟨rfl, hrealm⟩
  | detach session =>
      simp only [Router.perform]
      rw [state_detach]
      cases hattached : router.broker.isAttached session with
      | true =>
          simp only [router.broker.sessions_removeSession hattached]
          exact Table.forall_erase hnative session
      | false =>
          rw [router.broker.removeSession_of_stranger hattached]
          exact hnative
  | receive ambient session message =>
      simp only [Router.perform]
      rw [sessions_receive]
      exact hnative

theorem native_final (realm : String) (settings : Settings) (operations : List Operation) :
    (Run.final perform (ofSettings realm settings) operations).Native := by
  have hkept : ∀ router operation, router.Together ∧ router.Native →
      (perform router operation).state.Together ∧ (perform router operation).state.Native := by
    rintro router operation ⟨htogether, hnative⟩
    exact ⟨htogether.perform operation, hnative.perform htogether operation⟩
  have hstart : (ofSettings realm settings).Together ∧ (ofSettings realm settings).Native := by
    refine ⟨rfl, ?_⟩
    simp [Native, ofSettings, Broker.ofSettings]
  exact (Run.final_induction (fun router : Router => router.Together ∧ router.Native) hkept hstart
    operations).2

/-! ## Attaching and detaching -/

theorem Together.answer_attach_iff (htogether : router.Together) (session : Session) :
    (router.attach session).answer = .ok () ↔
      session.realm = router.realm ∧ router.broker.isAttached session.id = false := by
  have hattaches := htogether.attaches session
  generalize router.attach session = outcome at hattaches
  cases hattaches with
  | refused error hanswer hstate hcause =>
      rw [hanswer]
      rcases hcause with hforeign | hattached
      · simp [hforeign]
      · simp [hattached]
  | granted hrealm hnew hanswer hstate => exact iff_of_true hanswer ⟨hrealm, hnew⟩

theorem Together.answer_detach_iff (htogether : router.Together) (session : Id) :
    (router.detach session).answer = .ok () ↔ router.broker.isAttached session = true := by
  refine ⟨fun hanswer => ?_, htogether.answer_detach⟩
  rcases htogether.detach session with ⟨error, hrefused, -⟩ | ⟨hattached, -⟩
  · rw [hrefused] at hanswer
    contradiction
  · exact hattached

/-- As long as a router is used by its own operations, its components know the same sessions, all of
its realm.  Every other session of the realm can attach, every attached one can detach, and what is
refused changes nothing.  However the components are used besides, a session attaches to both of
them, or everything stays as it was. -/
theorem membership_of_run (realm : String) (settings : Settings) :
    (∀ operations : List Operation,
      let router := Run.final perform (ofSettings realm settings) operations
      router.broker.sessions = router.dealer.dealer.sessions ∧
      (∀ (id : Id) (session : Session), router.broker.sessions[id]? = some session →
        session.id = id ∧ session.realm = realm) ∧
      (∀ session : Session,
        ((router.attach session).answer = .ok () ↔
          session.realm = realm ∧ router.broker.isAttached session.id = false) ∧
        ((router.attach session).answer = .ok () ∨ (router.attach session).Declines router)) ∧
      ∀ session : Id,
        ((router.detach session).answer = .ok () ↔ router.broker.isAttached session = true) ∧
        ((router.detach session).answer = .ok () ∨ (router.detach session).Declines router)) ∧
    ∀ (accesses : List Access) (session : Session),
      let router := Run.final access (ofSettings realm settings) accesses
      let outcome := router.attach session
      outcome.Declines router ∨
        outcome.answer = .ok () ∧
        outcome.state.broker.sessions[session.id]? = some session ∧
        outcome.state.dealer.dealer.sessions[session.id]? = some session := by
  refine ⟨?_, ?_⟩
  · intro operations router
    have htogether : router.Together := together_final realm settings operations
    have hrealm : router.realm = realm :=
      (Run.final_induction (Serves realm) (fun _ operation => Serves.perform _ operation)
        (serves_ofSettings realm settings) operations).2
    have hnative := native_final realm settings operations
    have hattach := htogether.answer_attach_iff
    rw [← hrealm]
    refine ⟨htogether, hnative, fun session => ⟨hattach session, ?_⟩,
      fun session => ⟨htogether.answer_detach_iff session, ?_⟩⟩
    · rcases htogether.attach session with ⟨error, hanswer, hstate⟩ | ⟨hanswer, -⟩
      · exact Or.inr ⟨⟨error, hanswer⟩, hstate⟩
      · exact Or.inl hanswer
    · rcases htogether.detach session with ⟨error, hanswer, hstate⟩ | ⟨-, hanswer, -⟩
      · exact Or.inr ⟨⟨error, hanswer⟩, hstate⟩
      · exact Or.inl hanswer
  · intro accesses session router outcome
    have hadmits := admits_attach (rostered_accessed realm settings accesses) session
    cases hadmits with
    | declined hdeclines => exact Or.inl hdeclines
    | granted hnew hunknown hanswer hbroker hdealer =>
        right
        refine ⟨hanswer, ?_, ?_⟩
        · rw [hbroker, router.broker.addSession_of_new hnew]
          exact Std.ExtTreeMap.getElem?_insert_self
        · rw [hdealer, router.dealer.addSession_of_new hunknown]
          exact Std.ExtTreeMap.getElem?_insert_self

/-- Session 1 is attached to the dealer alone and serves a procedure.  Session 2 is attached to the
broker alone and has a subscription. -/
def outOfStep : List Access :=
  let member (id : Id) : Session :=
    { id, realm := "realm1", authid := "", authrole := "", staticSerializer := false }
  let ambient : Ambient := { drawnId := 7, drawnIndex := 0, now := "" }
  [.dealer (.serve (.attach (member 1))),
    .dealer (.serve (.receive ambient 1
      (.register { request := 1, options := ∅, procedure := "com.sum" }))),
    .broker (.attach (member 2)),
    .broker (.receive 2 (.subscribe { request := 1, options := ∅, topic := "com.news" }))]

/-- A session that detaches leaves both components, cannot detach again and can attach again.  A
session that one component alone knows cannot attach. -/
theorem membership_outOfStep :
    let member (id : Id) : Session :=
      { id, realm := "realm1", authid := "", authrole := "", staticSerializer := false }
    let single := Run.final perform (ofSettings "realm1" {}) [.attach (member 1)]
    let left := Run.final perform (ofSettings "realm1" {}) [.attach (member 1), .detach 1]
    let router := Run.final access (ofSettings "realm1" {}) outOfStep
    single.broker.sessions[1]? = some (member 1) ∧ (member 1).realm = "realm1" ∧
      single.dealer.dealer.isAttached 1 = true ∧ (single.detach 1).answer = .ok () ∧
      left.broker.sessions[1]? = none ∧ left.dealer.dealer.sessions[1]? = none ∧
      (left.detach 1).Declines left ∧ (left.attach (member 1)).answer = .ok () ∧
      router.broker.isAttached 1 = false ∧ router.dealer.dealer.isAttached 1 = true ∧
      router.broker.isAttached 2 = true ∧ router.dealer.dealer.isAttached 2 = false ∧
      (router.attach (member 1)).Declines router ∧ (router.attach (member 2)).Declines router := by
  intro member single left router
  have hattached : single.broker.sessions[1]? = some (member 1) := by decide +kernel
  have hgone : left.broker.sessions[1]? = none := by decide +kernel
  have hfirst : (router.attach (member 1)).answer = .error (.dealer (.duplicateSession 1)) := by
    decide +kernel
  have hsecond : (router.attach (member 2)).answer = .error (.broker (.duplicateSession 2)) := by
    decide +kernel
  obtain ⟨hruns, haccesses⟩ := membership_of_run "realm1" {}
  obtain ⟨-, hnative, -, hdetaches⟩ := hruns [.attach (member 1)]
  obtain ⟨htogether, -, hattaches, hdeparts⟩ := hruns [.attach (member 1), .detach 1]
  refine ⟨hattached, (hnative 1 _ hattached).2, by decide +kernel,
    (hdetaches 1).1.mpr (by decide +kernel), hgone, htogether ▸ hgone, ?_,
    (hattaches (member 1)).1.mpr ⟨rfl, by decide +kernel⟩, by decide +kernel, by decide +kernel,
    by decide +kernel, by decide +kernel, ?_, ?_⟩
  · refine (hdeparts 1).2.resolve_left fun hgranted => ?_
    have hknown : left.broker.isAttached 1 = true := (hdeparts 1).1.mp hgranted
    exact absurd hknown (by decide +kernel)
  · exact (haccesses outOfStep (member 1)).resolve_right fun hgranted =>
      nomatch hfirst.symm.trans hgranted.1
  · exact (haccesses outOfStep (member 2)).resolve_right fun hgranted =>
      nomatch hsecond.symm.trans hgranted.1

end Router

end Wamp
