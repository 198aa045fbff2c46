import Wamp.Proofs.Anonymity
import Wamp.Proofs.Dealer.Routes
import Wamp.Proofs.Router.Membership

/-!
# Disclosure

A router that discloses nobody works on masked sessions as on the sessions themselves, so nothing
that it sends, writes down or tells about itself depends on what a session has authenticated as.
With disclosure, events and invocations name the session behind them as it is attached, and nothing
that the session writes into its message can make them name another one.
-/

namespace Wamp

namespace Router

/-! ## Without disclosure -/

def masked (router : Router) : Router :=
  { router with broker := router.broker.masked, dealer := router.dealer.masked }

/-- Neither component tells who publishes or calls. -/
def Discreet (router : Router) : Prop :=
  router.broker.disclosePublisher = false ∧ router.dealer.dealer.discloseCaller = false

instance (router : Router) : Decidable router.Discreet :=
  inferInstanceAs (Decidable (_ ∧ _))

def Operation.masked : Operation → Operation
  | .attach session => .attach session.masked
  | operation => operation

def Access.masked : Access → Access
  | .router operation => .router operation.masked
  | .broker operation => .broker operation.masked
  | .dealer operation => .dealer operation.masked

section Masked

variable {router : Router}

theorem ofBroker_mapState {Answer : Type} (outcome : Broker.Reply Answer) :
    router.masked.ofBroker (outcome.mapState Broker.masked) =
      (router.ofBroker outcome).mapState masked :=
  rfl

theorem ofDealer_mapState {Answer : Type} (outcome : AnnouncingDealer.Reply Answer) :
    router.masked.ofDealer (outcome.mapState AnnouncingDealer.masked) =
      (router.ofDealer outcome).mapState masked :=
  rfl

theorem attach_masked (session : Session) :
    router.masked.attach session.masked = (router.attach session).mapState masked := by
  have hadded : router.masked.broker.addSession session.masked =
      (router.broker.addSession session).mapState Broker.masked :=
    router.broker.addSession_masked session
  have hjoined : router.masked.dealer.addSession session.masked =
      (router.dealer.addSession session).mapState AnnouncingDealer.masked :=
    AnnouncingDealer.addSession_masked session
  have hundone : (router.broker.addSession session).state.masked.removeSession session.id =
      ((router.broker.addSession session).state.removeSession session.id).mapState
        Broker.masked :=
    Broker.removeSession_masked _ session.id
  unfold attach
  rw [hadded, hjoined]
  simp only [Outcome.mapState, Session.masked, hundone, masked]
  split
  next =>
    cases (router.broker.addSession session).answer with
    | error error => rfl
    | ok =>
        simp only
        cases (router.dealer.addSession session).answer <;> rfl
  next => rfl

theorem detach_masked (session : Id) :
    router.masked.detach session = (router.detach session).mapState masked := by
  have hleft : router.masked.broker.removeSession session =
      (router.broker.removeSession session).mapState Broker.masked :=
    router.broker.removeSession_masked session
  have hgone : router.masked.dealer.removeSession session =
      (router.dealer.removeSession session).mapState AnnouncingDealer.masked :=
    AnnouncingDealer.removeSession_masked session
  unfold detach
  rw [hleft, hgone]
  simp only [Outcome.mapState]
  cases (router.broker.removeSession session).answer with
  | error error => rfl
  | ok => cases (router.dealer.removeSession session).answer <;> rfl

theorem Discreet.receive_masked (hdiscreet : router.Discreet) (ambient : Ambient) (session : Id)
    (message : Message) :
    router.masked.receive ambient session message =
      (router.receive ambient session message).mapState masked := by
  have hroute : router.masked.route ambient session message =
      (router.route ambient session message).mapState masked := by
    have hpublished : ∀ request, router.masked.broker.publish ambient session request =
        (router.broker.publish ambient session request).mapState Broker.masked :=
      Broker.publish_masked hdiscreet.1 ambient session
    have hbroker : ∀ message, router.masked.broker.receive session message =
        (router.broker.receive session message).mapState Broker.masked :=
      router.broker.receive_masked session
    have hdealer : ∀ message, router.masked.dealer.receive ambient session message =
        (router.dealer.receive ambient session message).mapState AnnouncingDealer.masked :=
      AnnouncingDealer.receive_masked hdiscreet.2 ambient session
    cases message with
    | publish request => simp only [route, hpublished, ofBroker_mapState]; rfl
    | subscribe request | unsubscribe request =>
        simp only [route, hbroker, ofBroker_mapState]; rfl
    | register | unregister | call | yield | cancel | error =>
        simp only [route, hdealer, ofDealer_mapState]
    | _ => rfl
  unfold receive
  rw [hroute]
  rfl

theorem Discreet.access_masked (hdiscreet : router.Discreet) (access : Access) :
    router.masked.access access.masked = (router.access access).mapState masked := by
  cases access with
  | router operation =>
      cases operation with
      | attach session =>
          simp only [Access.masked, Operation.masked, Router.access, perform, attach_masked]
          rfl
      | detach session =>
          simp only [Access.masked, Operation.masked, Router.access, perform, detach_masked]
          rfl
      | receive ambient session message => exact hdiscreet.receive_masked ambient session message
  | broker operation =>
      have hperformed : router.masked.broker.perform operation.masked =
          (router.broker.perform operation).mapState Broker.masked :=
        Broker.perform_masked hdiscreet.1 operation
      simp only [Access.masked, Router.access, hperformed, ofBroker_mapState]
  | dealer operation =>
      have hperformed : router.masked.dealer.perform operation.masked =
          (router.dealer.perform operation).mapState AnnouncingDealer.masked :=
        AnnouncingDealer.perform_masked hdiscreet.2 operation
      simp only [Access.masked, Router.access, hperformed, ofDealer_mapState]

end Masked

/-- What can be asked of a router and its components, and what the consumers of the announcements
are about to get. -/
structure Snapshot where
  realm : String
  /-- Whether a session is attached to the broker, and to the dealer. -/
  isAttached : Id → Bool × Bool
  hasSubscription : String → Bool
  matchSubscription? : String → Option Subscription
  subscriptions : Std.ExtTreeMap Id Subscription
  hasProcedure : String → Bool
  matchRegistration? : String → Option Registration
  registrationsWith : MatchPolicy → Std.ExtTreeMap Id Registration
  registrationsByProcedure : Std.ExtTreeMap String Registration
  board : Board

def snapshot (router : Router) : Snapshot where
  realm := router.realm
  isAttached session :=
    (router.broker.isAttached session, router.dealer.dealer.isAttached session)
  hasSubscription := router.broker.hasSubscription
  matchSubscription? topic := (router.broker.resolve? topic).map Prod.snd
  subscriptions := router.broker.subscriptions
  hasProcedure := router.dealer.dealer.hasProcedure
  matchRegistration? := router.dealer.dealer.matchRegistration?
  registrationsWith := router.dealer.dealer.registrationsWith
  registrationsByProcedure := router.dealer.dealer.registrationsByProcedure
  board := router.dealer.board

theorem snapshot_masked (router : Router) : router.masked.snapshot = router.snapshot := by
  have hattached : (fun session => (router.masked.broker.isAttached session,
      router.masked.dealer.dealer.isAttached session)) =
      fun session => (router.broker.isAttached session,
        router.dealer.dealer.isAttached session) := by
    funext session
    exact Prod.ext (router.broker.isAttached_masked session)
      (router.dealer.dealer.isAttached_masked session)
  unfold snapshot
  rw [hattached]
  rfl

/-- All that shows of an access: what is answered and written down, and what can be asked
afterwards. -/
structure Report where
  answer : Except RouterError (List Routed)
  notes : List Journal.Entry
  snapshot : Snapshot

def report (router : Router) (access : Access) : Report :=
  let outcome := router.access access
  { answer := outcome.answer, notes := outcome.notes, snapshot := outcome.state.snapshot }

def reports (realm : String) (settings : Settings) (accesses : List Access) : List Report :=
  Run.collected access (fun router access => [router.report access]) (ofSettings realm settings)
    accesses

theorem Discreet.report_masked {router : Router} (hdiscreet : router.Discreet) (access : Access) :
    router.masked.report access.masked = router.report access := by
  unfold report
  rw [hdiscreet.access_masked]
  simp only [Outcome.mapState, snapshot_masked]

theorem discreet_masked {router : Router} : router.masked.Discreet ↔ router.Discreet :=
  Iff.rfl

/-- As long as neither component discloses anybody, sessions that differ in what they
authenticated as are told apart by nothing that a router shows. -/
theorem reports_congr {realm : String} {settings : Settings} {first second : List Access}
    (hmasked : first.map Access.masked = second.map Access.masked)
    (hdiscreet : Run.Throughout access (fun router _ => router.Discreet)
      (ofSettings realm settings) first) :
    reports realm settings first = reports realm settings second := by
  -- Both runs are compared with the run of the masked sessions, in which they are one.
  refine Run.collected_congr masked Access.masked Discreet ?_ rfl hmasked hdiscreet
  intro one other access counterpart hone hrouters haccesses
  have hother : other.Discreet := by
    rw [← discreet_masked, ← hrouters]
    exact hone
  refine ⟨?_, ?_⟩
  · rw [← hone.report_masked, ← hother.report_masked, hrouters, haccesses]
  · have hstate := congrArg Outcome.state (hone.access_masked access)
    have hcounterpart := congrArg Outcome.state (hother.access_masked counterpart)
    rw [hrouters, haccesses] at hstate
    exact hstate.symm.trans hcounterpart

end Router

/-! ## With disclosure -/

/-- The details name a session in a role, as a publisher or as a caller. -/
structure Session.NamedIn (session : Session) (details : Dict) (role : String) : Prop where
  id_eq : details[role]? = some (.integer session.id)
  authid_eq : details[role ++ "_authid"]? = some (.text session.authid)
  authrole_eq : details[role ++ "_authrole"]? = some (.text session.authrole)

theorem Broker.namedIn_eventDetails {broker : Broker} (hdiscloses : broker.disclosePublisher = true)
    (publisher : Session) (policy : MatchPolicy) (topic : String) :
    publisher.NamedIn (broker.eventDetails publisher policy topic) "publisher" ∧
      (broker.eventDetails publisher policy topic)["topic"]? = some (.text topic) := by
  simp only [eventDetails, hdiscloses, if_true]
  refine ⟨⟨?_, ?_, ?_⟩, ?_⟩ <;>
    simp only [Std.ExtTreeMap.getElem?_insert, Std.LawfulEqCmp.compare_eq_iff_eq,
      String.reduceAppend, String.reduceEq, if_false, if_true]

theorem Dealer.namedIn_chunk {dealer : Dealer} (hdiscloses : dealer.discloseCaller = true)
    (caller callee : Session) (route : Route) (request : Call) (invocation : Id) :
    caller.NamedIn (dealer.chunk caller callee route request invocation).details "caller" ∧
      (dealer.chunk caller callee route request invocation).details["procedure"]? =
        some (.text request.procedure) := by
  simp only [chunk, callDetails, hdiscloses, if_true]
  split <;> refine ⟨⟨?_, ?_, ?_⟩, ?_⟩ <;>
    simp only [Std.ExtTreeMap.getElem?_insert, Std.LawfulEqCmp.compare_eq_iff_eq,
      String.reduceAppend, String.reduceEq, if_false, if_true]

namespace Router

/-- The message that a session sends, to the router or to one of its components. -/
def Access.inbound? : Access → Option (Id × Message)
  | .router (.receive _ session message) => some (session, message)
  | .broker (.receive session message) => some (session, message)
  | .broker (.publish _ session request) => some (session, .publish request)
  | .dealer (.serve (.receive _ session message)) => some (session, message)
  | _ => none

section Sent

variable {router : Router} {next : Access} {routed : List Routed} {sent : Routed}

theorem publisher_of_event (hanswer : (router.access next).answer = .ok routed)
    (hsent : sent ∈ routed) {body : Event} (hbody : sent.message = .event body) :
    ∃ session request publisher policy, next.inbound? = some (session, .publish request) ∧
      router.broker.sessions[session]? = some publisher ∧
      body.details = router.broker.eventDetails publisher policy request.topic := by
  have hkind : sent.message.kind = .event := by rw [hbody]; rfl
  cases next with
  | router operation =>
      obtain ⟨part, hpart, hbroker⟩ := broker_of_sent hanswer hsent (by simp [hkind])
      obtain ⟨_, session, request, publisher, policy, rfl, hpublisher, hdetails⟩ :=
        Broker.publish_of_event hbroker hsent hbody
      obtain rfl := receive_of_forBroker? hpart
      exact ⟨session, request, publisher, policy, rfl, hpublisher, hdetails⟩
  | broker operation =>
      obtain ⟨_, session, request, publisher, policy, rfl, hpublisher, hdetails⟩ :=
        Broker.publish_of_event ((mapError_eq_ok_iff _).mp hanswer) hsent hbody
      exact ⟨session, request, publisher, policy, rfl, hpublisher, hdetails⟩
  | dealer operation =>
      obtain ⟨served, rfl, hserved⟩ :=
        AnnouncingDealer.served_of_sent ((mapError_eq_ok_iff _).mp hanswer) hsent
      have hlisted := kind_of_dealer hserved hsent
      simp [hkind] at hlisted

theorem caller_of_invocation (hanswer : (router.access next).answer = .ok routed)
    (hsent : sent ∈ routed) {body : Invocation} (hbody : sent.message = .invocation body) :
    ∃ session request caller callee route invocation,
      next.inbound? = some (session, .call request) ∧
      router.dealer.dealer.sessions[session]? = some caller ∧
      body = router.dealer.dealer.chunk caller callee route request invocation := by
  have hkind : sent.message.kind = .invocation := by rw [hbody]; rfl
  cases next with
  | router operation =>
      obtain ⟨part, hpart, hdealer⟩ := dealer_of_sent hanswer hsent (by simp [hkind])
      obtain ⟨_, session, request, caller, callee, route, invocation, rfl, -, hcaller, -, rfl⟩ :=
        (Dealer.serves_of_granted hdealer).chunk_of_invocation hsent hbody
      obtain rfl := receive_of_forDealer? hpart
      exact ⟨session, request, caller, callee, route, invocation, rfl, hcaller, rfl⟩
  | broker operation =>
      have hlisted := kind_of_broker ((mapError_eq_ok_iff _).mp hanswer) hsent
      simp [hkind] at hlisted
  | dealer operation =>
      obtain ⟨served, rfl, hserved⟩ :=
        AnnouncingDealer.served_of_sent ((mapError_eq_ok_iff _).mp hanswer) hsent
      obtain ⟨_, session, request, caller, callee, route, invocation, rfl, -, hcaller, -, rfl⟩ :=
        (Dealer.serves_of_granted hserved).chunk_of_invocation hsent hbody
      exact ⟨session, request, caller, callee, route, invocation, rfl, hcaller, rfl⟩

end Sent

/-- Nobody learns from a router that discloses nobody what a session authenticated as: runs that
differ in nothing else show the same.  With disclosure, every event names the session that sent the
publication, and every invocation the session that sent the chunk of the call, as it is attached,
together with the URI that this session used. -/
theorem disclosure_of_run (realm : String) (settings : Settings) :
    (∀ first second : List Access, first.map Access.masked = second.map Access.masked →
      Run.Throughout access (fun router _ => router.Discreet) (ofSettings realm settings) first →
      reports realm settings first = reports realm settings second) ∧
    ∀ (accesses : List Access) (next : Access) (routed : List Routed) (sent : Routed),
      let router := Run.final access (ofSettings realm settings) accesses
      (router.access next).answer = .ok routed → sent ∈ routed →
      (∀ body, sent.message = .event body → router.broker.disclosePublisher = true →
        ∃ session request publisher, next.inbound? = some (session, .publish request) ∧
          router.broker.sessions[session]? = some publisher ∧ publisher.id = session ∧
          publisher.NamedIn body.details "publisher" ∧
          body.details["topic"]? = some (.text request.topic)) ∧
      ∀ body, sent.message = .invocation body → router.dealer.dealer.discloseCaller = true →
        ∃ session request caller, next.inbound? = some (session, .call request) ∧
          router.dealer.dealer.sessions[session]? = some caller ∧ caller.id = session ∧
          caller.NamedIn body.details "caller" ∧
          body.details["procedure"]? = some (.text request.procedure) := by
  refine ⟨fun first second => reports_congr, ?_⟩
  intro accesses next routed sent router hanswer hsent
  obtain ⟨⟨brokered, hbroker⟩, ⟨dealt, hdealer⟩⟩ := components_accessed realm settings accesses
  refine ⟨?_, ?_⟩
  · intro body hbody hdiscloses
    obtain ⟨session, request, publisher, policy, hinbound, hpublisher, hdetails⟩ :=
      publisher_of_event hanswer hsent hbody
    obtain ⟨hnamed, htopic⟩ := Broker.namedIn_eventDetails hdiscloses publisher policy request.topic
    rw [← hdetails] at hnamed htopic
    have hself : publisher.id = session := by
      refine Broker.session_id_final brokered session publisher ?_
      rw [← hbroker]
      exact hpublisher
    exact ⟨session, request, publisher, hinbound, hpublisher, hself, hnamed, htopic⟩
  · intro body hbody hdiscloses
    obtain ⟨session, request, caller, callee, route, invocation, hinbound, hcaller, rfl⟩ :=
      caller_of_invocation hanswer hsent hbody
    obtain ⟨hnamed, hprocedure⟩ :=
      Dealer.namedIn_chunk hdiscloses caller callee route request invocation
    have hself : caller.id = session := by
      refine (Dealer.awaited_final (AnnouncingDealer.served dealt)).session_id session caller ?_
      rw [← AnnouncingDealer.dealer_final { board := newBoard settings }, ← hdealer]
      exact hcaller
    exact ⟨session, request, caller, hinbound, hcaller, hself, hnamed, hprocedure⟩

/-- Session 1 subscribes and serves a procedure.  Session 2 has authenticated as somebody. -/
def acquainted (authid authrole : String) : List Access :=
  let ambient : Ambient := { drawnId := 7, drawnIndex := 0, now := "" }
  let member (id : Id) (authid authrole : String) : Session :=
    { id, realm := "realm1", authid, authrole, staticSerializer := false }
  [.router (.attach (member 1 "reader" "user")), .router (.attach (member 2 authid authrole)),
    .router (.receive ambient 1 (.subscribe { request := 1, options := ∅, topic := "com.news" })),
    .router (.receive ambient 1
      (.register { request := 2, options := ∅, procedure := "com.sum" }))]

/-- Session 2 publishes and calls, and says each time that it is somebody else. -/
theorem disclosure_pretender :
    let publisher : Session :=
      { id := 2, realm := "realm1", authid := "alice", authrole := "admin",
        staticSerializer := false }
    let ambient : Ambient := { drawnId := 8, drawnIndex := 0, now := "" }
    let pretended : Dict :=
      (∅ : Dict).insert "publisher_authid" (.text "bob") |>.insert "caller_authid" (.text "bob")
    let publication : Access := .router (.receive ambient 2
      (.publish { request := 1, options := pretended, topic := "com.news", kwargs := pretended }))
    let call : Access := .router (.receive ambient 2
      (.call { request := 2, options := pretended, procedure := "com.sum", kwargs := pretended }))
    let disclosing : Settings := { autoDisclosePublisher := true, autoDiscloseCaller := true }
    let router := Run.final access (ofSettings "realm1" disclosing) (acquainted "alice" "admin")
    reports "realm1" {} (acquainted "alice" "admin" ++ [publication, call]) =
        reports "realm1" {} (acquainted "bob" "guest" ++ [publication, call]) ∧
      (∃ body,
        (router.access publication).answer = .ok [{ recipient := 1, message := .event body }] ∧
        publisher.NamedIn body.details "publisher") ∧
      ∃ body, (router.access call).answer = .ok [{ recipient := 1, message := .invocation body }] ∧
        publisher.NamedIn body.details "caller" := by
  intro publisher ambient pretended publication call disclosing router
  obtain ⟨hundisclosed, -⟩ := disclosure_of_run "realm1" {}
  obtain ⟨-, hdisclosed⟩ := disclosure_of_run "realm1" disclosing
  have hbroker : router.broker.sessions[(2 : Id)]? = some publisher := by decide +kernel
  have hdealer : router.dealer.dealer.sessions[(2 : Id)]? = some publisher := by decide +kernel
  obtain ⟨event, hevent⟩ : ∃ body : Event, (router.access publication).answer =
      .ok [{ recipient := 1, message := .event body }] :=
    ⟨{ subscription := 1, publication := 8, kwargs := pretended
       details := router.broker.eventDetails publisher .exact "com.news" }, by decide +kernel⟩
  obtain ⟨invocation, hinvocation⟩ : ∃ body : Invocation, (router.access call).answer =
      .ok [{ recipient := 1, message := .invocation body }] :=
    ⟨{ request := 1, registration := 7, kwargs := pretended
       details := router.dealer.dealer.callDetails publisher
        { request := 2, options := pretended, procedure := "com.sum" } }, by decide +kernel⟩
  refine ⟨hundisclosed _ _ rfl (by decide +kernel), ⟨event, hevent, ?_⟩,
    ⟨invocation, hinvocation, ?_⟩⟩
  · obtain ⟨session, request, found, hinbound, hfound, -, hnamed, -⟩ :=
      (hdisclosed _ publication _ _ hevent List.mem_cons_self).1 event rfl (by decide +kernel)
    obtain ⟨rfl, -⟩ := Prod.mk.inj (Option.some.inj hinbound)
    rwa [Option.some.inj (hbroker.symm.trans hfound)]
  · obtain ⟨session, request, found, hinbound, hfound, -, hnamed, -⟩ :=
      (hdisclosed _ call _ _ hinvocation List.mem_cons_self).2 invocation rfl (by decide +kernel)
    obtain ⟨rfl, -⟩ := Prod.mk.inj (Option.some.inj hinbound)
    rwa [Option.some.inj (hdealer.symm.trans hfound)]

end Router

end Wamp
