import Wamp.Proofs.Dealer.Registrations
import Wamp.Proofs.Router.Components

/-!
# What a routed message does to the holdings

A message that a router accepts changes the row of its sender at most, in the table of the broker or
in the one of the dealer.  There is one case below for every request that is about subscriptions,
registrations or publications, and one for all that callers and callees exchange.
-/

namespace Wamp

/-- A message belongs to the exchange between a caller and a callee. -/
def Message.concernsCall : Message → Bool
  | .result _ | .invocation _ | .interrupt _ => true
  | .error reply => reply.answers = .call
  | _ => false

namespace Router

/-! ## What holds in every run -/

/-- Broker and dealer know the same sessions, and both list them among the holdings. -/
structure Orderly (router : Router) : Prop where
  together : router.Together
  rostered : router.broker.Rostered
  tables : router.dealer.dealer.Tables

theorem orderly_ofSettings (realm : String) (settings : Settings) :
    (ofSettings realm settings).Orderly where
  together := together_final realm settings []
  rostered := Broker.rostered_final (brokering realm settings [])
  tables := Dealer.tables_final [.disclose settings.autoDiscloseCaller]

theorem Orderly.perform {router : Router} (horderly : router.Orderly) (operation : Operation) :
    (router.perform operation).state.Orderly where
  together := horderly.together.perform operation
  rostered := by
    rw [horderly.together.broker_perform]
    cases operation.forBroker? router.realm with
    | none => exact horderly.rostered
    | some part => exact horderly.rostered.perform part
  tables := by
    rw [horderly.together.dealer_perform]
    cases operation.forDealer? router.realm with
    | none => exact horderly.tables
    | some part =>
        simp only [Option.elim_some]
        rw [AnnouncingDealer.dealer_perform]
        cases part.served? with
        | none => exact horderly.tables
        | some served => exact horderly.tables.perform served

theorem orderly_final (realm : String) (settings : Settings) (operations : List Operation) :
    (Run.final perform (ofSettings realm settings) operations).Orderly :=
  Run.final_induction Orderly (fun _ operation horderly => horderly.perform operation)
    (orderly_ofSettings realm settings) operations

/-- Attaching either does nothing or gives a session an empty row in both tables. -/
theorem Together.held_attach {router : Router} (htogether : router.Together) (session : Session) :
    (∃ error, (router.attach session).answer = .error error) ∧
        (router.attach session).state = router ∨
      (router.attach session).answer = .ok () ∧
        (router.attach session).state.broker.held =
          router.broker.held.insert session.id ∅ ∧
        (router.attach session).state.dealer.dealer.held =
          router.dealer.dealer.held.insert session.id ∅ := by
  have hattaches := htogether.attaches session
  generalize router.attach session = outcome at hattaches ⊢
  cases hattaches with
  | refused error hanswer hstate => exact Or.inl ⟨⟨error, hanswer⟩, hstate⟩
  | granted _ hnew hanswer hstate =>
      obtain ⟨hdealer, -⟩ := htogether.addSession_of_new hnew
      right
      rw [hstate]
      refine ⟨hanswer, ?_, ?_⟩
      · rw [router.broker.addSession_of_new hnew]
        rfl
      · simp only
        rw [hdealer]

/-- Detaching either does nothing or takes the row of a session out of both tables. -/
theorem Together.held_detach {router : Router} (htogether : router.Together) (session : Id) :
    (∃ error, (router.detach session).answer = .error error) ∧
        (router.detach session).state = router ∨
      (router.detach session).answer = .ok () ∧
        (router.detach session).state.broker.held = router.broker.held.erase session ∧
        (router.detach session).state.dealer.dealer.held =
          router.dealer.dealer.held.erase session := by
  rcases htogether.detach session with ⟨error, hanswer, hstate⟩ | ⟨hattached, hanswer, -, -⟩
  · exact Or.inl ⟨⟨error, hanswer⟩, hstate⟩
  · have hsame := (htogether.isAttached_eq session).trans hattached
    right
    rw [state_detach]
    exact ⟨hanswer, Broker.held_removeSession hattached,
      router.dealer.dealer.held_removeSession hsame⟩

/-! ## Messages -/

/-- What an accepted message of a session leaves behind in the holdings, and what it leads to. -/
inductive Handles (router state : Router) (session : Id) : Message → List Routed → Prop where
  | subscribed (request : Subscribe) (row : Std.ExtTreeSet Id) (id : Id)
      (hrow : router.broker.held[session]? = some row)
      (hbroker : state.broker.held = router.broker.held.insert session (row.insert id))
      (hdealer : state.dealer.dealer.held = router.dealer.dealer.held) :
      Handles router state session (.subscribe request)
        [{ recipient := session
           message := .subscribed { request := request.request, subscription := id } }]
  | unsubscribed (request : Unsubscribe) (row : Std.ExtTreeSet Id)
      (hrow : router.broker.held[session]? = some row)
      (hbroker : state.broker.held =
        router.broker.held.insert session (row.erase request.subscription))
      (hdealer : state.dealer.dealer.held = router.dealer.dealer.held) :
      Handles router state session (.unsubscribe request)
        [{ recipient := session, message := .unsubscribed { request := request.request } }]
  | published (ambient : Ambient) (request : Publish) (publication : Publication)
      (row : Std.ExtTreeSet Id) (hrow : router.broker.held[session]? = some row)
      (hanswer : (router.broker.publish ambient session request).answer = .ok publication)
      (hbroker : state.broker.held = router.broker.held)
      (hdealer : state.dealer.dealer.held = router.dealer.dealer.held) :
      Handles router state session (.publish request) publication.outbound
  | registered (request : Register) (row : Std.ExtTreeSet Id) (id : Id)
      (hrow : router.dealer.dealer.held[session]? = some row)
      (hbroker : state.broker.held = router.broker.held)
      (hdealer : state.dealer.dealer.held =
        router.dealer.dealer.held.insert session (row.insert id)) :
      Handles router state session (.register request)
        [{ recipient := session
           message := .registered { request := request.request, registration := id } }]
  | rejected (request : Register) (row : Std.ExtTreeSet Id) (uri : String)
      (hrow : router.dealer.dealer.held[session]? = some row)
      (hbroker : state.broker.held = router.broker.held)
      (hdealer : state.dealer.dealer.held = router.dealer.dealer.held) :
      Handles router state session (.register request)
        [Dealer.failure session .register request.request uri]
  | unregistered (request : Unregister) (row : Std.ExtTreeSet Id)
      (hrow : router.dealer.dealer.held[session]? = some row)
      (hbroker : state.broker.held = router.broker.held)
      (hdealer : state.dealer.dealer.held =
        router.dealer.dealer.held.insert session (row.erase request.registration)) :
      Handles router state session (.unregister request)
        [{ recipient := session, message := .unregistered { request := request.request } }]
  | exchanged (message : Message) (routed : List Routed)
      (hbroker : state.broker.held = router.broker.held)
      (hdealer : state.dealer.dealer.held = router.dealer.dealer.held)
      (hcalls : ∀ sent ∈ routed, sent.message.concernsCall = true) :
      Handles router state session message routed

/-! ## Requests of the broker -/

section Broker

variable {router : Router} {ambient : Ambient} {session : Id} {routed : List Routed}

theorem handles_subscribe (hrostered : router.broker.Rostered) {request : Subscribe}
    (hanswer : (router.receive ambient session (.subscribe request)).answer = .ok routed) :
    router.Handles (router.receive ambient session (.subscribe request)).state session
      (.subscribe request) routed := by
  rw [router.answer_of_forBroker? rfl, mapError_eq_ok_iff] at hanswer
  obtain ⟨reply, hreply, rfl⟩ := map_eq_ok_iff.mp hanswer
  have hattached := hrostered.attached_of_receive hreply
  obtain ⟨row, hrow⟩ := Table.mem_iff_exists.mp ((hrostered session).mpr hattached)
  obtain ⟨id, hsubscribed, hheld⟩ := Broker.held_subscribe hattached request
  have hsame : (router.broker.subscribe session request).answer = .ok reply := hreply
  rw [hsubscribed, Except.ok.injEq] at hsame
  rw [← hsame]
  refine .subscribed request row id hrow ?_ rfl
  rw [broker_receive]
  refine hheld.trans ?_
  rw [Std.ExtTreeMap.getD_eq_getD_getElem?, hrow, Option.getD_some]

theorem handles_unsubscribe {request : Unsubscribe}
    (hanswer : (router.receive ambient session (.unsubscribe request)).answer = .ok routed) :
    router.Handles (router.receive ambient session (.unsubscribe request)).state session
      (.unsubscribe request) routed := by
  rw [router.answer_of_forBroker? rfl, mapError_eq_ok_iff] at hanswer
  obtain ⟨reply, hreply, rfl⟩ := map_eq_ok_iff.mp hanswer
  have hsame : (router.broker.unsubscribe session request).answer = .ok reply := hreply
  cases hrow : router.broker.held[session]? with
  | none => simp [Broker.unsubscribe, hrow] at hsame
  | some row =>
      by_cases hheld : request.subscription ∈ row
      · obtain ⟨hgranted, hleft⟩ := Broker.held_unsubscribe hrow hheld
        rw [hgranted, Except.ok.injEq] at hsame
        rw [← hsame]
        refine .unsubscribed request row hrow ?_ rfl
        rw [broker_receive]
        exact hleft
      · have hcontains : ¬ row.contains request.subscription = true := hheld
        simp [Broker.unsubscribe, hrow, hcontains] at hsame

theorem handles_publish (hrostered : router.broker.Rostered) {request : Publish}
    (hanswer : (router.receive ambient session (.publish request)).answer = .ok routed) :
    router.Handles (router.receive ambient session (.publish request)).state session
      (.publish request) routed := by
  rw [router.answer_of_forBroker? rfl, mapError_eq_ok_iff] at hanswer
  obtain ⟨publication, hpublication, rfl⟩ := map_eq_ok_iff.mp hanswer
  have hattached := Broker.attached_of_publish hpublication
  obtain ⟨row, hrow⟩ := Table.mem_iff_exists.mp ((hrostered session).mpr hattached)
  refine .published ambient request publication row hrow hpublication ?_ rfl
  rw [broker_receive]

end Broker

/-! ## Requests of the dealer -/

theorem handles_of_serves {router next : Router} {ambient : Ambient} {session : Id}
    {message : Message} {routed : List Routed} (htables : router.dealer.dealer.Tables)
    (hbroker : next.broker = router.broker)
    (hserves : router.dealer.dealer.Serves (.receive ambient session message)
      next.dealer.dealer routed) :
    router.Handles next session message routed := by
  have hkept : next.broker.held = router.broker.held := by rw [hbroker]
  have hrow : router.dealer.dealer.isAttached session = true →
      ∃ row, router.dealer.dealer.held[session]? = some row := by
    intro hattached
    exact Table.mem_iff_exists.mp ((htables.attached_iff session).mpr hattached)
  generalize hleft : next.dealer.dealer = left at hserves
  cases hserves with
  | registered _ _ request hattached =>
      obtain ⟨row, hrow⟩ := hrow hattached
      refine .registered request row _ hrow hkept ?_
      rw [hleft]
      simp only [Dealer.enrolled, Dealer.listed]
      rw [Std.ExtTreeMap.getD_eq_getD_getElem?, hrow]
      rfl
  | joined _ _ request entry found hattached =>
      obtain ⟨row, hrow⟩ := hrow hattached
      refine .registered request row _ hrow hkept ?_
      rw [hleft]
      simp only [Dealer.enrolled]
      rw [Std.ExtTreeMap.getD_eq_getD_getElem?, hrow]
      rfl
  | rejected _ _ request hattached =>
      obtain ⟨row, hrow⟩ := hrow hattached
      exact .rejected request row _ hrow hkept (by rw [hleft])
  | unregistered _ _ request ids hrow =>
      obtain ⟨_, _, hreleased⟩ := router.dealer.dealer.released_eq session ids request.registration
      refine .unregistered request ids hrow hkept ?_
      rw [hleft, hreleased]
  | unresolved | continued | progressed =>
      refine .exchanged _ _ hkept (by rw [hleft]) ?_
      simp [Message.concernsCall, Dealer.failure, ErrorReply.plain]
  | dispatched =>
      refine .exchanged _ _ hkept ?_ (by simp [Message.concernsCall])
      rw [hleft, Dealer.launch_eq]
      rfl
  | closed =>
      refine .exchanged _ _ hkept ?_ (by simp [Message.concernsCall])
      rw [hleft, Dealer.launch_eq]
  | killed | finished | failed | skipped | aborted =>
      refine .exchanged _ _ hkept ?_ ?_
      · obtain ⟨_, _, hdropped⟩ := router.dealer.dealer.dropPending_eq _
        rw [hleft, hdropped]
      · simp [Message.concernsCall, Dealer.failure, Dealer.interruption, ErrorReply.plain]
  | interrupted =>
      refine .exchanged _ _ hkept ?_ (by simp [Message.concernsCall, Dealer.interruption])
      rw [hleft]
      rfl

theorem handles_of_granted {router : Router} (hrostered : router.broker.Rostered)
    (htables : router.dealer.dealer.Tables) {ambient : Ambient} {session : Id} {message : Message}
    {routed : List Routed}
    (hanswer : (router.receive ambient session message).answer = .ok routed) :
    router.Handles (router.receive ambient session message).state session message routed := by
  cases message with
  | subscribe request => exact handles_subscribe hrostered hanswer
  | unsubscribe request => exact handles_unsubscribe hanswer
  | publish request => exact handles_publish hrostered hanswer
  | register | unregister | call | yield | cancel | error =>
      rw [router.answer_of_forDealer? rfl, mapError_eq_ok_iff] at hanswer
      exact handles_of_serves htables rfl (Dealer.serves_of_granted hanswer)
  | _ => contradiction

end Router

end Wamp
