import Mathlib.Data.List.Induction
import Wamp.Proofs.Client
import Wamp.Proofs.Network.Run
import Wamp.Proofs.Router.Handling

/-!
# What clients and their router agree on

A router lists in two tables what its sessions hold, and the client session of each lists the same
from the replies that it has got.  The lists agree throughout every run of a network.  So a client
never gives back what the router does not know it to hold, and it accepts every reply and every
event of the broker.
-/

namespace Wamp

/-! ## Tables that clients mirror -/

namespace Holdings

/-- Exactly the client sessions have a row in a table, and it lists what the client holds. -/
def Mirrors (held : Holdings) (part : Client → Std.ExtTreeSet Id)
    (clients : Std.ExtTreeMap Id Client) : Prop :=
  ∀ session : Id, held[session]? = (clients[session]?).map part

namespace Mirrors

variable {held : Holdings} {part : Client → Std.ExtTreeSet Id}
  {clients : Std.ExtTreeMap Id Client} {session : Id} {client : Client}

theorem client_of_row (hmirrors : held.Mirrors part clients) {row : Std.ExtTreeSet Id}
    (hrow : held[session]? = some row) :
    ∃ client, clients[session]? = some client ∧ part client = row := by
  rw [hmirrors session] at hrow
  exact Option.map_eq_some_iff.mp hrow

theorem holds_iff (hmirrors : held.Mirrors part clients) (hclient : clients[session]? = some client)
    (id : Id) : held.Holds session id ↔ id ∈ part client := by
  have hrow := hmirrors session
  rw [hclient] at hrow
  exact holds_of_getElem? hrow id

theorem insert (hmirrors : held.Mirrors part clients) (session : Id) (client : Client) :
    Mirrors (held.insert session (part client)) part (clients.insert session client) := by
  intro other
  rw [Std.ExtTreeMap.getElem?_insert, Std.ExtTreeMap.getElem?_insert]
  split
  next => rfl
  next => exact hmirrors other

theorem erase (hmirrors : held.Mirrors part clients) (session : Id) :
    Mirrors (held.erase session) part (clients.erase session) := by
  intro other
  rw [Std.ExtTreeMap.getElem?_erase, Std.ExtTreeMap.getElem?_erase]
  split
  next => rfl
  next => exact hmirrors other

theorem update (hmirrors : held.Mirrors part clients) (hclient : clients[session]? = some client)
    {changed : Client} (hpart : part changed = part client) :
    held.Mirrors part (clients.insert session changed) := by
  intro other
  rw [Std.ExtTreeMap.getElem?_insert]
  split
  next hsame =>
    obtain rfl : session = other := Std.LawfulEqCmp.eq_of_compare hsame
    rw [hmirrors session, hclient, Option.map_some, Option.map_some, hpart]
  next => exact hmirrors other

theorem deliver_kept (hmirrors : held.Mirrors part clients) {sent : Routed}
    (hkeeps : ∀ client : Client, part (client.receive sent.message).state = part client) :
    held.Mirrors part (Network.deliver clients sent).1 := by
  intro session
  rw [Network.getElem?_deliver, hmirrors session]
  split
  next =>
    rw [Option.map_map]
    exact congrArg (fun f => (clients[session]?).map f) (funext fun client => (hkeeps client).symm)
  next => rfl

end Mirrors

end Holdings

namespace Network

/-- The router of a network and the client sessions list the same. -/
structure Mirrored (network : Network) : Prop where
  subscriptions : network.router.broker.held.Mirrors Client.subscriptions network.clients
  registrations : network.router.dealer.dealer.held.Mirrors Client.registrations network.clients

/-- The client session of a sender, if there is one, has just let a message pass. -/
def Passed (clients : Std.ExtTreeMap Id Client) (session : Id) (message : Message) : Prop :=
  ∀ passed : Client, clients[session]? = some passed →
    ∃ client : Client, (client.send message).answer = .ok () ∧
      (client.send message).state = passed

theorem Mirrored.record {network : Network} (hmirrored : network.Mirrored) {session : Id}
    {client : Client} (hclient : network.clients[session]? = some client) (message : Message) :
    Mirrored { network with
      clients := network.clients.insert session (client.send message).state } where
  subscriptions := hmirrored.subscriptions.update hclient (client.subscriptions_send message)
  registrations := hmirrored.registrations.update hclient (client.registrations_send message)

theorem passed_of_none {clients : Std.ExtTreeMap Id Client} {session : Id}
    (hnone : clients[session]? = none) (message : Message) : Passed clients session message := by
  intro passed hpassed
  rw [hnone] at hpassed
  contradiction

theorem passed_insert (clients : Std.ExtTreeMap Id Client) (session : Id) {client : Client}
    {message : Message} (hsent : (client.send message).answer = .ok ()) :
    Passed (clients.insert session (client.send message).state) session message := by
  intro passed hpassed
  rw [Std.ExtTreeMap.getElem?_insert_self, Option.some.injEq] at hpassed
  exact ⟨client, hsent, hpassed⟩

section Handled

variable {router state : Router} {clients : Std.ExtTreeMap Id Client} {session : Id}
  {message : Message} {routed : List Routed}

theorem Mirrored.deliverAll_kept (hmirrored : Mirrored { router, clients })
    (hbroker : state.broker.held = router.broker.held)
    (hdealer : state.dealer.dealer.held = router.dealer.dealer.held)
    (hkeeps : ∀ sent ∈ routed, sent.message.keepsHoldings = true) :
    Mirrored { router := state, clients := (deliverAll clients routed).1 } where
  subscriptions := by
    simp only
    rw [hbroker]
    refine deliverAll_induction
      (fun clients => router.broker.held.Mirrors Client.subscriptions clients) ?_
      hmirrored.subscriptions
    intro sent hsent clients hmirrors
    exact hmirrors.deliver_kept fun client => (client.receive_keeps (hkeeps sent hsent)).2
  registrations := by
    simp only
    rw [hdealer]
    refine deliverAll_induction
      (fun clients => router.dealer.dealer.held.Mirrors Client.registrations clients) ?_
      hmirrored.registrations
    intro sent hsent clients hmirrors
    exact hmirrors.deliver_kept fun client => (client.receive_keeps (hkeeps sent hsent)).1

/-- A client session changes its subscriptions with a reply, and the broker has done the same. -/
theorem Mirrored.replied_subscription (hmirrored : Mirrored { router, clients }) {client : Client}
    (hclient : clients[session]? = some client) {reply : Message}
    (hbroker : state.broker.held =
      router.broker.held.insert session (client.receive reply).state.subscriptions)
    (hdealer : state.dealer.dealer.held = router.dealer.dealer.held)
    (hkept : (client.receive reply).state.registrations = client.registrations) :
    Mirrored {
      router := state
      clients := (deliverAll clients [{ recipient := session, message := reply }]).1 } := by
  have hdelivered : (deliverAll clients [{ recipient := session, message := reply }]).1 =
      clients.insert session (client.receive reply).state := deliver_of_client hclient
  rw [hdelivered]
  constructor
  · simp only
    rw [hbroker]
    exact hmirrored.subscriptions.insert session _
  · simp only
    rw [hdealer]
    exact hmirrored.registrations.update hclient hkept

/-- A client session changes its registrations with a reply, and the dealer has done the same. -/
theorem Mirrored.replied_registration (hmirrored : Mirrored { router, clients }) {client : Client}
    (hclient : clients[session]? = some client) {reply : Message}
    (hbroker : state.broker.held = router.broker.held)
    (hdealer : state.dealer.dealer.held =
      router.dealer.dealer.held.insert session (client.receive reply).state.registrations)
    (hkept : (client.receive reply).state.subscriptions = client.subscriptions) :
    Mirrored {
      router := state
      clients := (deliverAll clients [{ recipient := session, message := reply }]).1 } := by
  have hdelivered : (deliverAll clients [{ recipient := session, message := reply }]).1 =
      clients.insert session (client.receive reply).state := deliver_of_client hclient
  rw [hdelivered]
  constructor
  · simp only
    rw [hbroker]
    exact hmirrored.subscriptions.update hclient hkept
  · simp only
    rw [hdealer]
    exact hmirrored.registrations.insert session _

theorem Mirrored.handled (hmirrored : Mirrored { router, clients })
    (hpassed : Passed clients session message)
    (hhandles : router.Handles state session message routed) :
    Mirrored { router := state, clients := (deliverAll clients routed).1 } := by
  cases hhandles with
  | subscribed request row id hrow hbroker hdealer =>
      obtain ⟨passed, hclient, rfl⟩ := hmirrored.subscriptions.client_of_row hrow
      obtain ⟨client, -, rfl⟩ := hpassed _ hclient
      obtain ⟨-, hregistrations, hsubscriptions⟩ := client.receive_subscribed request id
      refine hmirrored.replied_subscription hclient ?_ hdealer
        (hregistrations.trans (client.registrations_send _).symm)
      rw [hbroker, hsubscriptions, client.subscriptions_send]
  | unsubscribed request row hrow hbroker hdealer =>
      obtain ⟨passed, hclient, rfl⟩ := hmirrored.subscriptions.client_of_row hrow
      obtain ⟨client, hsent, rfl⟩ := hpassed _ hclient
      obtain ⟨-, hregistrations, hsubscriptions⟩ :=
        client.receive_unsubscribed request ((client.answer_send_unsubscribe request).mp hsent)
      refine hmirrored.replied_subscription hclient ?_ hdealer
        (hregistrations.trans (client.registrations_send _).symm)
      rw [hbroker, hsubscriptions, client.subscriptions_send]
  | published ambient request publication row hrow hanswer hbroker hdealer =>
      refine hmirrored.deliverAll_kept hbroker hdealer ?_
      intro sent hsent
      cases Broker.sends_of_mem_outbound hanswer hsent <;> rfl
  | registered request row id hrow hbroker hdealer =>
      obtain ⟨passed, hclient, rfl⟩ := hmirrored.registrations.client_of_row hrow
      obtain ⟨client, -, rfl⟩ := hpassed _ hclient
      obtain ⟨-, hregistrations, hsubscriptions⟩ := client.receive_registered request id
      refine hmirrored.replied_registration hclient hbroker ?_
        (hsubscriptions.trans (client.subscriptions_send _).symm)
      rw [hdealer, hregistrations, client.registrations_send]
  | rejected request row uri hrow hbroker hdealer =>
      refine hmirrored.deliverAll_kept hbroker hdealer ?_
      simp [Dealer.failure, Message.keepsHoldings]
  | unregistered request row hrow hbroker hdealer =>
      obtain ⟨passed, hclient, rfl⟩ := hmirrored.registrations.client_of_row hrow
      obtain ⟨client, hsent, rfl⟩ := hpassed _ hclient
      obtain ⟨-, hregistrations, hsubscriptions⟩ :=
        client.receive_unregistered request ((client.answer_send_unregister request).mp hsent)
      refine hmirrored.replied_registration hclient hbroker ?_
        (hsubscriptions.trans (client.subscriptions_send _).symm)
      rw [hdealer, hregistrations, client.registrations_send]
  | exchanged _ _ hbroker hdealer hcalls =>
      refine hmirrored.deliverAll_kept hbroker hdealer ?_
      intro sent hsent
      have hcall := hcalls sent hsent
      generalize sent.message = message at hcall ⊢
      cases message with
      | registered | unregistered | subscribed | unsubscribed =>
          simp [Message.concernsCall] at hcall
      | _ => rfl

end Handled

/-! ## Operations -/

section Operations

variable {network : Network} (horderly : network.router.Orderly)

include horderly

theorem Mirrored.forward (hmirrored : network.Mirrored) {session : Id} {message : Message}
    (hpassed : Passed network.clients session message) (ambient : Ambient) :
    (network.forward ambient session message).state.Mirrored := by
  unfold Network.forward
  simp only
  split
  next error hanswer =>
    rw [congrArg Outcome.state (network.router.receive_of_error hanswer)]
    exact hmirrored
  next outbound hanswer =>
    exact hmirrored.handled hpassed
      (Router.handles_of_granted horderly.rostered horderly.tables hanswer)

theorem Mirrored.perform (hmirrored : network.Mirrored) (operation : Operation) :
    (network.perform operation).state.Mirrored := by
  cases operation with
  | attach session =>
      simp only [Network.perform, attach]
      rcases horderly.together.held_attach session with ⟨⟨error, hanswer⟩, hstate⟩ |
        ⟨hanswer, hbroker, hdealer⟩
      · rw [hanswer, hstate]
        exact hmirrored
      · rw [hanswer]
        constructor
        · simp only
          rw [hbroker]
          exact hmirrored.subscriptions.insert session.id {}
        · simp only
          rw [hdealer]
          exact hmirrored.registrations.insert session.id {}
  | detach session =>
      simp only [Network.perform, detach]
      rcases horderly.together.held_detach session with ⟨⟨error, hanswer⟩, hstate⟩ |
        ⟨hanswer, hbroker, hdealer⟩
      · rw [hanswer, hstate]
        exact hmirrored
      · rw [hanswer]
        constructor
        · simp only
          rw [hbroker]
          exact hmirrored.subscriptions.erase session
        · simp only
          rw [hdealer]
          exact hmirrored.registrations.erase session
  | send ambient session message =>
      simp only [Network.perform, send]
      split
      next hnone => exact hmirrored.forward horderly (passed_of_none hnone message) ambient
      next client hclient =>
        have hrecorded := hmirrored.record hclient message
        split
        next => exact hrecorded
        next hsent =>
          refine Mirrored.forward ?_ hrecorded (passed_insert _ session hsent) ambient
          exact horderly

omit horderly in
/-- What is delivered comes from the router, after the sender's client session has recorded its
message. -/
theorem Mirrored.of_delivered (hmirrored : network.Mirrored) {ambient : Ambient} {session : Id}
    {message : Message} {deliveries : List Delivery}
    (hanswer : (network.send ambient session message).answer = .ok deliveries) :
    ∃ clients routed, Mirrored { network with clients } ∧ Passed clients session message ∧
      (network.router.receive ambient session message).answer = .ok routed ∧
      deliveries = (deliverAll clients routed).2 ∧
      (network.send ambient session message).state.router =
        (network.router.receive ambient session message).state := by
  have hforward : ∀ clients : Std.ExtTreeMap Id Client,
      (({ network with clients } : Network).forward ambient session message).answer =
        .ok deliveries →
      ∃ routed, (network.router.receive ambient session message).answer = .ok routed ∧
        deliveries = (deliverAll clients routed).2 := by
    intro clients hforwarded
    unfold Network.forward at hforwarded
    simp only at hforwarded
    split at hforwarded
    next => contradiction
    next routed hrouted => exact ⟨routed, hrouted, (Except.ok.inj hforwarded).symm⟩
  unfold send at hanswer ⊢
  split at hanswer
  next hnone =>
    obtain ⟨routed, hrouted, hdeliveries⟩ := hforward network.clients hanswer
    exact ⟨network.clients, routed, hmirrored, passed_of_none hnone message, hrouted, hdeliveries,
      network.router_forward ambient session message⟩
  next client hclient =>
    simp only at hanswer ⊢
    split at hanswer
    next => contradiction
    next hsent =>
      obtain ⟨routed, hrouted, hdeliveries⟩ := hforward _ hanswer
      exact ⟨_, routed, hmirrored.record hclient message, passed_insert _ session hsent, hrouted,
        hdeliveries, router_forward _ ambient session message⟩

end Operations

/-! ## Verdicts -/

section Verdicts

variable {router state : Router} {clients : Std.ExtTreeMap Id Client} {session : Id}
  {message : Message} {routed : List Routed} {delivery : Delivery}

theorem getElem?_deliverAll_events
    (hevents : ∀ sent ∈ routed, ∃ event, sent.message = .event event) (session : Id) :
    (deliverAll clients routed).1[session]? = clients[session]? := by
  refine deliverAll_induction (fun left => left[session]? = clients[session]?) ?_ rfl
  intro sent hsent left hleft
  obtain ⟨event, hevent⟩ := hevents sent hsent
  rw [getElem?_deliver, hevent]
  split
  next =>
    rw [hleft]
    simp [Client.state_receive_event]
  next => exact hleft

theorem verdict_of_single {reply : Message} {client : Client}
    (hclient : clients[session]? = some client) (haccepts : (client.receive reply).answer = .ok ())
    (hmem : delivery ∈ (deliverAll clients [{ recipient := session, message := reply }]).2) :
    delivery.verdict = some (.ok ()) := by
  have hdelivery : delivery ∈ [(deliver clients { recipient := session, message := reply }).2] :=
    hmem
  rw [List.mem_singleton] at hdelivery
  rw [hdelivery, delivery_deliver]
  simp only
  rw [hclient, Option.map_some, haccepts]

/-- The events come first and change no client session, so the acknowledgement is expected. -/
theorem Mirrored.accepts_publication (hmirrored : Mirrored { router, clients })
    (htables : router.broker.Tables) {request : Publish}
    (hpassed : Passed clients session (.publish request)) {row : Std.ExtTreeSet Id}
    (hrow : router.broker.held[session]? = some row) {ambient : Ambient}
    {publication : Publication}
    (hanswer : (router.broker.publish ambient session request).answer = .ok publication)
    (hmem : delivery ∈ (deliverAll clients publication.outbound).2) :
    delivery.verdict = some (.ok ()) := by
  obtain ⟨before, after, hsplit, hverdict⟩ := verdict_of_mem hmem
  -- Only events come before the message, so its recipient is in the state from before them.
  have hsends := Broker.sends_of_mem_outbound hanswer
    (hsplit ▸ List.mem_append_right before List.mem_cons_self)
  rw [getElem?_deliverAll_events fun sent => Broker.event_of_before hsplit] at hverdict
  rw [hverdict]
  generalize delivery.routed = sent at hsends
  cases hsends with
  | event _ _ _ _ subscription recipient event hresolved hrecipient hevent =>
      have hsubscribes := htables.subscribes_of_resolve? hresolved hrecipient
      obtain ⟨ids, hrow, hheld⟩ := (htables.holds_iff _ _).mpr hsubscribes
      obtain ⟨client, hclient, rfl⟩ := hmirrored.subscriptions.client_of_row hrow
      rw [← hevent] at hheld
      rw [hclient, Option.map_some, (client.answer_receive_event event).mpr hheld]
  | published _ _ _ hasked =>
      obtain ⟨passed, hclient, -⟩ := hmirrored.subscriptions.client_of_row hrow
      obtain ⟨client, -, rfl⟩ := hpassed _ hclient
      rw [hclient, Option.map_some, client.receive_published request hasked]

theorem Mirrored.accepts (hmirrored : Mirrored { router, clients })
    (htables : router.broker.Tables) (hpassed : Passed clients session message)
    (hhandles : router.Handles state session message routed)
    (hmem : delivery ∈ (deliverAll clients routed).2)
    (hconcern : delivery.routed.message.concernsCall = false) :
    delivery.verdict = some (.ok ()) := by
  cases hhandles with
  | subscribed request row id hrow =>
      obtain ⟨passed, hclient, -⟩ := hmirrored.subscriptions.client_of_row hrow
      obtain ⟨client, -, rfl⟩ := hpassed _ hclient
      exact verdict_of_single hclient (client.receive_subscribed request id).1 hmem
  | unsubscribed request row hrow =>
      obtain ⟨passed, hclient, -⟩ := hmirrored.subscriptions.client_of_row hrow
      obtain ⟨client, hsent, rfl⟩ := hpassed _ hclient
      have hheld := (client.answer_send_unsubscribe request).mp hsent
      exact verdict_of_single hclient (client.receive_unsubscribed request hheld).1 hmem
  | published ambient request publication row hrow hanswer =>
      exact hmirrored.accepts_publication htables hpassed hrow hanswer hmem
  | registered request row id hrow =>
      obtain ⟨passed, hclient, -⟩ := hmirrored.registrations.client_of_row hrow
      obtain ⟨client, -, rfl⟩ := hpassed _ hclient
      exact verdict_of_single hclient (client.receive_registered request id).1 hmem
  | rejected request row uri hrow =>
      obtain ⟨passed, hclient, -⟩ := hmirrored.registrations.client_of_row hrow
      obtain ⟨client, -, rfl⟩ := hpassed _ hclient
      exact verdict_of_single hclient (client.receive_rejection request uri) hmem
  | unregistered request row hrow =>
      obtain ⟨passed, hclient, -⟩ := hmirrored.registrations.client_of_row hrow
      obtain ⟨client, hsent, rfl⟩ := hpassed _ hclient
      have hheld := (client.answer_send_unregister request).mp hsent
      exact verdict_of_single hclient (client.receive_unregistered request hheld).1 hmem
  | exchanged _ _ _ _ hcalls =>
      obtain ⟨before, after, hsplit, -⟩ := verdict_of_mem hmem
      have hcall := hcalls delivery.routed (by simp [hsplit])
      rw [hconcern] at hcall
      contradiction

end Verdicts

/-! ## Giving back -/

section GivingBack

variable {network : Network} {session : Id} {client : Client}
  (hclient : network.clients[session]? = some client)

include hclient

theorem send_of_granted {ambient : Ambient} {message : Message} {routed : List Routed}
    (hsent : (client.send message).answer = .ok ())
    (hgranted : (network.router.receive ambient session message).answer = .ok routed) :
    ∃ deliveries, (network.send ambient session message).answer = .ok deliveries := by
  unfold send
  simp only [hclient, hsent]
  unfold Network.forward
  simp only [hgranted]
  exact ⟨_, rfl⟩

theorem Mirrored.delivers_unsubscribe (hmirrored : network.Mirrored) {request : Unsubscribe}
    (ambient : Ambient) (hsent : (client.send (.unsubscribe request)).answer = .ok ()) :
    ∃ deliveries, (network.send ambient session (.unsubscribe request)).answer =
      .ok deliveries := by
  have hrow := hmirrored.subscriptions session
  rw [hclient, Option.map_some] at hrow
  obtain ⟨hgranted, -⟩ :=
    Broker.held_unsubscribe hrow ((client.answer_send_unsubscribe request).mp hsent)
  have hreceived : (network.router.broker.receive session (.unsubscribe request)).answer =
      .ok { recipient := session, message := .unsubscribed { request := request.request } } :=
    hgranted
  have hrouted : (network.router.receive ambient session (.unsubscribe request)).answer =
      .ok [{ recipient := session, message := .unsubscribed { request := request.request } }] := by
    rw [network.router.answer_of_forBroker? rfl, mapError_eq_ok_iff, Broker.perform]
    exact map_eq_ok_iff.mpr ⟨_, hreceived, rfl⟩
  exact send_of_granted hclient hsent hrouted

theorem Mirrored.delivers_unregister (hmirrored : network.Mirrored) {request : Unregister}
    (ambient : Ambient) (hsent : (client.send (.unregister request)).answer = .ok ()) :
    ∃ deliveries, (network.send ambient session (.unregister request)).answer =
      .ok deliveries := by
  have hrow := hmirrored.registrations session
  rw [hclient, Option.map_some] at hrow
  have hcontains : client.registrations.contains request.registration = true :=
    (client.answer_send_unregister request).mp hsent
  have hgranted : (network.router.dealer.dealer.unregister session request).answer =
      .ok [{ recipient := session, message := .unregistered { request := request.request } }] := by
    simp only [Dealer.unregister, hrow, if_pos hcontains, Outcome.answer_granted]
  have hrouted : (network.router.receive ambient session (.unregister request)).answer =
      .ok [{ recipient := session, message := .unregistered { request := request.request } }] := by
    rw [network.router.answer_of_forDealer? rfl, mapError_eq_ok_iff]
    exact hgranted
  exact send_of_granted hclient hsent hrouted

end GivingBack

/-! ## Runs -/

theorem orderly_final (realm : String) (settings : Settings) (operations : List Operation) :
    (Run.final perform (ofSettings realm settings) operations).router.Orderly :=
  router_final Router.Orderly (fun _ operation horderly => horderly.perform operation)
    (Router.orderly_ofSettings realm settings) operations

theorem mirrored_final (realm : String) (settings : Settings) (operations : List Operation) :
    (Run.final perform (ofSettings realm settings) operations).Mirrored := by
  induction operations using List.reverseRecOn with
  | nil =>
      constructor <;>
      · intro session
        simp [ofSettings, Router.ofSettings, Broker.ofSettings, AnnouncingDealer.ofSettings]
  | append_singleton operations operation ih =>
      rw [Run.final_concat]
      exact ih.perform (orderly_final realm settings operations) operation

theorem brokerTables_final (realm : String) (settings : Settings) (operations : List Operation)
    (hdrawn : (drawnIds realm settings operations).length < maxId.toNat) :
    (Run.final perform (ofSettings realm settings) operations).router.broker.Tables := by
  refine (router_final_of_drawn
    (fun router => router.Together ∧ router.broker.Tables) ?_ ⟨rfl, ?_⟩ operations hdrawn).2
  · rintro router operation hroom ⟨htogether, htables⟩
    refine ⟨htogether.perform operation, ?_⟩
    rw [htogether.broker_perform]
    cases operation.forBroker? router.realm with
    | none => exact htables
    | some part => exact htables.perform hroom part
  · exact { Broker.tables_empty with }

/-- Throughout a run of a network, every attached session has a client session, which holds exactly
what broker and dealer list for it.  An unsubscription or unregistration that the client session
lets pass is granted by the router, and whatever the router sends that does not belong to a call is
accepted by the client session of its recipient. -/
theorem agreement_of_run (realm : String) (settings : Settings) (operations : List Operation)
    (hdrawn : (drawnIds realm settings operations).length < maxId.toNat) :
    let network := Run.final perform (ofSettings realm settings) operations
    (∀ session, session ∈ network.clients ↔ network.router.broker.isAttached session = true) ∧
    (∀ (session : Id) (client : Client), network.clients[session]? = some client →
      (∀ id, id ∈ client.subscriptions ↔ network.router.broker.Subscribes session id) ∧
      (∀ id, id ∈ client.registrations ↔ network.router.dealer.dealer.ServedBy session id) ∧
      (∀ ambient request, (client.send (.unsubscribe request)).answer = .ok () →
        ∃ deliveries, (network.send ambient session (.unsubscribe request)).answer =
          .ok deliveries) ∧
      ∀ ambient request, (client.send (.unregister request)).answer = .ok () →
        ∃ deliveries, (network.send ambient session (.unregister request)).answer =
          .ok deliveries) ∧
    ∀ operation deliveries, (network.perform operation).answer = .ok deliveries →
      ∀ delivery ∈ deliveries, delivery.routed.message.concernsCall = false →
        delivery.verdict = some (.ok ()) := by
  intro network
  have horderly := orderly_final realm settings operations
  have hmirrored := mirrored_final realm settings operations
  have htables := brokerTables_final realm settings operations hdrawn
  refine ⟨?_, ?_, ?_⟩
  · intro session
    have hrow := hmirrored.subscriptions session
    rw [← htables.attached_iff, Std.ExtTreeMap.mem_iff_isSome_getElem?,
      Std.ExtTreeMap.mem_iff_isSome_getElem?, hrow, Option.isSome_map]
  · intro session client hclient
    refine ⟨?_, ?_, ?_, ?_⟩
    · intro id
      rw [← htables.holds_iff, hmirrored.subscriptions.holds_iff hclient]
    · intro id
      rw [← horderly.tables.holds_iff, hmirrored.registrations.holds_iff hclient]
    · intro ambient request hsent
      exact hmirrored.delivers_unsubscribe hclient ambient hsent
    · intro ambient request hsent
      exact hmirrored.delivers_unregister hclient ambient hsent
  · intro operation deliveries hanswer delivery hmem hconcern
    cases operation with
    | attach session | detach session =>
        obtain ⟨-, -, rfl⟩ := map_eq_ok_iff.mp hanswer
        simp at hmem
    | send ambient session message =>
        obtain ⟨clients, routed, hrecorded, hpassed, hrouted, rfl, -⟩ :=
          hmirrored.of_delivered hanswer
        exact hrecorded.accepts htables hpassed
          (Router.handles_of_granted horderly.rostered horderly.tables hrouted) hmem hconcern

/-- Two sessions follow a topic, and one of them gives it back.  The other is refused a procedure
that the first serves. -/
def sharedTopic : List Operation :=
  let member (id : Id) : Session :=
    { id, realm := "realm1", authid := "", authrole := "", staticSerializer := false }
  let ambient : Ambient := { drawnId := 7, drawnIndex := 0, now := "" }
  [.attach (member 1), .attach (member 2),
    .send ambient 1 (.subscribe { request := 1, options := ∅, topic := "com.news" }),
    .send ambient 2 (.subscribe { request := 1, options := ∅, topic := "com.news" }),
    .send ambient 1 (.register { request := 2, options := ∅, procedure := "com.sum" }),
    .send ambient 2 (.register { request := 2, options := ∅, procedure := "com.sum" }),
    .send ambient 1 (.unsubscribe { request := 3, subscription := 1 })]

theorem agreement_sharedTopic :
    let ambient : Ambient := { drawnId := 8, drawnIndex := 0, now := "" }
    let news : Message := .publish {
      request := 3
      options := (∅ : Dict).insert "acknowledge" (.boolean true)
      topic := "com.news" }
    let network := Run.final perform (ofSettings "realm1" {}) sharedTopic
    (drawnIds "realm1" {} sharedTopic).length < maxId.toNat ∧
      network.router.broker.Subscribes 2 1 ∧ ¬ network.router.broker.Subscribes 1 1 ∧
      network.router.dealer.dealer.ServedBy 1 7 ∧
      ∃ deliveries, (network.send ambient 2 news).answer = .ok deliveries ∧
        deliveries.map (fun delivery => delivery.routed.message.kind) = [.event, .published] ∧
        ∀ delivery ∈ deliveries, delivery.verdict = some (.ok ()) := by
  intro ambient news network
  have hdrawn : (drawnIds "realm1" {} sharedTopic).length < maxId.toNat := by decide +kernel
  have hfirst : (network.clients[1]?).map (fun client : Client =>
      (client.subscriptions.toList, client.registrations.toList)) = some ([], [7]) := by
    decide +kernel
  have hsecond : (network.clients[2]?).map (fun client : Client =>
      client.subscriptions.toList) = some [1] := by
    decide +kernel
  have hkinds : (network.send ambient 2 news).answer.toOption.map
      (fun deliveries => deliveries.map fun delivery => delivery.routed.message.kind) =
        some [.event, .published] := by
    decide +kernel
  obtain ⟨-, hclients, haccepts⟩ := agreement_of_run "realm1" {} sharedTopic hdrawn
  obtain ⟨one, hone, hlists⟩ := Option.map_eq_some_iff.mp hfirst
  obtain ⟨two, htwo, hlist⟩ := Option.map_eq_some_iff.mp hsecond
  obtain ⟨hnothing, hserves⟩ := Prod.mk.inj hlists
  obtain ⟨hsubscribes, -⟩ := hclients 2 two htwo
  obtain ⟨hleft, hserved, -⟩ := hclients 1 one hone
  refine ⟨hdrawn, ?_, ?_, ?_, ?_⟩
  · rw [← hsubscribes, ← Std.ExtTreeSet.mem_toList, hlist]
    decide
  · rw [← hleft, ← Std.ExtTreeSet.mem_toList, hnothing]
    decide
  · rw [← hserved, ← Std.ExtTreeSet.mem_toList, hserves]
    decide
  · cases hanswer : (network.send ambient 2 news).answer with
    | error error => simp [hanswer, Except.toOption] at hkinds
    | ok deliveries =>
        rw [hanswer] at hkinds
        have hshown : deliveries.map (fun delivery => delivery.routed.message.kind) =
            [.event, .published] := Option.some.inj hkinds
        refine ⟨deliveries, rfl, hshown, ?_⟩
        intro delivery hmem
        apply haccepts (.send ambient 2 news) deliveries hanswer delivery hmem
        have hkind := List.mem_map_of_mem
          (f := fun delivery : Delivery => delivery.routed.message.kind) hmem
        rw [hshown] at hkind
        generalize delivery.routed.message = message at hkind ⊢
        cases message <;> simp [Message.kind, Message.concernsCall] at hkind ⊢

end Network

end Wamp
