import Wamp.Proofs.Broker.Tables

/-!
# What a broker sends

A broker sends four kinds of messages.  Each is the reply to a request of its recipient, or an
event that goes to a subscriber of the subscription that a publication finds.
-/

namespace Wamp.Broker

/-- A message that a granted operation leads to, with one case for every kind. -/
inductive Sends (broker : Broker) : Operation → Routed → Prop where
  | subscribed (session : Id) (request : Subscribe) (id : Id) :
      Sends broker (.receive session (.subscribe request))
        { recipient := session
          message := .subscribed { request := request.request, subscription := id } }
  | unsubscribed (session : Id) (request : Unsubscribe) :
      Sends broker (.receive session (.unsubscribe request))
        { recipient := session, message := .unsubscribed { request := request.request } }
  | event (ambient : Ambient) (session : Id) (request : Publish) (policy : MatchPolicy)
      (subscription : Subscription) (recipient : Id) (event : Event)
      (hresolved : broker.resolve? request.topic = some (policy, subscription))
      (hrecipient : recipient ∈ subscription.subscribers)
      (hevent : event.subscription = subscription.id) :
      Sends broker (.publish ambient session request) { recipient, message := .event event }
  | published (ambient : Ambient) (session : Id) (request : Publish)
      (hasked : request.options.flag "acknowledge" = true) :
      Sends broker (.publish ambient session request)
        { recipient := session
          message := .published { request := request.request, publication := ambient.drawnId } }

variable {broker : Broker}

theorem Catalogued.subscribes_of_resolve? (hcatalogued : broker.Catalogued) {topic : String}
    {policy : MatchPolicy} {subscription : Subscription}
    (hresolved : broker.resolve? topic = some (policy, subscription))
    {session : Id} (hsession : session ∈ subscription.subscribers) :
    broker.Subscribes session subscription.id :=
  ⟨subscription, hcatalogued.getElem?_of_resolve? hresolved, hsession⟩

/-- What a publication leads to: the event of its publisher, and the confirmation if it was asked
for. -/
theorem sent_of_publish {ambient : Ambient} {session : Id} {request : Publish}
    {publication : Publication}
    (hanswer : (broker.publish ambient session request).answer = .ok publication)
    {sent : Routed} (hsent : sent ∈ publication.outbound) :
    (∃ publisher policy subscription recipient, broker.sessions[session]? = some publisher ∧
      broker.resolve? request.topic = some (policy, subscription) ∧
      recipient ∈ subscription.subscribers ∧
      sent = {
        recipient
        message := .event {
          request.toArguments with
          subscription := subscription.id
          publication := ambient.drawnId
          details := broker.eventDetails publisher policy request.topic } }) ∨
    (request.options.flag "acknowledge" = true ∧
      sent = {
        recipient := session
        message := .published {
          request := request.request, publication := ambient.drawnId } }) := by
  have hconfirmed : ∀ confirmation : Option Routed,
      (if request.options.flag "acknowledge" then
        some ({ recipient := session
                message := .published
                  { request := request.request, publication := ambient.drawnId } } : Routed)
      else none) = confirmation → sent ∈ confirmation.toList →
      request.options.flag "acknowledge" = true ∧
        sent = {
          recipient := session
          message := .published
            { request := request.request, publication := ambient.drawnId } } := by
    rintro confirmation rfl hmem
    split at hmem
    next hasked =>
      rw [Option.toList_some, List.mem_singleton] at hmem
      exact ⟨hasked, hmem⟩
    next => simp at hmem
  unfold publish at hanswer
  split at hanswer
  next => simp at hanswer
  next publisher hpublisher =>
    simp only at hanswer
    split at hanswer
    next =>
      rw [Outcome.answer_granted, Except.ok.injEq] at hanswer
      rw [← hanswer, Publication.outbound, List.nil_append] at hsent
      exact Or.inr (hconfirmed _ rfl hsent)
    next policy subscription hresolved =>
      rw [Outcome.answer_granted, Except.ok.injEq] at hanswer
      rw [← hanswer, Publication.outbound, List.mem_append] at hsent
      rcases hsent with hevent | hconfirmation
      · obtain ⟨recipient, hrecipient, rfl⟩ := List.mem_map.mp hevent
        exact Or.inl ⟨publisher, policy, subscription, recipient, hpublisher, hresolved,
          Std.ExtTreeSet.mem_toList.mp hrecipient, rfl⟩
      · exact Or.inr (hconfirmed _ rfl hconfirmation)

theorem sends_of_mem_outbound {ambient : Ambient} {session : Id} {request : Publish}
    {publication : Publication}
    (hanswer : (broker.publish ambient session request).answer = .ok publication)
    {sent : Routed} (hsent : sent ∈ publication.outbound) :
    broker.Sends (.publish ambient session request) sent := by
  rcases sent_of_publish hanswer hsent with
    ⟨_, policy, subscription, recipient, -, hresolved, hrecipient, rfl⟩ | ⟨hasked, rfl⟩
  · exact .event ambient session request policy subscription recipient _ hresolved hrecipient rfl
  · exact .published ambient session request hasked

/-- Nothing but events comes before a message of a publication. -/
theorem event_of_before {publication : Publication} {before after : List Routed} {sent : Routed}
    (hsplit : publication.outbound = before ++ sent :: after) {earlier : Routed}
    (hearlier : earlier ∈ before) : ∃ event, earlier.message = .event event := by
  have hevents : ∀ events rest : List Routed, events ++ rest = before ++ sent :: after →
      rest.length ≤ 1 → earlier ∈ events := by
    intro events rest hsame hlength
    rcases List.append_eq_append_iff.mp hsame with ⟨middle, hbefore, hrest⟩ | ⟨middle, rfl, -⟩
    · have hnone : middle = [] := by
        rw [hrest, List.length_append, List.length_cons] at hlength
        exact List.eq_nil_of_length_eq_zero (by omega)
      rw [hbefore, hnone, List.append_nil] at hearlier
      exact hearlier
    · exact List.mem_append_left _ hearlier
  have hmem := hevents _ _ hsplit (by cases publication.acknowledgement <;> simp)
  split at hmem
  next => simp at hmem
  next event _ =>
    obtain ⟨recipient, -, rfl⟩ := List.mem_map.mp hmem
    exact ⟨event, rfl⟩

theorem sends_of_mem {operation : Operation} {routed : List Routed}
    (hanswer : (broker.perform operation).answer = .ok routed) {sent : Routed}
    (hsent : sent ∈ routed) : broker.Sends operation sent := by
  cases operation with
  | attach session | detach session =>
      obtain ⟨-, -, rfl⟩ := map_eq_ok_iff.mp hanswer
      simp at hsent
  | receive session message =>
      obtain ⟨reply, hreply, rfl⟩ := map_eq_ok_iff.mp hanswer
      obtain rfl := List.mem_singleton.mp hsent
      cases message with
      | subscribe request =>
          simp only [receive, subscribe] at hreply
          split at hreply
          next =>
            rw [Outcome.answer_granted, Except.ok.injEq] at hreply
            rw [← hreply]
            exact .subscribed session request _
          next => simp at hreply
      | unsubscribe request =>
          simp only [receive, unsubscribe] at hreply
          split at hreply
          next => simp at hreply
          next =>
            split at hreply
            next =>
              rw [Outcome.answer_granted, Except.ok.injEq] at hreply
              rw [← hreply]
              exact .unsubscribed session request
            next => simp at hreply
      | _ => simp [receive] at hreply
  | publish ambient session request =>
      obtain ⟨publication, hpublication, rfl⟩ := map_eq_ok_iff.mp hanswer
      exact sends_of_mem_outbound hpublication hsent
  | disclose on =>
      obtain rfl := Except.ok.inj hanswer
      simp at hsent

/-- A broker sends events for nothing but a publication. -/
theorem publish_of_event {operation : Operation} {routed : List Routed}
    (hanswer : (broker.perform operation).answer = .ok routed) {sent : Routed}
    (hsent : sent ∈ routed) {body : Event} (hbody : sent.message = .event body) :
    ∃ ambient session request publisher policy, operation = .publish ambient session request ∧
      broker.sessions[session]? = some publisher ∧
      body.details = broker.eventDetails publisher policy request.topic := by
  have hsends := sends_of_mem hanswer hsent
  cases hsends with
  | subscribed | unsubscribed | published => simp at hbody
  | event ambient session request =>
      obtain ⟨publication, hpublication, rfl⟩ := map_eq_ok_iff.mp hanswer
      obtain rfl := Message.event.inj hbody
      rcases sent_of_publish hpublication hsent with
        ⟨publisher, policy, _, _, hpublisher, -, -, hsame⟩ | ⟨-, hsame⟩
      · obtain rfl := Message.event.inj (congrArg Routed.message hsame)
        exact ⟨ambient, session, request, publisher, policy, rfl, hpublisher, rfl⟩
      · nomatch congrArg Routed.message hsame

end Wamp.Broker
