import Wamp.Proofs.Router.Handling
import Wamp.Proofs.Router.Successors

/-!
# Who is sent a message

Whatever a router sends goes to sessions that are attached when it is sent, although the recipient
is often read from a table and not looked up among the sessions.  A request is answered to its
sender, and the reply of a callee goes to the session that made the call.
-/

namespace Wamp

namespace Dealer

/-- Why a message is sent when a session has sent another one: it replies to the session, it passes
on to others what the session asked for, or it takes the answer to an invocation in flight to the
caller. -/
inductive Delivers (dealer : Dealer) (session : Id) (message : Message) (sent : Routed) : Prop where
  | reply (hrequest : message.kind ∉ [.yield, .error]) (hrecipient : sent.recipient = session) :
      Delivers dealer session message sent
  | passedOn (hrequest : message.kind ∉ [.yield, .error])
      (hkind : sent.message.kind ∈ [.event, .invocation, .interrupt]) :
      Delivers dealer session message sent
  | relayed (invocation : Id) (pending : Pending)
      (hreplies : message.repliesTo? = some invocation)
      (hpending : dealer.pending[invocation]? = some pending)
      (hkey : sent.answeredCall? = some pending.key) :
      Delivers dealer session message sent

/-- Only what the session asked for is answered, and only to the session. -/
theorem Delivers.recipient_eq {dealer : Dealer} {session : Id} {message : Message} {sent : Routed}
    (hdelivers : dealer.Delivers session message sent)
    (hkind : sent.message.kind ∈
        [.subscribed, .unsubscribed, .published, .registered, .unregistered] ∨
      sent.message.kind = .error ∧ message.kind ∈ [.register, .call, .cancel]) :
    sent.recipient = session := by
  cases hdelivers with
  | reply _ hrecipient => exact hrecipient
  | passedOn _ hpassed =>
      cases hsent : sent.message.kind <;> simp [hsent] at hkind hpassed
  | relayed invocation pending hreplies hpending hkey =>
      have hanswered := (Routed.answeredCall?_eq_some.mp hkey).2
      rcases hkind with hlisted | ⟨-, hrequest⟩
      · cases hsent : sent.message <;>
          simp [hsent, Message.answeredCall?, Message.kind] at hanswered hlisted
      · cases message <;> simp [Message.repliesTo?, Message.kind] at hreplies hrequest

section Serves

variable {dealer state : Dealer} {ambient : Ambient} {session : Id} {message : Message}
  {routed : List Routed}

/-- One message is sent for another one, and two for some cancels. -/
theorem Serves.length_routed
    (hserves : dealer.Serves (.receive ambient session message) state routed) :
    routed.length = 1 ∨ message.kind = .cancel ∧ routed.length = 2 := by
  cases hserves with
  | aborted => exact Or.inr ⟨rfl, rfl⟩
  | _ => exact Or.inl rfl

/-- A result goes to a caller that is attached, as an answer to its call. -/
theorem Linked.relays (hlinked : dealer.Linked) {request : Yield} {pending : Pending}
    {caller : Session} (hpending : dealer.pendingFor? session request.request = some pending)
    (hcaller : dealer.sessions[pending.caller]? = some caller) {sent : Routed}
    (hrecipient : sent.recipient = caller.id)
    (hanswered : sent.message.answeredCall? = some pending.request) :
    dealer.isAttached sent.recipient = true ∧
      dealer.Delivers session (.yield request) sent := by
  have hsame := hlinked.session_id _ _ hcaller
  refine ⟨?_, .relayed request.request pending rfl (pendingFor?_eq_some.mp hpending).1 ?_⟩
  · rw [hrecipient, hsame]
    exact isAttached_iff.mpr ⟨caller, hcaller⟩
  · exact Routed.answeredCall?_eq_some.mpr ⟨hrecipient.trans hsame, hanswered⟩

theorem Linked.delivers (hlinked : dealer.Linked) (htables : dealer.Tables)
    (hserves : dealer.Serves (.receive ambient session message) state routed) {sent : Routed}
    (hsent : sent ∈ routed) :
    dealer.isAttached sent.recipient = true ∧ dealer.Delivers session message sent := by
  have hcanceler : ∀ request, message = .cancel request → dealer.isAttached session = true := by
    rintro request rfl
    exact hlinked.canceler hserves
  cases hserves with
  | registered _ _ _ hattached | joined _ _ _ _ _ hattached | rejected _ _ _ hattached =>
      obtain rfl := List.mem_singleton.mp hsent
      exact ⟨hattached, .reply (by simp [Message.kind]) rfl⟩
  | unregistered _ _ _ _ hrow =>
      obtain rfl := List.mem_singleton.mp hsent
      exact ⟨(htables.attached_iff session).mp (Table.mem_of_getElem? hrow),
        .reply (by simp [Message.kind]) rfl⟩
  | unresolved _ _ _ _ hcaller =>
      obtain rfl := List.mem_singleton.mp hsent
      exact ⟨isAttached_iff.mpr ⟨_, hcaller⟩, .reply (by simp [Message.kind]) rfl⟩
  | dispatched _ _ _ _ _ _ _ _ _ _ _ _ _ _ _ _ hcallee =>
      obtain rfl := List.mem_singleton.mp hsent
      exact ⟨isAttached_iff.mpr ⟨_, hcallee⟩,
        .passedOn (by simp [Message.kind]) (by simp [Message.kind])⟩
  | continued _ _ _ _ _ _ _ _ _ hcallee | closed _ _ _ _ _ _ _ _ _ hcallee =>
      obtain rfl := List.mem_singleton.mp hsent
      exact ⟨isAttached_iff.mpr ⟨_, hcallee⟩,
        .passedOn (by simp [Message.kind]) (by simp [Message.kind])⟩
  | killed _ _ _ _ _ hpending hcaller | progressed _ _ _ _ _ hpending hcaller =>
      obtain rfl := List.mem_singleton.mp hsent
      exact hlinked.relays hpending hcaller rfl rfl
  | finished _ _ _ _ _ hpending hcaller =>
      obtain rfl := List.mem_singleton.mp hsent
      exact hlinked.relays hpending hcaller rfl rfl
  | failed _ _ reply pending hanswers hpending hcaller =>
      obtain rfl := List.mem_singleton.mp hsent
      exact ⟨hcaller, .relayed reply.request pending (if_pos hanswers)
        (pendingFor?_eq_some.mp hpending).1 rfl⟩
  | skipped _ _ request =>
      obtain rfl := List.mem_singleton.mp hsent
      exact ⟨hcanceler request rfl, .reply (by simp [Message.kind]) rfl⟩
  | interrupted _ _ _ _ _ _ _ _ hcallee =>
      obtain rfl := List.mem_singleton.mp hsent
      exact ⟨hcallee, .passedOn (by simp [Message.kind]) (by simp [interruption, Message.kind])⟩
  | aborted _ _ request _ _ _ _ _ hcallee =>
      rw [List.mem_cons, List.mem_singleton] at hsent
      rcases hsent with rfl | rfl
      · exact ⟨hcallee, .passedOn (by simp [Message.kind]) (by simp [interruption, Message.kind])⟩
      · exact ⟨hcanceler request rfl, .reply (by simp [Message.kind]) rfl⟩

/-- What a call leads to a callee with is in flight for it. -/
theorem Linked.pending_of_called (hlinked : dealer.Linked) {request : Call}
    (hserves : dealer.Serves (.receive ambient session (.call request)) state routed)
    {sent : Routed} (hsent : sent ∈ routed) {body : Invocation}
    (hbody : sent.message = .invocation body) :
    ∃ pending : Pending, state.pending[body.request]? = some pending ∧
      pending.key = { caller := session, request := request.request } := by
  cases hserves with
  | unresolved =>
      rw [List.mem_singleton] at hsent
      subst hsent
      simp [failure] at hbody
  | dispatched _ _ _ caller callee entry found position =>
      rw [List.mem_singleton] at hsent
      subst hsent
      obtain rfl := Message.invocation.inj hbody
      exact ⟨_, getElem?_launch_self (dealer.committed entry.value found position) _, rfl⟩
  | continued _ _ _ caller callee opened pending _ hopen =>
      rw [List.mem_singleton] at hsent
      subst hsent
      obtain rfl := Message.invocation.inj hbody
      obtain ⟨hindex, hpending⟩ := filed_of_open hopen
      exact ⟨pending, hpending, hlinked.indexed.key_of_invocationOf hindex hpending⟩
  | closed =>
      rw [List.mem_singleton] at hsent
      subst hsent
      obtain rfl := Message.invocation.inj hbody
      exact ⟨_, getElem?_launch_self dealer _, rfl⟩

end Serves

end Dealer

namespace Router

section Receive

variable {router : Router} {ambient : Ambient} {session : Id} {message : Message}
  {routed : List Routed}

theorem delivers_of_receive (horderly : router.Orderly)
    (hpart : Operation.forBroker? router.realm (.receive ambient session message) =
      some (.receive session message))
    (hanswer : (router.receive ambient session message).answer = .ok routed) :
    ∃ sent, routed = [sent] ∧ router.broker.isAttached sent.recipient = true ∧
      router.dealer.dealer.Delivers session message sent := by
  rw [router.answer_of_forBroker? hpart, mapError_eq_ok_iff] at hanswer
  have hsends : ∀ sent ∈ routed, router.broker.Sends (.receive session message) sent :=
    fun _ hsent => Broker.sends_of_mem hanswer hsent
  obtain ⟨reply, hreply, rfl⟩ := map_eq_ok_iff.mp hanswer
  have hattached := horderly.rostered.attached_of_receive hreply
  refine ⟨reply, rfl, ?_⟩
  cases hsends reply List.mem_cons_self <;>
    exact ⟨hattached, .reply (by simp [Message.kind]) rfl⟩

theorem delivers_of_publish {request : Publish} (htables : router.broker.Tables)
    (hanswer : (router.receive ambient session (.publish request)).answer = .ok routed)
    {sent : Routed} (hsent : sent ∈ routed) :
    router.broker.isAttached sent.recipient = true ∧
      router.dealer.dealer.Delivers session (.publish request) sent := by
  rw [router.answer_of_forBroker? rfl, mapError_eq_ok_iff] at hanswer
  have hsends := Broker.sends_of_mem hanswer hsent
  obtain ⟨publication, hpublication, rfl⟩ := map_eq_ok_iff.mp hanswer
  cases hsends with
  | event _ _ _ _ _ _ _ hresolved hrecipient =>
      have hsubscribes := htables.subscribes_of_resolve? hresolved hrecipient
      exact ⟨htables.attached_of_subscribes hsubscribes,
        .passedOn (by simp [Message.kind]) (by simp [Message.kind])⟩
  | published =>
      exact ⟨Broker.attached_of_publish hpublication, .reply (by simp [Message.kind]) rfl⟩

/-- Every message goes to a session that is attached, for one of the reasons above. -/
theorem delivers_of_granted (horderly : router.Orderly) (htables : router.broker.Tables)
    (hlinked : router.dealer.dealer.Linked)
    (hanswer : (router.receive ambient session message).answer = .ok routed) :
    (message.kind ≠ .publish → routed.length = 1 ∨ message.kind = .cancel ∧ routed.length = 2) ∧
      ∀ sent ∈ routed, router.broker.isAttached sent.recipient = true ∧
        router.dealer.dealer.Delivers session message sent := by
  cases message with
  | publish request => exact ⟨by simp [Message.kind], fun _ => delivers_of_publish htables hanswer⟩
  | subscribe | unsubscribe =>
      obtain ⟨sent, rfl, hsent⟩ := delivers_of_receive horderly rfl hanswer
      refine ⟨fun _ => Or.inl rfl, fun other hother => ?_⟩
      rwa [List.mem_singleton.mp hother]
  | register | unregister | call | yield | cancel | error =>
      rw [router.answer_of_forDealer? rfl, mapError_eq_ok_iff] at hanswer
      have hserves : router.dealer.dealer.Serves (.receive ambient session _) _ routed :=
        Dealer.serves_of_granted hanswer
      refine ⟨fun _ => hserves.length_routed, fun sent hsent => ?_⟩
      rw [← horderly.together.isAttached_eq]
      exact hlinked.delivers horderly.tables hserves hsent
  | _ => contradiction

end Receive

/-! ## The call that an invocation belongs to -/

section Called

variable {realm : String} {settings : Settings}

/-- The identifier of an invocation stands for the call that led to it, whichever chunk that
was. -/
theorem Called.standsFor {operations : List Operation}
    (hdrawn : (drawnInvocations realm settings operations).length < maxId.toNat)
    {key : CallKey} {invocation : Id}
    (hcalled : Called (Run.history perform (ofSettings realm settings) operations) key
      invocation) :
    ∃ callee, (Run.final perform (ofSettings realm settings) operations).dealer.dealer.StandsFor
      invocation callee key := by
  obtain ⟨occurrence, hmem, ambient, call, callee, body, hoperation, hrequest, hanswer, rfl⟩ :=
    hcalled
  obtain ⟨first, operation, rest, rfl, rfl⟩ := Run.mem_history_iff.mp hmem
  simp only at hoperation hanswer
  subst hoperation
  have hpart : Operation.forDealer? (Run.final perform (ofSettings realm settings) first).realm
      (.receive ambient key.caller (.call call)) =
        some (.serve (.receive ambient key.caller (.call call))) := rfl
  rw [Router.perform, answer_of_forDealer? _ hpart, mapError_eq_ok_iff] at hanswer
  obtain ⟨hlinked, -⟩ := sound_final first (drawnInvocations_lt hdrawn)
  have hserves := Dealer.serves_of_granted hanswer
  obtain ⟨pending, hpending, hkey⟩ :=
    hlinked.pending_of_called hserves (List.mem_singleton_self _) rfl
  rw [← (together_final realm settings first).pending_perform hpart] at hpending
  have hstands := standsFor_of_pending hdrawn hpending
  rw [hkey, hrequest] at hstands
  exact ⟨pending.callee, hstands⟩

/-- An invocation belongs to one call.  Its caller made the call, and did so since it attached. -/
structure BelongsTo (start : Router) (operations : List Operation) (invocation : Id)
    (key : CallKey) : Prop where
  called : Called (Run.history perform start operations) key invocation
  since : ∀ before after, operations = before ++ after →
    (Run.final perform start before).broker.isAttached key.caller = false →
      Called (Run.history perform (Run.final perform start before) after) key invocation
  only : ∀ other, Called (Run.history perform start operations) other invocation → other = key

theorem belongsTo_of_pending {operations : List Operation}
    (hdrawn : (drawnInvocations realm settings operations).length < maxId.toNat)
    {invocation : Id} {pending : Pending}
    (hpending : (Run.final perform (ofSettings realm settings)
      operations).dealer.dealer.pending[invocation]? = some pending) :
    BelongsTo (ofSettings realm settings) operations invocation pending.key := by
  have hsince : ∀ before after, operations = before ++ after →
      (Run.final perform (ofSettings realm settings) before).broker.isAttached pending.caller =
        false →
      Called (Run.history perform (Run.final perform (ofSettings realm settings) before) after)
        pending.key invocation := by
    rintro before after rfl hgone
    exact called_since hdrawn hpending hgone
  have hnobody : (ofSettings realm settings).broker.isAttached pending.caller = false := by
    simp [ofSettings, Broker.ofSettings, Broker.isAttached]
  refine ⟨hsince [] operations rfl hnobody, hsince, fun other hcalled => ?_⟩
  obtain ⟨callee, hstands⟩ := hcalled.standsFor hdrawn
  exact (hstands.key_eq pending hpending).symm

end Called

/-- Messages go to attached sessions only.  A request is answered to its sender.  The reply to an
invocation goes to the caller of that invocation, as the answer to the call.  Every message leads to
one other message, but for a publication, and for a cancel, which leads to one or two. -/
theorem recipients_of_run (realm : String) (settings : Settings) (operations : List Operation)
    (hsubscriptions : (drawnIds realm settings operations).length < maxId.toNat)
    (hinvocations : (drawnInvocations realm settings operations).length < maxId.toNat)
    (ambient : Ambient) (session : Id) (message : Message) (routed : List Routed)
    (hanswer : ((Run.final perform (ofSettings realm settings) operations).receive ambient session
      message).answer = .ok routed) :
    let start := ofSettings realm settings
    let router := Run.final perform start operations
    (∀ sent ∈ routed,
      router.broker.isAttached sent.recipient = true ∧
      router.dealer.dealer.isAttached sent.recipient = true ∧
      (sent.message.kind ∈
            [.subscribed, .unsubscribed, .published, .registered, .unregistered] ∨
          sent.message.kind = .error ∧ message.kind ∈ [.register, .call, .cancel] →
        sent.recipient = session)) ∧
    (message.kind ∈ [.yield, .error] →
      ∃ invocation sent key, message.repliesTo? = some invocation ∧ routed = [sent] ∧
        sent.answeredCall? = some key ∧ BelongsTo start operations invocation key) ∧
    (message.kind ∉ [.publish, .cancel] → routed.length = 1) ∧
    (message.kind = .cancel → routed.length = 1 ∨ routed.length = 2) := by
  intro start router
  obtain ⟨hlinked, -⟩ := sound_final operations hinvocations
  obtain ⟨htables, -⟩ := tracks_final realm settings operations hsubscriptions
  have horderly := orderly_final realm settings operations
  obtain ⟨hlength, hdelivers⟩ := delivers_of_granted horderly htables hlinked hanswer
  have hone : message.kind ∉ [.publish, .cancel] → routed.length = 1 := by
    intro hkind
    simp only [List.mem_cons, List.not_mem_nil, or_false, not_or] at hkind
    exact (hlength hkind.1).resolve_right fun hcancel => hkind.2 hcancel.1
  refine ⟨fun sent hsent => ?_, fun hreply => ?_, hone, fun hcancel => ?_⟩
  · obtain ⟨hattached, hreason⟩ := hdelivers sent hsent
    exact ⟨hattached, (horderly.together.isAttached_eq _).trans hattached, hreason.recipient_eq⟩
  · have hother : message.kind ∉ [.publish, .cancel] := by
      intro hmem
      cases hkind : message.kind <;> simp [hkind] at hreply hmem
    obtain ⟨sent, rfl⟩ := List.length_eq_one_iff.mp (hone hother)
    obtain ⟨-, hreason⟩ := hdelivers sent List.mem_cons_self
    cases hreason with
    | reply hrequest | passedOn hrequest => exact absurd hreply hrequest
    | relayed invocation pending hreplies hpending hkey =>
        exact ⟨invocation, sent, pending.key, hreplies, rfl, hkey,
          belongsTo_of_pending hinvocations hpending⟩
  · exact (hlength (by simp [hcancel])).imp_right And.right

/-- Session 1 is handed a call of session 2. -/
def servedCall : List Operation :=
  let member (id : Id) : Session :=
    { id, realm := "realm1", authid := "", authrole := "", staticSerializer := false }
  let ambient : Ambient := { drawnId := 7, drawnIndex := 0, now := "" }
  [.attach (member 1), .attach (member 2),
    .receive ambient 1 (.register { request := 1, options := ∅, procedure := "com.sum" }),
    .receive ambient 2 (.call { request := 4, options := ∅, procedure := "com.sum" })]

theorem recipients_servedCall :
    let router := Run.final perform (ofSettings "realm1" {}) servedCall
    let ambient : Ambient := { drawnId := 7, drawnIndex := 0, now := "" }
    let result : Routed := { recipient := 2, message := .result { request := 4, details := ∅ } }
    (drawnIds "realm1" {} servedCall).length < maxId.toNat ∧
      (drawnInvocations "realm1" {} servedCall).length < maxId.toNat ∧
      (router.receive ambient 1 (.yield { request := 1, options := ∅ })).answer = .ok [result] ∧
      router.broker.isAttached 2 = true ∧ router.dealer.dealer.isAttached 2 = true ∧
      BelongsTo (ofSettings "realm1" {}) servedCall 1 { caller := 2, request := 4 } := by
  intro router ambient result
  have hsubscriptions : (drawnIds "realm1" {} servedCall).length < maxId.toNat := by
    decide +kernel
  have hinvocations : (drawnInvocations "realm1" {} servedCall).length < maxId.toNat := by
    decide +kernel
  have hanswer : (router.receive ambient 1 (.yield { request := 1, options := ∅ })).answer =
      .ok [result] := by decide +kernel
  obtain ⟨hrecipients, hreplies, -⟩ := recipients_of_run "realm1" {} servedCall hsubscriptions
    hinvocations ambient 1 (.yield { request := 1, options := ∅ }) [result] hanswer
  obtain ⟨hbroker, hdealer, -⟩ := hrecipients result List.mem_cons_self
  obtain ⟨invocation, sent, key, hinvocation, hsent, hkey, hbelongs⟩ :=
    hreplies (by simp [Message.kind])
  obtain rfl : 1 = invocation := Option.some.inj hinvocation
  obtain rfl : result = sent := (List.cons.inj hsent).1
  obtain rfl : { caller := 2, request := 4 } = key := Option.some.inj hkey
  exact ⟨hsubscriptions, hinvocations, hanswer, hbroker, hdealer, hbelongs⟩

end Router

end Wamp
