import Wamp.Proofs.Dealer.Identities
import Wamp.Proofs.Dealer.Replies
import Wamp.Proofs.Router.Publishing
import Wamp.Proofs.Strangers

/-!
# Sessions that take over an identifier

A session may attach under an identifier that another one had before it detached.  The new session
gets no event and no reply that the old one asked for.  What the old one was handed is another
matter.  An invocation that is still in flight is the new session's from then on, and one that is
settled is nobody's.
-/

namespace Wamp

/-- Whoever follows a topic was told so after it was detached. -/
theorem SubscriberChange.Follows.since {first later : List SubscriberChange} {session id : Id}
    {topic : String}
    (hfollows : Follows (first ++ .detached session :: later) session topic id) :
    Follows later session topic id := by
  obtain ⟨before, policy, after, hsplit, hleft, hdetached⟩ := hfollows
  rcases List.append_eq_append_iff.mp hsplit with ⟨middle, rfl, hmiddle⟩ | ⟨middle, rfl, hmiddle⟩
  · cases middle with
    | nil => simp at hmiddle
    | cons change rest =>
        rw [List.cons_append, List.cons.injEq] at hmiddle
        exact ⟨rest, policy, after, hmiddle.2, hleft, hdetached⟩
  · cases middle with
    | nil => simp at hmiddle
    | cons change rest =>
        rw [List.cons_append, List.cons.injEq] at hmiddle
        rw [hmiddle.2] at hdetached
        simp at hdetached

open SubscriberChange

namespace Router

/-! ## What was sent and called before -/

/-- Some operation sent an invocation to a session. -/
def Handed (history : List (Occurrence Operation RouterError (List Routed)))
    (session invocation : Id) : Prop :=
  ∃ occurrence ∈ history, ∃ routed, occurrence.answer = .ok routed ∧
    ∃ body : Invocation, { recipient := session, message := .invocation body } ∈ routed ∧
      body.request = invocation

/-- Some operation was a call of a session that was dispatched as an invocation. -/
def Called (history : List (Occurrence Operation RouterError (List Routed)))
    (key : CallKey) (invocation : Id) : Prop :=
  ∃ occurrence ∈ history, ∃ (ambient : Ambient) (call : Call) (callee : Id) (body : Invocation),
    occurrence.operation = .receive ambient key.caller (.call call) ∧ call.request = key.request ∧
    occurrence.answer = .ok [{ recipient := callee, message := .invocation body }] ∧
    body.request = invocation

theorem handed_of_answer {router : Router} {before after : List Operation} {operation : Operation}
    {session : Id} {body : Invocation}
    (hanswer : ((Run.final perform router before).perform operation).answer =
      .ok [{ recipient := session, message := .invocation body }]) :
    Handed (Run.history perform router (before ++ operation :: after)) session body.request :=
  ⟨_, Run.mem_history_iff.mpr ⟨before, operation, after, rfl, rfl⟩, _, hanswer, body,
    List.mem_singleton_self _, rfl⟩

section Invocations

variable {realm : String} {settings : Settings}

theorem sound_final (operations : List Operation)
    (hdrawn : (drawnInvocations realm settings operations).length < maxId.toNat) :
    let dealer := (Run.final perform (ofSettings realm settings) operations).dealer.dealer
    dealer.Linked ∧ dealer.Counted ∧ dealer.ids.last.toNat < maxId.toNat := by
  intro dealer
  have hfinal := dealer_final realm settings operations
  rw [drawnInvocations_eq] at hdrawn
  have hsound := AnnouncingDealer.sound_final _ hdrawn
  rw [← hfinal] at hsound
  exact hsound

theorem drawnInvocations_lt {before after : List Operation}
    (hdrawn : (drawnInvocations realm settings (before ++ after)).length < maxId.toNat) :
    (drawnInvocations realm settings before).length < maxId.toNat :=
  Nat.lt_of_le_of_lt (Run.length_drawn_le perform _ (ofSettings realm settings) before after) hdrawn

theorem standsFor_final {before after : List Operation}
    (hdrawn : (drawnInvocations realm settings (before ++ after)).length < maxId.toNat)
    {invocation callee : Id} {key : CallKey}
    (hstands : (Run.final perform (ofSettings realm settings) before).dealer.dealer.StandsFor
      invocation callee key) :
    (Run.final perform (ofSettings realm settings) (before ++ after)).dealer.dealer.StandsFor
      invocation callee key := by
  rw [drawnInvocations_eq, dealing_append] at hdrawn
  rw [dealer_final] at hstands ⊢
  rw [dealing_append]
  exact AnnouncingDealer.standsFor_final hdrawn hstands

/-- What an operation has in flight under an identifier is what the identifier stands for from then
on. -/
theorem standsFor_of_pending {before after : List Operation} {operation : Operation}
    (hdrawn : (drawnInvocations realm settings (before ++ operation :: after)).length <
      maxId.toNat)
    {invocation : Id} {pending : Pending}
    (hpending : ((Run.final perform (ofSettings realm settings) before).perform
      operation).state.dealer.dealer.pending[invocation]? = some pending) :
    (Run.final perform (ofSettings realm settings)
      (before ++ operation :: after)).dealer.dealer.StandsFor invocation pending.callee
        pending.key := by
  rw [List.append_cons] at hdrawn ⊢
  rw [← Run.final_concat] at hpending
  obtain ⟨-, hcounted, -⟩ := sound_final (before ++ [operation]) (drawnInvocations_lt hdrawn)
  exact standsFor_final hdrawn (hcounted.standsFor hpending)

/-- What becomes of the invocations in flight when the dealer is sent a message. -/
theorem Together.pending_perform {router : Router} (htogether : router.Together)
    {operation : Operation} {part : Dealer.Operation}
    (hpart : operation.forDealer? router.realm = some (.serve part)) :
    (router.perform operation).state.dealer.dealer.pending =
      (router.dealer.dealer.perform part).state.pending := by
  rw [htogether.dealer_perform operation, hpart]
  rfl

/-- The identifier of an invocation that was sent to a session stands for something that this
session was handed. -/
theorem Handed.standsFor {before after : List Operation}
    (hdrawn : (drawnInvocations realm settings (before ++ after)).length < maxId.toNat)
    {session invocation : Id}
    (hhanded : Handed (Run.history perform (ofSettings realm settings) before) session invocation) :
    ∃ key,
      (Run.final perform (ofSettings realm settings) (before ++ after)).dealer.dealer.StandsFor
        invocation session key := by
  obtain ⟨occurrence, hmem, routed, hanswer, body, hsent, rfl⟩ := hhanded
  obtain ⟨first, operation, rest, rfl, rfl⟩ := Run.mem_history_iff.mp hmem
  rw [List.append_assoc, List.cons_append] at hdrawn ⊢
  obtain ⟨part, hpart, hdealer⟩ := dealer_of_sent hanswer hsent (by simp [Message.kind])
  obtain ⟨pending, hpending, hcallee⟩ :=
    (Dealer.serves_of_granted hdealer).pending_of_invocation hsent rfl
  rw [← (together_final realm settings first).pending_perform hpart] at hpending
  have hstands := standsFor_of_pending hdrawn hpending
  rw [hcallee] at hstands
  exact ⟨pending.key, hstands⟩

theorem called_of_entered {router : Router} (htogether : router.Together)
    (hlinked : router.dealer.dealer.Linked) (hfresh : router.dealer.dealer.HasFreshId)
    {operation : Operation} {invocation : Id}
    (hbefore : invocation ∉ router.dealer.dealer.pending)
    (hafter : invocation ∈ (router.perform operation).state.dealer.dealer.pending) :
    ∃ ambient session request route body,
      operation = .receive ambient session (.call request) ∧
      (router.perform operation).answer =
        .ok [{ recipient := route.callee, message := .invocation body }] ∧
      body.request = invocation ∧
      (router.perform operation).state.dealer.dealer.pending[invocation]? =
        some (.ofCall session route request) := by
  have hstate := htogether.dealer_perform operation
  cases hpart : operation.forDealer? router.realm with
  | none =>
      rw [hstate, hpart] at hafter
      exact absurd hafter hbefore
  | some part =>
      rw [hpart, Option.elim_some] at hstate
      rw [hstate] at hafter ⊢
      obtain ⟨ambient, session, request, route, body, rfl, hanswer, hbody, -, hpending⟩ :=
        AnnouncingDealer.opens_of_entered hlinked hfresh hbefore hafter
      obtain rfl := receive_of_forDealer? hpart
      refine ⟨ambient, session, request, route, body, rfl, ?_, hbody, hpending⟩
      have hreceived := router.answer_of_forDealer? hpart
      rw [hanswer] at hreceived
      exact hreceived

/-- What is in flight for a session was called for since the session was last not attached. -/
theorem called_since {before after : List Operation}
    (hdrawn : (drawnInvocations realm settings (before ++ after)).length < maxId.toNat)
    {invocation : Id} {pending : Pending}
    (hpending : (Run.final perform (ofSettings realm settings)
      (before ++ after)).dealer.dealer.pending[invocation]? = some pending)
    (hgone : (Run.final perform (ofSettings realm settings) before).broker.isAttached
      pending.caller = false) :
    Called (Run.history perform (Run.final perform (ofSettings realm settings) before) after)
      pending.key invocation := by
  -- An identifier stands for one call for good, and a call in flight has a caller that is attached.
  have hbefore : invocation ∉
      (Run.final perform (ofSettings realm settings) before).dealer.dealer.pending := by
    intro hmem
    obtain ⟨hlinked, hcounted, -⟩ := sound_final before (drawnInvocations_lt hdrawn)
    obtain ⟨old, hold⟩ := Table.mem_iff_exists.mp hmem
    have hkey := (standsFor_final hdrawn (hcounted.standsFor hold)).key_eq pending hpending
    have hcaller : pending.caller = old.caller := congrArg CallKey.caller hkey
    have hattached := hlinked.caller_attached invocation old hold
    rw [(together_final realm settings before).isAttached_eq, ← hcaller, hgone] at hattached
    contradiction
  have hafter : invocation ∈ (Run.final perform
      (Run.final perform (ofSettings realm settings) before) after).dealer.dealer.pending := by
    rw [← Run.final_append]
    exact Table.mem_of_getElem? hpending
  obtain ⟨first, operation, rest, rfl, hout, hin⟩ :=
    Run.exists_entered (fun router : Router => invocation ∈ router.dealer.dealer.pending)
      hbefore hafter
  rw [← List.append_assoc] at hdrawn hpending
  obtain ⟨hlinked, hcounted, hroom⟩ := sound_final (before ++ first) (drawnInvocations_lt hdrawn)
  rw [← Run.final_append] at hout hin
  obtain ⟨ambient, session, request, route, body, rfl, hanswer, hbody, hopened⟩ :=
    called_of_entered (together_final realm settings (before ++ first)) hlinked
      (hcounted.hasFreshId hroom) hout hin
  have hkey := (standsFor_of_pending hdrawn hopened).key_eq pending hpending
  have hcaller : pending.caller = session := congrArg CallKey.caller hkey
  have hrequest : pending.request = request.request := congrArg CallKey.request hkey
  rw [Run.final_append] at hanswer
  refine ⟨_, Run.mem_history_iff.mpr ⟨first, _, rest, rfl, rfl⟩, ambient, request, route.callee,
    body, ?_, hrequest.symm, hanswer, hbody⟩
  rw [← hcaller]
  rfl

/-- A reply to a call answers the call that the router was just sent, or one in flight. -/
theorem answered_of_sent {router : Router} (hlinked : router.dealer.dealer.Linked)
    {operation : Operation} {routed : List Routed}
    (hanswer : (router.perform operation).answer = .ok routed) {sent : Routed}
    (hsent : sent ∈ routed) {key : CallKey} (hkey : sent.answeredCall? = some key) :
    (∃ ambient call, operation = .receive ambient key.caller (.call call) ∧
      call.request = key.request) ∨
    ∃ (invocation : Id) (pending : Pending),
      router.dealer.dealer.pending[invocation]? = some pending ∧ pending.key = key := by
  have hkind : sent.message.kind ∉ [.event, .published, .subscribed, .unsubscribed] := by
    have hmessage := (Routed.answeredCall?_eq_some.mp hkey).2
    cases hbody : sent.message <;>
      simp [hbody, Message.kind, Message.answeredCall?] at hmessage ⊢
  obtain ⟨part, hpart, hdealer⟩ := dealer_of_sent hanswer hsent hkind
  have haccounts := hlinked.accounts (Dealer.serves_of_granted hdealer)
  rcases haccounts.expected key (List.mem_filterMap.mpr ⟨sent, hsent, hkey⟩) with hcall | hmem
  · left
    cases part with
    | receive ambient session message =>
        cases message with
        | call call =>
            obtain rfl := Option.some.inj hcall
            exact ⟨ambient, call, receive_of_forDealer? hpart, rfl⟩
        | _ => simp [Dealer.Operation.call?] at hcall
    | _ => simp [Dealer.Operation.call?] at hcall
  · right
    obtain ⟨invocation, hindex⟩ := Table.mem_iff_exists.mp hmem
    obtain ⟨pending, hpending, hsame⟩ := (hlinked.indexed key invocation).mp hindex
    exact ⟨invocation, pending, hpending, hsame⟩

/-- A reply to a session answers a call that it made since it was last not attached. -/
theorem answered_since {before after : List Operation}
    (hdrawn : (drawnInvocations realm settings (before ++ after)).length < maxId.toNat)
    {session : Id}
    (hgone : (Run.final perform (ofSettings realm settings) before).broker.isAttached session =
      false)
    {operation : Operation} {routed : List Routed}
    (hanswer : ((Run.final perform (ofSettings realm settings) (before ++ after)).perform
      operation).answer = .ok routed)
    {sent : Routed} (hsent : sent ∈ routed) {key : CallKey}
    (hkey : sent.answeredCall? = some key) (hcaller : key.caller = session) :
    (∃ ambient call, operation = .receive ambient session (.call call) ∧
      call.request = key.request) ∨
    ∃ invocation pending,
      (Run.final perform (ofSettings realm settings)
        (before ++ after)).dealer.dealer.pending[invocation]? = some pending ∧
      pending.key = key ∧
      Called (Run.history perform (Run.final perform (ofSettings realm settings) before) after) key
        invocation := by
  subst hcaller
  obtain ⟨hlinked, -⟩ := sound_final _ hdrawn
  rcases answered_of_sent hlinked hanswer hsent hkey with hcall | hpending
  · exact Or.inl hcall
  · obtain ⟨invocation, pending, hpending, rfl⟩ := hpending
    exact Or.inr ⟨invocation, pending, hpending, rfl, called_since hdrawn hpending hgone⟩

end Invocations

/-! ## What a session was handed -/

section Handed

variable {router : Router} {invocation session : Id} {key : CallKey}

theorem accepts_reply_iff (hlinked : router.dealer.dealer.Linked) {message : Message}
    (hreplies : message.repliesTo? = some invocation)
    (hstands : router.dealer.dealer.StandsFor invocation session key) (ambient : Ambient) :
    (∃ routed, (router.receive ambient session message).answer = .ok routed) ↔
      invocation ∈ router.dealer.dealer.pending := by
  have hpart : Operation.forDealer? router.realm (.receive ambient session message) =
      some (.serve (.receive ambient session message)) := by
    cases message with
    | yield | error => rfl
    | _ => simp [Message.repliesTo?] at hreplies
  rw [router.answer_of_forDealer? hpart]
  simp only [mapError_eq_ok_iff]
  refine (hlinked.accepts_reply_iff hreplies ambient).trans ?_
  constructor
  · intro hexpects
    obtain ⟨found, pending, hfound, hpending, -⟩ := hexpects
    rw [hreplies, Option.some.injEq] at hfound
    rw [hfound]
    exact Table.mem_of_getElem? hpending
  · intro hmem
    obtain ⟨pending, hpending⟩ := Table.mem_iff_exists.mp hmem
    exact ⟨invocation, pending, hreplies, hpending, hstands.callee_eq pending hpending⟩

theorem mem_pending_of_sent (hstands : router.dealer.dealer.StandsFor invocation session key)
    (hroom : router.dealer.dealer.ids.last.toNat < maxId.toNat) {operation : Operation}
    {routed : List Routed} (hanswer : (router.perform operation).answer = .ok routed)
    {sent : Routed} (hsent : sent ∈ routed)
    (hmention : sent.message.invocation? = some invocation) :
    invocation ∈ router.dealer.dealer.pending := by
  have hkind : sent.message.kind ∉ [.event, .published, .subscribed, .unsubscribed] := by
    cases hbody : sent.message <;> simp [hbody, Message.kind, Message.invocation?] at hmention ⊢
  obtain ⟨part, -, hdealer⟩ := dealer_of_sent hanswer hsent hkind
  have hserves := Dealer.serves_of_granted hdealer
  rcases Dealer.mem_pending_of_mentioned hserves hsent hmention with hpending | hdrawn
  · exact hpending
  · exact absurd hdrawn (Dealer.ne_next_of_passed hstands.passed hroom)

/-- The caller of what is in flight for a session can have it mentioned to the session. -/
theorem mentions_of_pending (htogether : router.Together) (hlinked : router.dealer.dealer.Linked)
    (hattached : router.broker.isAttached session = true)
    (hstands : router.dealer.dealer.StandsFor invocation session key)
    (hmem : invocation ∈ router.dealer.dealer.pending) :
    ∃ operation routed, (router.perform operation).answer = .ok routed ∧
      ∃ sent ∈ routed, sent.recipient = session ∧
        sent.message.invocation? = some invocation := by
  obtain ⟨pending, hpending⟩ := Table.mem_iff_exists.mp hmem
  have hcallee := hstands.callee_eq pending hpending
  have hpresent : router.dealer.dealer.isAttached pending.callee = true := by
    rw [hcallee, htogether.isAttached_eq]
    exact hattached
  let options : Dict := (∅ : Dict).insert "mode" (.text "kill")
  have hmode : CancelMode.ofOptions options = .ok .kill := by decide +kernel
  let request : Cancel := { request := pending.request, options }
  let ambient : Ambient := { drawnId := 0, drawnIndex := 0, now := "" }
  have hkill := hlinked.receive_kill hpending hpresent (rfl : request.request = _) hmode ambient
  have hpart : Operation.forDealer? router.realm
      (.receive ambient pending.caller (.cancel request)) =
        some (.serve (.receive ambient pending.caller (.cancel request))) := rfl
  have hanswer : (router.perform (.receive ambient pending.caller (.cancel request))).answer =
      .ok [Dealer.interruption .kill invocation pending] := by
    rw [Router.perform, router.answer_of_forDealer? hpart, mapError_eq_ok_iff]
    exact hkill
  exact ⟨_, _, hanswer, _, List.mem_singleton_self _, hcallee, rfl⟩

end Handed

/-! ## Events -/

theorem changes_append (realm : String) (settings : Settings) (first second : List Operation) :
    changes realm settings (first ++ second) =
      changes realm settings first ++
        (Run.history perform (Run.final perform (ofSettings realm settings) first)
          second).filterMap change? := by
  unfold changes
  rw [Run.history_append, List.filterMap_append]

theorem follows_of_event {router : Router} {trail : List SubscriberChange}
    (htracks : router.broker.Tracks trail) (hcatalogued : router.broker.Catalogued)
    {operation : Operation} {routed : List Routed}
    (hanswer : (router.perform operation).answer = .ok routed) {recipient : Id} {event : Event}
    (hsent : { recipient, message := .event event } ∈ routed) :
    ∃ topic, Follows trail recipient topic event.subscription := by
  obtain ⟨part, -, hbroker⟩ := broker_of_sent hanswer hsent (by simp [Message.kind])
  cases Broker.sends_of_mem hbroker hsent with
  | event ambient session request policy subscription _ _ hresolved hrecipient hevent =>
      have hfollows := (htracks.prefers hcatalogued hresolved).2
      exact ⟨subscription.topic, (hfollows _ _).mpr ⟨hrecipient, hevent⟩⟩

/-! ## The session that detaches -/

theorem Together.isAttached_detach {router : Router} (htogether : router.Together) {session : Id}
    (hattached : router.broker.isAttached session = true) :
    (router.perform (.detach session)).state.broker.isAttached session = false := by
  have hbroker := htogether.broker_perform (.detach session)
  have hsessions := router.broker.sessions_removeSession hattached
  unfold Broker.isAttached
  rw [hbroker]
  simp only [Operation.forBroker?, Option.elim_some, Broker.perform]
  rw [hsessions]
  simp

theorem Together.change?_detach {router : Router} (htogether : router.Together) {session : Id}
    (hattached : router.broker.isAttached session = true) :
    change? {
      operation := .detach session
      answer := (router.perform (.detach session)).answer } = some (.detached session) := by
  simp only [Router.perform, htogether.answer_detach hattached]
  rfl

theorem changes_detach {realm : String} {settings : Settings} {before after : List Operation}
    {session : Id}
    (hattached : (Run.final perform (ofSettings realm settings) before).broker.isAttached session =
      true) :
    changes realm settings (before ++ .detach session :: after) =
      changes realm settings before ++ .detached session ::
        (Run.history perform
          (Run.final perform (ofSettings realm settings) (before ++ [.detach session]))
          after).filterMap change? := by
  rw [List.append_cons, changes_append, changes_concat,
    (together_final realm settings before).change?_detach hattached]
  simp

/-- A session that attaches under an identifier which another session had is a new session, but
for the invocations that the other one left in flight.  What was sent to the other one as an
invocation can be answered by the new one, and is mentioned to it again, exactly as long as it is
in flight.  A reply to a call answers a call that the new session made, and an event belongs to a
topic that it subscribed to. -/
theorem successors_of_run (realm : String) (settings : Settings) (before after : List Operation)
    (session : Id)
    (hsubscriptions : (drawnIds realm settings (before ++ .detach session :: after)).length <
      maxId.toNat)
    (hinvocations : (drawnInvocations realm settings (before ++ .detach session :: after)).length <
      maxId.toNat)
    (hold : (Run.final perform (ofSettings realm settings) before).broker.isAttached session =
      true)
    (hnew : (Run.final perform (ofSettings realm settings)
      (before ++ .detach session :: after)).broker.isAttached session = true) :
    let start := ofSettings realm settings
    let left := Run.final perform start (before ++ [.detach session])
    let router := Run.final perform start (before ++ .detach session :: after)
    let since := Run.history perform left after
    (∀ invocation, Handed (Run.history perform start before) session invocation →
      (∀ ambient message, message.repliesTo? = some invocation →
        ((∃ routed, (router.receive ambient session message).answer = .ok routed) ↔
          invocation ∈ router.dealer.dealer.pending)) ∧
      ((∃ operation routed, (router.perform operation).answer = .ok routed ∧
          ∃ sent ∈ routed, sent.recipient = session ∧
            sent.message.invocation? = some invocation) ↔
        invocation ∈ router.dealer.dealer.pending)) ∧
    ∀ operation routed, (router.perform operation).answer = .ok routed → ∀ sent ∈ routed,
      (∀ key, sent.answeredCall? = some key → key.caller = session →
        (∃ ambient call, operation = .receive ambient session (.call call) ∧
          call.request = key.request) ∨
        ∃ invocation pending, router.dealer.dealer.pending[invocation]? = some pending ∧
          pending.key = key ∧ Called since key invocation) ∧
      ∀ event, sent = { recipient := session, message := .event event } →
        ∃ topic, Follows (since.filterMap change?) session topic event.subscription := by
  intro start left router since
  have hleft := (together_final realm settings before).isAttached_detach hold
  rw [← Run.final_concat] at hleft
  have hsplit : before ++ .detach session :: after = (before ++ [.detach session]) ++ after := by
    simp
  have htogether : router.Together := together_final realm settings _
  obtain ⟨hlinked, -, hroom⟩ := sound_final _ hinvocations
  obtain ⟨htables, htracks⟩ := tracks_final realm settings _ hsubscriptions
  refine ⟨?_, ?_⟩
  · intro invocation hhanded
    obtain ⟨key, hstands⟩ := hhanded.standsFor hinvocations
    constructor
    · intro ambient message hreplies
      exact accepts_reply_iff hlinked hreplies hstands ambient
    · constructor
      · rintro ⟨operation, routed, hanswer, sent, hsent, -, hmention⟩
        exact mem_pending_of_sent hstands hroom hanswer hsent hmention
      · intro hmem
        exact mentions_of_pending htogether hlinked hnew hstands hmem
  · intro operation routed hanswer sent hsent
    constructor
    · intro key hkey hcaller
      simp only [router, hsplit] at hanswer ⊢
      rw [hsplit] at hinvocations
      exact answered_since hinvocations hleft hanswer hsent hkey hcaller
    · rintro event rfl
      obtain ⟨topic, hfollows⟩ :=
        follows_of_event htracks htables.toCatalogued hanswer hsent
      refine ⟨topic, ?_⟩
      rw [changes_detach hold] at hfollows
      exact hfollows.since

section Reused

def newcomer (id : Id) : Session :=
  { id, realm := "realm1", authid := "", authrole := "", staticSerializer := false }

def anyTime : Ambient := { drawnId := 7, drawnIndex := 0, now := "" }

def openCall (request : Id) : Operation :=
  .receive anyTime 2 (.call {
    request
    options := (∅ : Dict).insert "progress" (.boolean true)
    procedure := "com.sum" })

/-- Session 1 is handed two calls and answers the second. -/
def handedCalls : List Operation :=
  [.attach (newcomer 1), .attach (newcomer 2),
    .receive anyTime 1 (.register { request := 1, options := ∅, procedure := "com.sum" }),
    openCall 1, openCall 2, .receive anyTime 1 (.yield { request := 2, options := ∅ })]

/-- Session 1 comes back as a new session after it was handed two calls. -/
def reusedIdentity : List Operation :=
  handedCalls ++ .detach 1 :: [.attach (newcomer 1)]

theorem handed_handedCalls :
    Handed (Run.history perform (ofSettings "realm1" {}) handedCalls) 1 1 ∧
      Handed (Run.history perform (ofSettings "realm1" {}) handedCalls) 1 2 := by
  let body (invocation : Id) : Invocation :=
    { request := invocation
      registration := 7
      details := (∅ : Dict).insert "progress" (.boolean true) }
  have hfirst : ((Run.final perform (ofSettings "realm1" {}) (handedCalls.take 3)).perform
      (openCall 1)).answer = .ok [{ recipient := 1, message := .invocation (body 1) }] := by
    decide +kernel
  have hsecond : ((Run.final perform (ofSettings "realm1" {}) (handedCalls.take 4)).perform
      (openCall 2)).answer = .ok [{ recipient := 1, message := .invocation (body 2) }] := by
    decide +kernel
  exact ⟨handed_of_answer hfirst, handed_of_answer hsecond⟩

theorem successors_reusedIdentity :
    let router := Run.final perform (ofSettings "realm1" {}) reusedIdentity
    (drawnIds "realm1" {} reusedIdentity).length < maxId.toNat ∧
      (drawnInvocations "realm1" {} reusedIdentity).length < maxId.toNat ∧
      (Run.final perform (ofSettings "realm1" {}) handedCalls).broker.isAttached 1 = true ∧
      router.broker.isAttached 1 = true ∧
      (∃ routed, (router.receive anyTime 1 (.yield { request := 1, options := ∅ })).answer =
        .ok routed) ∧
      ¬ ∃ routed, (router.receive anyTime 1 (.yield { request := 2, options := ∅ })).answer =
        .ok routed := by
  intro router
  have hsubscriptions : (drawnIds "realm1" {} reusedIdentity).length < maxId.toNat := by
    decide +kernel
  have hinvocations : (drawnInvocations "realm1" {} reusedIdentity).length < maxId.toNat := by
    decide +kernel
  have hold : (Run.final perform (ofSettings "realm1" {}) handedCalls).broker.isAttached 1 =
      true := by decide +kernel
  have hnew : router.broker.isAttached 1 = true := by decide +kernel
  have hwaits : 1 ∈ router.dealer.dealer.pending := by decide +kernel
  have hsettled : 2 ∉ router.dealer.dealer.pending := by decide +kernel
  obtain ⟨hhanded, -⟩ :=
    successors_of_run "realm1" {} handedCalls [.attach (newcomer 1)] 1 hsubscriptions hinvocations
      hold hnew
  obtain ⟨hfirst, -⟩ := hhanded 1 handed_handedCalls.1
  obtain ⟨hsecond, -⟩ := hhanded 2 handed_handedCalls.2
  refine ⟨hsubscriptions, hinvocations, hold, hnew, ?_, ?_⟩
  · exact (hfirst anyTime (.yield { request := 1, options := ∅ }) rfl).mpr hwaits
  · intro haccepted
    exact hsettled ((hsecond anyTime (.yield { request := 2, options := ∅ }) rfl).mp haccepted)

/-- The new session is sent what its predecessor was handed, can answer it, and can be interrupted
in it. -/
theorem handed_over_reusedIdentity :
    let router := Run.final perform (ofSettings "realm1" {}) reusedIdentity
    let cancel : Cancel :=
      { request := 1, options := (∅ : Dict).insert "mode" (.text "kill") }
    let continued : Invocation := {
      request := 1
      registration := 7
      details := (∅ : Dict).insert "progress" (.boolean true) }
    (router.receive anyTime 1 (.yield { request := 1, options := ∅ })).answer =
        .ok [{ recipient := 2, message := .result { request := 1, details := ∅ } }] ∧
      (router.perform (openCall 1)).answer =
        .ok [{ recipient := 1, message := .invocation continued }] ∧
      (router.receive anyTime 2 (.cancel cancel)).answer =
        .ok [{
          recipient := 1
          message := .interrupt { request := 1, options := Dealer.interruptOptions .kill } }] := by
  decide +kernel

end Reused

end Router

end Wamp
