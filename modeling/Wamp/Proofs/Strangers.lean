import Wamp.Proofs.Broker.Attachment
import Wamp.Proofs.Dealer.Registrations
import Wamp.Proofs.Router.Components

/-!
# What strangers can do

Brokers, dealers and routers refuse what a session sends that is not attached, with one exception.
The callee of an invocation in flight is not looked up among the sessions when it replies, and a
callee that detaches leaves its invocations in flight.  It can answer them afterwards.
-/

namespace Wamp

/-- The invocation that a message of a callee answers. -/
def Message.repliesTo? : Message → Option Id
  | .yield reply => some reply.request
  | .error reply => if reply.answers = .invocation then some reply.request else none
  | _ => none

theorem Message.repliesTo?_error {reply : ErrorReply} {invocation : Id} :
    Message.repliesTo? (.error reply) = some invocation ↔
      reply.answers = .invocation ∧ reply.request = invocation := by
  simp [Message.repliesTo?]

/-- An operation is refused, and the state stays as it is. -/
def Outcome.Declines {State Error Note Answer : Type} (state : State)
    (outcome : Outcome State Error Note Answer) : Prop :=
  (∃ error, outcome.answer = .error error) ∧ outcome.state = state

theorem declines_refused {State Error Note Answer : Type} (state : State) (error : Error) :
    (Outcome.refused state error : Outcome State Error Note Answer).Declines state :=
  ⟨⟨error, rfl⟩, rfl⟩

/-- Where refusals leave no trace, only the answer matters. -/
theorem Outcome.LeavesNoTrace.declines_iff {State Error Note Answer : Type} {state : State}
    {outcome : Outcome State Error Note Answer} (hclean : outcome.LeavesNoTrace state) :
    outcome.Declines state ↔ ¬ ∃ answer, outcome.answer = .ok answer := by
  cases hanswer : outcome.answer with
  | error error =>
      have hdeclines : outcome.Declines state := by
        rw [hclean error hanswer]
        exact declines_refused state error
      simpa using hdeclines
  | ok answer => simp [Outcome.Declines, hanswer]

/-! ## Dealers -/

namespace Dealer

/-- A message answers an invocation in flight that its sender was handed. -/
def Expects (dealer : Dealer) (session : Id) (message : Message) : Prop :=
  ∃ invocation pending, message.repliesTo? = some invocation ∧
    dealer.pending[invocation]? = some pending ∧ pending.callee = session

variable {dealer : Dealer} {ambient : Ambient} {session : Id}

theorem expects_yield {request : Yield} {pending : Pending}
    (hpending : dealer.pendingFor? session request.request = some pending) :
    dealer.Expects session (.yield request) := by
  obtain ⟨hfound, hcallee⟩ := pendingFor?_eq_some.mp hpending
  exact ⟨request.request, pending, rfl, hfound, hcallee⟩

theorem expects_error {reply : ErrorReply} {pending : Pending}
    (hanswers : reply.answers = .invocation)
    (hpending : dealer.pendingFor? session reply.request = some pending) :
    dealer.Expects session (.error reply) := by
  obtain ⟨hfound, hcallee⟩ := pendingFor?_eq_some.mp hpending
  exact ⟨reply.request, pending, if_pos hanswers, hfound, hcallee⟩

/-- Whoever is served is attached, or answers an invocation, or cancels a call. -/
theorem Tables.sender (htables : dealer.Tables) {message : Message} {state : Dealer}
    {routed : List Routed}
    (hserves : dealer.Serves (.receive ambient session message) state routed) :
    dealer.isAttached session = true ∨ dealer.Expects session message ∨
      ∃ request, message = .cancel request := by
  cases hserves with
  | registered _ _ _ hattached => exact Or.inl hattached
  | joined _ _ _ _ _ hattached => exact Or.inl hattached
  | rejected _ _ _ hattached => exact Or.inl hattached
  | unregistered _ _ _ _ hrow =>
      exact Or.inl ((htables.attached_iff session).mp (Table.mem_of_getElem? hrow))
  | unresolved _ _ _ _ hcaller => exact Or.inl (isAttached_iff.mpr ⟨_, hcaller⟩)
  | dispatched _ _ _ _ _ _ _ _ _ hcaller => exact Or.inl (isAttached_iff.mpr ⟨_, hcaller⟩)
  | continued _ _ _ _ _ _ _ hcaller => exact Or.inl (isAttached_iff.mpr ⟨_, hcaller⟩)
  | closed _ _ _ _ _ _ _ hcaller => exact Or.inl (isAttached_iff.mpr ⟨_, hcaller⟩)
  | killed _ _ _ _ _ hpending => exact Or.inr (Or.inl (expects_yield hpending))
  | progressed _ _ _ _ _ hpending => exact Or.inr (Or.inl (expects_yield hpending))
  | finished _ _ _ _ _ hpending => exact Or.inr (Or.inl (expects_yield hpending))
  | failed _ _ _ _ hanswers hpending =>
      exact Or.inr (Or.inl (expects_error hanswers hpending))
  | skipped _ _ request | interrupted _ _ request | aborted _ _ request =>
      exact Or.inr (Or.inr ⟨request, rfl⟩)

/-- The index files a call under a caller that is attached. -/
theorem Linked.canceler (hlinked : dealer.Linked) {request : Cancel} {state : Dealer}
    {routed : List Routed}
    (hserves : dealer.Serves (.receive ambient session (.cancel request)) state routed) :
    dealer.isAttached session = true := by
  have hfiled : ∀ (invocation : Id) (pending : Pending),
      dealer.invocationOf[({ caller := session, request := request.request } : CallKey)]? =
        some invocation → dealer.pending[invocation]? = some pending →
      dealer.isAttached session = true := by
    intro invocation pending hindex hpending
    have hkey := hlinked.indexed.key_of_invocationOf hindex hpending
    have hcaller : pending.caller = session := congrArg CallKey.caller hkey
    rw [← hcaller]
    exact hlinked.caller_attached invocation pending hpending
  cases hserves with
  | skipped _ _ _ invocation pending hmode hindex hpending =>
      exact hfiled invocation pending hindex hpending
  | interrupted _ _ _ invocation pending hmode hindex hpending =>
      exact hfiled invocation pending hindex hpending
  | aborted _ _ _ invocation pending hmode hindex hpending =>
      exact hfiled invocation pending hindex hpending

/-- The reply to an invocation in flight is accepted, because its caller is attached. -/
theorem Linked.accepts_reply (hlinked : dealer.Linked) {message : Message}
    (hexpects : dealer.Expects session message) (ambient : Ambient) :
    ∃ routed, (dealer.receive ambient session message).answer = .ok routed := by
  obtain ⟨invocation, pending, hreplies, hpending, hcallee⟩ := hexpects
  have hfor : dealer.pendingFor? session invocation = some pending :=
    pendingFor?_eq_some.mpr ⟨hpending, hcallee⟩
  have hattached := hlinked.caller_attached invocation pending hpending
  cases message with
  | yield request =>
      obtain rfl := Option.some.inj hreplies
      obtain ⟨caller, hcaller⟩ := isAttached_iff.mp hattached
      simp only [receive, yield, hfor, hcaller]
      split <;> exact ⟨_, rfl⟩
  | error reply =>
      obtain ⟨hanswers, rfl⟩ := Message.repliesTo?_error.mp hreplies
      simp only [receive, invocationError, if_pos hanswers, hfor, if_pos hattached]
      exact ⟨_, rfl⟩
  | _ => simp [Message.repliesTo?] at hreplies

theorem Linked.accepts_reply_iff (hlinked : dealer.Linked) {message : Message} {invocation : Id}
    (hreplies : message.repliesTo? = some invocation) (ambient : Ambient) :
    (∃ routed, (dealer.receive ambient session message).answer = .ok routed) ↔
      dealer.Expects session message := by
  constructor
  · rintro ⟨routed, hanswer⟩
    have hserves : dealer.Serves (.receive ambient session message) _ routed :=
      serves_of_granted hanswer
    generalize (dealer.perform (.receive ambient session message)).state = state at hserves
    cases hserves with
    | killed _ _ _ _ _ hpending => exact expects_yield hpending
    | progressed _ _ _ _ _ hpending => exact expects_yield hpending
    | finished _ _ _ _ _ hpending => exact expects_yield hpending
    | failed _ _ _ _ hanswers hpending => exact expects_error hanswers hpending
    | _ => simp [Message.repliesTo?] at hreplies
  · intro hexpects
    exact hlinked.accepts_reply hexpects ambient

theorem Linked.receive_stranger (hlinked : dealer.Linked) (htables : dealer.Tables)
    (hstranger : dealer.isAttached session = false) (ambient : Ambient) (message : Message) :
    (∃ routed, (dealer.receive ambient session message).answer = .ok routed) ↔
      dealer.Expects session message := by
  have hunattached : ¬ dealer.isAttached session = true := by simp [hstranger]
  constructor
  · rintro ⟨routed, hanswer⟩
    have hserves : dealer.Serves (.receive ambient session message) _ routed :=
      serves_of_granted hanswer
    rcases htables.sender hserves with hattached | hexpects | ⟨request, rfl⟩
    · exact absurd hattached hunattached
    · exact hexpects
    · exact absurd (hlinked.canceler hserves) hunattached
  · intro hexpects
    exact hlinked.accepts_reply hexpects ambient

end Dealer

namespace AnnouncingDealer

variable {board : Board} {operations : List Operation} {session : Id}

theorem refuses_stranger
    (hstranger : (Run.final perform { board } operations).dealer.isAttached session = false)
    {ambient : Ambient} {message : Message} (hreplies : message.repliesTo? = none)
    (hcancels : ∀ request, message ≠ .cancel request) :
    ¬ ∃ routed, ((Run.final perform { board } operations).receive ambient session message).answer =
      .ok routed := by
  rintro ⟨routed, hanswer⟩
  have hserves : Dealer.Serves _ (.receive ambient session message) _ routed :=
    Dealer.serves_of_granted hanswer
  rcases (tables_final board operations).sender hserves with hattached | hexpects | ⟨request, rfl⟩
  · rw [hstranger] at hattached
    contradiction
  · obtain ⟨_, _, hsome, -⟩ := hexpects
    rw [hreplies] at hsome
    contradiction
  · exact hcancels request rfl

theorem receive_stranger (hdrawn : (drawnIds board operations).length < maxId.toNat)
    (hstranger : (Run.final perform { board } operations).dealer.isAttached session = false)
    (ambient : Ambient) (message : Message) :
    (∃ routed, ((Run.final perform { board } operations).receive ambient session message).answer =
      .ok routed) ↔
      (Run.final perform { board } operations).dealer.Expects session message :=
  (sound_final operations hdrawn).1.receive_stranger (tables_final board operations) hstranger
    ambient message

theorem declines_iff (announcing : AnnouncingDealer) (ambient : Ambient) (session : Id)
    (message : Message) :
    (announcing.receive ambient session message).Declines announcing ↔
      ¬ ∃ routed, (announcing.receive ambient session message).answer = .ok routed :=
  (announcing.leavesNoTrace_perform (.serve (.receive ambient session message))).declines_iff

end AnnouncingDealer

/-! ## Routers -/

namespace Router

variable {router : Router} {ambient : Ambient} {session : Id} {message : Message}

theorem declines_iff (router : Router) (ambient : Ambient) (session : Id) (message : Message) :
    (router.receive ambient session message).Declines router ↔
      ¬ ∃ routed, (router.receive ambient session message).answer = .ok routed := by
  cases hanswer : (router.receive ambient session message).answer with
  | error error =>
      have hstate := congrArg Outcome.state (router.receive_of_error hanswer)
      simpa [Outcome.Declines, hanswer] using hstate
  | ok routed => simp [Outcome.Declines, hanswer]

/-- A router takes from a stranger what its dealer takes, and nothing else. -/
theorem accepts_stranger_iff (hrostered : router.broker.Rostered)
    (hstranger : router.broker.isAttached session = false) (ambient : Ambient)
    (message : Message) :
    (∃ routed, (router.receive ambient session message).answer = .ok routed) ↔
      ∃ routed, (router.dealer.receive ambient session message).answer = .ok routed := by
  have hbroker : ∀ part, Operation.forBroker? router.realm (.receive ambient session message) =
      some part → (∃ error, (router.broker.perform part).answer = .error error) →
      ¬ ∃ routed, (router.receive ambient session message).answer = .ok routed := by
    intro part hpart hrefused
    obtain ⟨error, hanswer⟩ := hrefused
    rw [router.answer_of_forBroker? hpart]
    simp only [mapError_eq_ok_iff]
    exact not_ok_of_error hanswer
  cases message with
  | register | unregister | call | yield | cancel | error =>
      rw [router.answer_of_forDealer? rfl]
      simp only [mapError_eq_ok_iff]
      rfl
  | publish request =>
      obtain ⟨error, hrefused⟩ := Broker.refuses_publish hstranger ambient request
      refine iff_of_false (hbroker _ rfl ⟨error, ?_⟩) (not_ok_of_error rfl)
      rw [Broker.perform, hrefused]
      rfl
  | subscribe request =>
      obtain ⟨error, hrefused⟩ := hrostered.refuses_receive hstranger (.subscribe request)
      refine iff_of_false (hbroker _ rfl ⟨error, ?_⟩) (not_ok_of_error rfl)
      rw [Broker.perform, hrefused]
      rfl
  | unsubscribe request =>
      obtain ⟨error, hrefused⟩ := hrostered.refuses_receive hstranger (.unsubscribe request)
      refine iff_of_false (hbroker _ rfl ⟨error, ?_⟩) (not_ok_of_error rfl)
      rw [Broker.perform, hrefused]
      rfl
  | _ => exact iff_of_false (not_ok_of_error rfl) (not_ok_of_error rfl)

end Router

/-- Only attached sessions can act, but for callees that are gone.  Whatever a broker has been
through, it refuses all that a session sends which is not attached, and stays as it is.  So does a
dealer with all but replies and cancels, and as long as its counter of the invocations has room it
refuses these too, unless the session was handed an invocation in flight and replies to it.  A
router refuses what its components refuse. -/
theorem strangers_of_run (session : Id) (ambient : Ambient) (message : Message) :
    (∀ operations : List Broker.Operation,
      let broker := Run.final Broker.perform {} operations
      broker.isAttached session = false →
        (broker.receive session message).Declines broker ∧
        ∀ request, (broker.publish ambient session request).Declines broker) ∧
    (∀ (board : Board) (operations : List AnnouncingDealer.Operation),
      let announcing := Run.final AnnouncingDealer.perform { board } operations
      announcing.dealer.isAttached session = false →
        (message.repliesTo? = none → (∀ request, message ≠ .cancel request) →
          (announcing.receive ambient session message).Declines announcing) ∧
        ((AnnouncingDealer.drawnIds board operations).length < maxId.toNat →
          ((announcing.receive ambient session message).Declines announcing ↔
            ¬ announcing.dealer.Expects session message))) ∧
    ∀ (realm : String) (settings : Settings) (operations : List Router.Operation),
      let router := Run.final Router.perform (.ofSettings realm settings) operations
      router.broker.isAttached session = false →
        (message.repliesTo? = none → (∀ request, message ≠ .cancel request) →
          (router.receive ambient session message).Declines router) ∧
        ((Router.drawnInvocations realm settings operations).length < maxId.toNat →
          ((router.receive ambient session message).Declines router ↔
            ¬ router.dealer.dealer.Expects session message)) := by
  refine ⟨?_, ?_, ?_⟩
  · intro operations broker hstranger
    constructor
    · obtain ⟨error, hrefused⟩ :=
        (Broker.rostered_final operations).refuses_receive hstranger message
      rw [hrefused]
      exact declines_refused broker error
    · intro request
      obtain ⟨error, hrefused⟩ := Broker.refuses_publish hstranger ambient request
      rw [hrefused]
      exact declines_refused broker error
  · intro board operations announcing hstranger
    constructor
    · intro hreplies hcancels
      rw [announcing.declines_iff]
      exact AnnouncingDealer.refuses_stranger hstranger hreplies hcancels
    · intro hdrawn
      rw [announcing.declines_iff, AnnouncingDealer.receive_stranger hdrawn hstranger]
  · intro realm settings operations router hstranger
    have hrostered : router.broker.Rostered := by
      rw [Router.broker_final]
      exact Broker.rostered_final _
    have hgone : router.dealer.dealer.isAttached session = false :=
      ((Router.together_final realm settings operations).isAttached_eq session).trans hstranger
    rw [router.declines_iff, Router.accepts_stranger_iff hrostered hstranger,
      Router.drawnInvocations_eq]
    rw [Router.dealer_final] at hgone ⊢
    constructor
    · intro hreplies hcancels
      exact AnnouncingDealer.refuses_stranger hgone hreplies hcancels
    · intro hdrawn
      rw [AnnouncingDealer.receive_stranger hdrawn hgone]

namespace Router

/-- Session 1 detaches while session 2 waits for its answer. -/
def departedCallee : List Operation :=
  let member (id : Id) : Session :=
    { id, realm := "realm1", authid := "", authrole := "", staticSerializer := false }
  let ambient : Ambient := { drawnId := 7, drawnIndex := 0, now := "" }
  [.attach (member 1), .attach (member 2),
    .receive ambient 1 (.register { request := 1, options := ∅, procedure := "com.sum" }),
    .receive ambient 2 (.call { request := 1, options := ∅, procedure := "com.sum" }),
    .detach 1]

theorem strangers_departedCallee :
    let ambient : Ambient := { drawnId := 7, drawnIndex := 0, now := "" }
    let router := Run.final perform (ofSettings "realm1" {}) departedCallee
    router.broker.isAttached 1 = false ∧
      (drawnInvocations "realm1" {} departedCallee).length < maxId.toNat ∧
      (router.receive ambient 1 (.unregister { request := 2, registration := 7 })).Declines
        router ∧
      (router.receive ambient 1 (.yield { request := 2, options := ∅ })).Declines router ∧
      ¬ (router.receive ambient 1 (.yield { request := 1, options := ∅ })).Declines router := by
  intro ambient router
  have hstranger : router.broker.isAttached 1 = false := by decide +kernel
  have hdrawn : (drawnInvocations "realm1" {} departedCallee).length < maxId.toNat := by
    decide +kernel
  have hgone : router.dealer.dealer.pending[2]? = none := by decide +kernel
  have hwaits : (router.dealer.dealer.pending[1]?).map (·.callee) = some 1 := by
    decide +kernel
  have hdeclines := fun message =>
    (strangers_of_run 1 ambient message).2.2 "realm1" {} departedCallee hstranger
  refine ⟨hstranger, hdrawn, (hdeclines _).1 rfl (by simp), ?_, ?_⟩
  · rw [(hdeclines _).2 hdrawn]
    rintro ⟨invocation, pending, hreplies, hpending, -⟩
    obtain rfl := Option.some.inj hreplies
    rw [hgone] at hpending
    contradiction
  · rw [(hdeclines _).2 hdrawn, not_not]
    obtain ⟨pending, hpending, hcallee⟩ := Option.map_eq_some_iff.mp hwaits
    exact ⟨1, pending, rfl, hpending, hcallee⟩

/-- The answer of the callee that is gone reaches the caller and ends the call. -/
theorem not_declines_departedCallee :
    let ambient : Ambient := { drawnId := 7, drawnIndex := 0, now := "" }
    let router := Run.final perform (ofSettings "realm1" {}) departedCallee
    let outcome := router.receive ambient 1 (.yield { request := 1, options := ∅ })
    router.broker.isAttached 1 = false ∧ router.dealer.dealer.isAttached 1 = false ∧
      outcome.answer = .ok [{ recipient := 2, message := .result { request := 1, details := ∅ } }] ∧
      outcome.state ≠ router := by
  decide +kernel

end Router

end Wamp
