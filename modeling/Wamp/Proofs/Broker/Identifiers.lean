import Wamp.Proofs.Broker.Sending
import Wamp.Proofs.Broker.Tables

/-!
# The identifiers of subscriptions

A subscription disappears with its last subscriber, and its topic may be subscribed to again
under another identifier.  Below, an identifier is followed through a run.  Once a session was
told it, it stands for the topic that the session asked for or for nothing.
-/

namespace Wamp.Broker

/-- An operation never gives a passed identifier to another topic or policy. -/
theorem Tables.named_perform {broker : Broker} (htables : broker.Tables)
    (hroom : broker.ids.last.toNat < maxId.toNat) (operation : Operation) {id : Id}
    (hpassed : id ≤ broker.ids.last.toNat) {name : String × MatchPolicy}
    (hname : (broker.perform operation).state.named id = some name) :
    broker.named id = some name := by
  cases operation with
  | attach session =>
      simp only [Broker.perform, Broker.addSession] at hname
      split at hname <;> exact hname
  | detach session =>
      simp only [Broker.perform, Broker.removeSession] at hname
      split at hname
      next =>
        simp only [Outcome.state_granted] at hname
        have hbefore := named_removeSubscriberFromAll _ _ _ _ hname
        exact hbefore
      next => exact hname
  | receive session message =>
      cases message with
      | subscribe request =>
          simp only [Broker.perform, receive, Broker.subscribe] at hname
          split at hname
          next =>
            obtain ⟨chosen, next, notes, found, hchosen, hprovides⟩ :=
              htables.provides hroom request
            simp only [hchosen, Outcome.state_granted, named_modify] at hname
            by_cases hsame : id = chosen
            · subst hsame
              -- A subscription that is new has a number that the counter had yet to reach.
              have hold : id ≠ broker.ids.next.1 := by
                rintro rfl
                have hle : broker.ids.next.2.last.toNat ≤ broker.ids.last.toNat := hpassed
                rw [IdCounter.last_next hroom] at hle
                omega
              rw [hprovides.old_or_new.resolve_right hold]
              exact hname
            · unfold named at hname ⊢
              rwa [hprovides.others id hsame] at hname
          next => exact hname
      | unsubscribe request =>
          simp only [Broker.perform, receive, Broker.unsubscribe] at hname
          split at hname
          next => exact hname
          next =>
            split at hname
            next =>
              simp only [Outcome.state_granted] at hname
              have hbefore := named_removeSubscriber _ _ _ _ hname
              exact hbefore
            next => exact hname
      | _ => exact hname
  | publish ambient session request =>
      simp only [Broker.perform] at hname
      rwa [state_publish] at hname
  | disclose on => exact hname

/-- Through a whole run a passed identifier stands for what it stood for, or for nothing. -/
theorem Tables.named_final {broker : Broker} (htables : broker.Tables) {id : Id}
    (hpassed : id ≤ broker.ids.last.toNat) (operations : List Operation)
    (hroom : broker.ids.last.toNat +
      (Run.drawn Broker.perform Broker.ids broker operations).length < maxId.toNat)
    {name : String × MatchPolicy}
    (hname : (Run.final Broker.perform broker operations).named id = some name) :
    broker.named id = some name := by
  have hkeeps := Run.final_induction_of_drawn
    (fun later : Broker => later.Tables ∧ id ≤ later.ids.last.toNat ∧
      ∀ name, later.named id = some name → broker.named id = some name)
    countsUp ?_ ⟨htables, hpassed, fun _ h => h⟩ operations hroom
  · exact hkeeps.2.2 name hname
  · rintro later operation hlast ⟨hlater, hle, hnames⟩
    refine ⟨hlater.perform hlast operation, ?_, ?_⟩
    · rcases countsUp later operation with hkept | hnext
      · rw [hkept]
        exact hle
      · have hlast := IdCounter.last_next hlast
        rw [hnext, hlast]
        exact Nat.le_succ_of_le hle
    · intro name hname
      exact hnames name (hlater.named_perform hlast operation hle hname)

/-- An identifier is handed out for the topic that the session asked for. -/
theorem Tables.named_of_subscribed {broker : Broker} (htables : broker.Tables)
    (hroom : broker.ids.last.toNat < maxId.toNat) {operation : Operation}
    {routed : List Routed} (hanswer : (broker.perform operation).answer = .ok routed)
    {recipient : Id} {reply : Subscribed}
    (hreply : { recipient, message := .subscribed reply } ∈ routed) :
    ∃ request policy, operation = .receive recipient (.subscribe request) ∧
      (broker.perform operation).state.named reply.subscription =
        some (request.topic, policy) := by
  have hsends := sends_of_mem hanswer hreply
  generalize hsubscribed :
    ({ recipient, message := .subscribed reply } : Routed) = sent at hsends
  cases hsends with
  | subscribed session request id =>
      obtain ⟨rfl, rfl⟩ : recipient = session ∧
          reply = { request := request.request, subscription := id } := by
        simpa using hsubscribed
      simp only [Broker.perform, receive, Broker.subscribe] at hanswer ⊢
      split at hanswer
      next hattached =>
        obtain ⟨chosen, next, notes, found, hchosen, hprovides⟩ := htables.provides hroom request
        simp only [if_pos hattached, hchosen, Outcome.answer_granted, Except.map,
          Except.ok.injEq] at hanswer ⊢
        rw [← hanswer] at hreply
        obtain rfl : id = chosen := by simpa using hreply
        refine ⟨request, found.policy, rfl, ?_⟩
        rw [Outcome.state_granted, named_modify, named_eq_some hprovides.getElem?_self,
          hprovides.topic_eq]
      next => simp [Except.map] at hanswer
  | unsubscribed | event | published => simp at hsubscribed

/-- Whatever identifier a run hands out stands for the topic that its session asked for, and
never stands for another topic or policy later in the run. -/
def KeepsNames (operations : List Operation) : Prop :=
  ∀ before operation after, operations = before ++ operation :: after →
    ∀ routed recipient reply,
      (perform (Run.final perform {} before) operation).answer = .ok routed →
      { recipient, message := .subscribed reply } ∈ routed →
      ∃ request policy, operation = .receive recipient (.subscribe request) ∧
        (Run.final perform {} (before ++ [operation])).named reply.subscription =
          some (request.topic, policy) ∧
        ∀ middle rest, after = middle ++ rest → ∀ name,
          (Run.final perform {} (before ++ operation :: middle)).named reply.subscription =
            some name →
          name = (request.topic, policy)

theorem keepsNames (operations : List Operation)
    (hdrawn : (drawnIds operations).length < maxId.toNat) : KeepsNames operations := by
  rintro before operation after rfl routed recipient reply hanswer hreply
  have hbefore : (drawnIds before).length ≤ (drawnIds (before ++ operation :: after)).length :=
    Run.length_drawn_le perform Broker.ids {} before (operation :: after)
  have htables := tables_final before (Nat.lt_of_le_of_lt hbefore hdrawn)
  have hroom := Run.room_append countsUp {} before (operation :: after)
    (by simpa [drawnIds] using hdrawn)
  have hlast : (Run.final perform {} before).ids.last.toNat < maxId.toNat := by omega
  obtain ⟨request, policy, hsubscribe, hname⟩ :=
    htables.named_of_subscribed hlast hanswer hreply
  have hperformed := htables.perform hlast operation
  have hpassed := (hperformed.counted reply.subscription (by simp [mem_subscriptions_iff, hname])).2
  refine ⟨request, policy, hsubscribe, by rwa [Run.final_concat], ?_⟩
  rintro middle rest rfl name hlater
  have hdrawing : ((Run.final perform {} before).perform operation).state.ids.last.toNat +
      (Run.drawn perform Broker.ids ((Run.final perform {} before).perform operation).state
        (middle ++ rest)).length < maxId.toNat := by
    have hrest := Run.room_append countsUp (Run.final perform {} before) [operation]
      (middle ++ rest) hroom
    exact hrest
  have hmiddle := Run.length_drawn_le perform Broker.ids
    ((Run.final perform {} before).perform operation).state middle rest
  rw [Run.final_append, Run.final_cons] at hlater
  have hhanded := hperformed.named_final hpassed middle (by omega) hlater
  rw [hname, Option.some.injEq] at hhanded
  exact hhanded.symm

/-- The tables of a broker agree after every run that draws fewer than `2 ^ 53` identifiers.
The identifiers in use are among the drawn ones, and none is ever used for a second name. -/
theorem tables_of_run (operations : List Operation)
    (hdrawn : (drawnIds operations).length < maxId.toNat) :
    (Run.final perform {} operations).Tables ∧
      (∀ session id, (Run.final perform {} operations).Subscribes session id →
        (Run.final perform {} operations).isAttached session = true) ∧
      (∀ id, id ∈ (Run.final perform {} operations).subscriptions →
        id ∈ drawnIds operations) ∧
      KeepsNames operations := by
  have htables := tables_final operations hdrawn
  refine ⟨htables, fun session id => htables.attached_of_subscribes, ?_,
    keepsNames operations hdrawn⟩
  intro id hmem
  have hroom : ({} : Broker).ids.last.toNat + (drawnIds operations).length ≤ maxId.toNat := by
    simpa using Nat.le_of_lt hdrawn
  exact (Run.mem_drawn_iff countsUp {} operations hroom id).mpr (htables.counted id hmem)

/-- A topic is subscribed to by prefix, left by everybody, and subscribed to anew. -/
def renewedTopic : List Operation :=
  let options : Dict := (∅ : Dict).insert "match" (.text "prefix")
  let member (id : Id) : Session :=
    { id, realm := "realm1", authid := "", authrole := "", staticSerializer := false }
  [.attach (member 1), .attach (member 2),
    .receive 1 (.subscribe { request := 1, options, topic := "com.news" }),
    .receive 2 (.subscribe { request := 1, options := ∅, topic := "com.news" }),
    .receive 1 (.unsubscribe { request := 2, subscription := 1 }), .detach 2,
    .receive 1 (.subscribe { request := 3, options := ∅, topic := "com.news" })]

theorem tables_of_run_renewedTopic :
    drawnIds renewedTopic = [1, 2] ∧ (drawnIds renewedTopic).length < maxId.toNat ∧
      (Run.final perform {} renewedTopic).Tables ∧ KeepsNames renewedTopic := by
  have hdrawn : drawnIds renewedTopic = [1, 2] := by decide +kernel
  have hlength : (drawnIds renewedTopic).length < maxId.toNat := by
    rw [hdrawn]
    decide
  have htables := tables_of_run renewedTopic hlength
  exact ⟨hdrawn, hlength, htables.1, htables.2.2.2⟩

end Wamp.Broker
